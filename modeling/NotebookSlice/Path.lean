/-!
# Paths

A path is a text with slashes between its parts. The functions below work on the text alone and do
not ask which files there are.
-/

namespace NotebookSlice.Path

/-- Whether the path starts at the root. -/
def isAbsolute (path : String) : Bool := path.startsWith "/"

/-- The parts between slashes, empty ones included. -/
def parts (path : String) : List String := (path.toList.splitOn '/').map String.ofList

/-- The path of a file relative to a directory; an absolute path is independent of the directory. -/
def join (directory path : String) : String :=
  if isAbsolute path then path
  else if directory.isEmpty || directory.endsWith "/" then directory ++ path
  else directory ++ "/" ++ path

/-- Whether the path names the current directory by dots only. -/
def isHere (path : String) : Bool :=
  match parts path with
  | first :: others => first == "." && others.all fun part => part == "." || part.isEmpty
  | [] => false

/-- The last part that counts: neither an empty part nor a dot, except at the start of the path. -/
def fileName? (path : String) : Option String :=
  match (parts path).filter fun part => !part.isEmpty && part != "." with
  | [] => none
  | first :: others =>
    let last := (first :: others).getLast (by simp)
    if last == ".." then none else some last

/-- What follows the last dot of the file name; a dot at its start does not count. -/
def extension? (path : String) : Option String :=
  (fileName? path).bind fun name =>
    match (name.splitOn ".").reverse with
    | [] | [_] => none
    | [_, ""] => none
    | last :: _ => some last

end NotebookSlice.Path

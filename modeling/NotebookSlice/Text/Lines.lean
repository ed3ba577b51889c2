/-!
# Lines of a text

A line ends with a line feed, or with a carriage return and a line feed; the end of the text also
ends a line unless the line would be empty. The characters that end a line are not part of it, but a
carriage return at the end of an unfinished last line is.
-/

namespace NotebookSlice.Text

/-- A line without the carriage return before its line feed. -/
def dropReturn (line : List Char) : List Char :=
  if line.getLast? = some '\r' then line.dropLast else line

/-- The lines of a text, of which `line` has been read in reverse. -/
def linesFrom (line : List Char) : List Char → List (List Char)
  | [] => if line.isEmpty then [] else [line.reverse]
  | char :: rest =>
    if char = '\n' then dropReturn line.reverse :: linesFrom [] rest
    else linesFrom (char :: line) rest

/-- The lines of a text. -/
def lines (text : String) : List String := (linesFrom [] text.toList).map String.ofList

/-- The stretches between line feeds, at least one, carriage returns included. -/
def rows (text : List Char) : List (List Char) := text.splitOn '\n'

/-- Rows with line feeds between them. -/
def joinRows (rows : List (List Char)) : List Char := ['\n'].intercalate rows

end NotebookSlice.Text

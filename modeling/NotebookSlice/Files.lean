/-!
# Files

What the commands need to know of a file system, as operations of a monad. A failing operation has
no result or says so; why it failed does not matter to any command.
-/

namespace NotebookSlice

/-- Access to a file system. -/
structure Files (m : Type → Type) where
  /-- The current directory, as an absolute path. -/
  currentDirectory : m String
  /-- The absolute path of an existing file or directory, without dots and links. -/
  resolve? : String → m (Option String)
  /-- Whether there is a file or a directory. -/
  doesExist : String → m Bool
  /-- The contents of a file, if they are text. -/
  read? : String → m (Option String)
  /-- Writes a file and says whether this succeeded. -/
  write : String → String → m Bool
  /-- Makes a directory with all directories above it, and says whether it is there now. -/
  makeDirectories : String → m Bool

end NotebookSlice

import NotebookSlice.Slice

/-!
# Programs

A slice becomes a program: a preamble, then for each group a marker line and the kept lines. The
empty slice becomes the empty text.
-/

namespace NotebookSlice.Program

/-- The marker line between groups, unless another is chosen. -/
def defaultMarker : String := "# %%"

/-- The comment at the head of every program. -/
def defaultPreamble : String :=
  "# This file was generated by gathering the code a notebook cell depends on.\n" ++
  "# It contains only the statements needed to reproduce that cell's results.\n\n"

end NotebookSlice.Program

namespace NotebookSlice

/-- How programs are laid out. -/
structure Template where
  marker : String := Program.defaultMarker
  preamble : String := Program.defaultPreamble
deriving DecidableEq, Repr, Inhabited

namespace Template

/-- The lines of a group below its marker. -/
def groupLines (template : Template) (group : Group) : List String := template.marker :: group.lines

/-- The program of a slice. -/
def render (template : Template) (slice : Slice) : String :=
  if slice.isEmpty then ""
  else template.preamble ++
    String.join ((slice.groups.flatMap template.groupLines).map fun line => line ++ "\n")

end Template

end NotebookSlice

import NotebookSlice.Record

/-!
# Slices

A slice is what a target execution depends on: for each execution that contributes to it, in the
order in which they took place, the statements that are kept and their lines.
-/

namespace NotebookSlice

/-- What is kept of one execution. -/
structure Group where
  cell : CellId
  event : EventId
  count : Option UInt32
  /-- The numbers of the statements that are kept, in ascending order. -/
  statements : List Nat
  /-- The lines of these statements. -/
  lines : List String
deriving DecidableEq, Repr, Inhabited

namespace Group

/-- The kept lines as one text. -/
def text (group : Group) : String := "\n".intercalate group.lines

end Group

/-- What a target depends on; the slice of an unknown target has no target and no groups. -/
structure Slice where
  target : Option EventId := none
  groups : List Group := []
deriving DecidableEq, Repr, Inhabited

namespace Slice

/-- Whether nothing is kept. -/
def isEmpty (slice : Slice) : Bool := slice.groups.isEmpty

end Slice

end NotebookSlice

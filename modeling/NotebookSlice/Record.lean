import NotebookSlice.Text.Lines

/-!
# Cells and their executions

A cell of a notebook keeps its identity while it is edited and executed again; each execution has an
identity of its own. What is kept of an execution is its record: the text that was executed, the
count that the notebook showed for it, and whether it failed.
-/

namespace NotebookSlice

/-- The identity of a cell. -/
structure CellId where
  text : String
deriving DecidableEq, Hashable, Repr, Inhabited

/-- The identity of one execution of a cell. -/
structure EventId where
  text : String
deriving DecidableEq, Hashable, Repr, Inhabited

/-- What a cell holds. -/
inductive CellKind where
  | code
  | markdown
  | raw
deriving DecidableEq, Repr, Inhabited

/-- How far the execution of a cell has come. -/
inductive CellState where
  | init
  | executing
  | finished
  | error
deriving DecidableEq, Repr, Inhabited

/-- A cell as the notebook shows it. -/
structure Cell where
  id : CellId
  kind : CellKind
  source : String
  count : Option UInt32 := none
  state : CellState := .finished
deriving DecidableEq, Repr, Inhabited

/-- One execution of a code cell. -/
structure Record where
  cell : CellId
  event : EventId
  text : String
  count : Option UInt32
  failed : Bool
deriving DecidableEq, Repr, Inhabited

namespace Record

/-- The lines of the executed text. -/
def lines (record : Record) : List String := Text.lines record.text

end Record

namespace Cell

/-- The record of an execution of a cell; only code is executed. -/
def record? (cell : Cell) (event : EventId) : Option Record :=
  if cell.kind = .code then
    some
      { cell := cell.id
        event
        text := cell.source
        count := cell.count
        failed := decide (cell.state = .error) }
  else none

end Cell

end NotebookSlice

import NotebookSlice.Log
import NotebookSlice.Slice.Search

/-!
# Slices of a log

The slice of an execution is taken on its timeline: the executions logged up to it, with the facts
that the log holds about them.
-/

namespace NotebookSlice.Log

/-- The timeline of an execution. -/
def timeline? (log : Log) (target : EventId) : Option Timeline :=
  (log.upTo? target).bind <|
    Timeline.ofHistory? fun record => (log.facts? record.event).getD {}

/-- What an execution depends on; an unknown execution has the empty slice. -/
def slice (log : Log) (target : EventId) : Slice :=
  match log.timeline? target with
  | none => {}
  | some timeline => { target := some target, groups := timeline.groups }

/-- What the last execution of a cell depends on; a cell that was not executed has the empty
slice. -/
def sliceLatest (log : Log) (cell : CellId) : Slice :=
  match log.latest? cell with
  | none => {}
  | some record => log.slice record.event

end NotebookSlice.Log

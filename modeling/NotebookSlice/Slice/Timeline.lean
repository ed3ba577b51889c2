import NotebookSlice.Facts.Statement
import NotebookSlice.Record
import NotebookSlice.Slice

/-!
# Timelines

Executions took place in the order of their moments. The moment of an execution is the ordinal in
force, which is its count or else the count of the nearest earlier execution that has one, and its
position in the log. The timeline of a target holds the target and the executions at earlier moments
among those that were logged before it.
-/

namespace NotebookSlice

/-- When an execution took place. -/
structure Moment where
  ordinal : Nat
  position : Nat
deriving DecidableEq, Repr, Inhabited

namespace Moment

/-- Whether a moment is earlier than another. -/
def precedes (first second : Moment) : Bool :=
  first.ordinal < second.ordinal ||
    (first.ordinal == second.ordinal && first.position < second.position)

end Moment

/-- The ordinals in force at each record, when a record without a count inherits the given one. -/
def ordinals (inherited : Nat) : List Record → List Nat
  | [] => []
  | record :: later =>
    let ordinal := (record.count.map UInt32.toNat).getD inherited
    ordinal :: ordinals ordinal later

/-- The moments of records that were logged in this order. -/
def moments (history : List Record) : List Moment :=
  (ordinals 0 history).zipIdx.map fun (ordinal, position) => ⟨ordinal, position⟩

/-- An execution that may take part in a slice. -/
structure Candidate where
  moment : Moment
  record : Record
  facts : Facts
deriving DecidableEq, Inhabited

namespace Candidate

/-- Whether the candidate is not later than another. -/
def notAfter (first second : Candidate) : Bool := !second.moment.precedes first.moment

/-- What is kept of the candidate, given statements and lines. -/
def group (candidate : Candidate) (statements : List Nat) (lines : List String) : Group where
  cell := candidate.record.cell
  event := candidate.record.event
  count := candidate.record.count
  statements
  lines

/-- The whole text, without regard to statements. -/
def whole (candidate : Candidate) : Group := candidate.group [] candidate.record.lines

/-- The lines that belong to at least one of the statements with the given numbers. -/
def linesOf (candidate : Candidate) (numbers : List Nat) : List String :=
  let statements := numbers.filterMap fun number => candidate.facts.statements[number]?
  (candidate.record.lines.zipIdx.filter fun (_, line) =>
    statements.any fun statement =>
      statement.startLine ≤ line && line ≤ statement.endLine).map (·.1)

/-- The statements with the given numbers. -/
def keep (candidate : Candidate) (numbers : List Nat) : Group :=
  candidate.group numbers (candidate.linesOf numbers)

end Candidate

/-- A target with the executions that took place before it. -/
structure Timeline where
  /-- The earlier executions in the order of their moments. -/
  earlier : List Candidate
  target : Candidate
deriving DecidableEq, Inhabited

namespace Timeline

/-- All executions, the target last. -/
def members (timeline : Timeline) : List Candidate := timeline.earlier ++ [timeline.target]

/-- The timeline of the last of the records, if there is one; `facts` gives the facts about each of
them. -/
def ofHistory? (facts : Record → Facts) (history : List Record) : Option Timeline :=
  let candidates := (history.zip (moments history)).map fun (record, moment) =>
    { moment, record, facts := facts record : Candidate }
  candidates.getLast?.map fun target =>
    { earlier := (candidates.filter fun candidate =>
        candidate.moment.precedes target.moment).mergeSort Candidate.notAfter
      target }

end Timeline

end NotebookSlice

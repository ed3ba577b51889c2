import Std.Data.HashMap
import NotebookSlice.Facts.Statement
import NotebookSlice.Record
import NotebookSlice.Text.Blank
import NotebookSlice.Text.Quoted

/-!
# The log of executions

A log holds the executions of a session in the order in which they were reported, and the facts
about each of them. Executions of blank text and executions that were reported before are left out.
A text that cannot be analyzed is kept without facts.

Next to the records stand three indexes: the position of an execution, the last execution of a cell,
and the facts about an execution.
-/

namespace NotebookSlice

/-- Why an execution is left out of a log. -/
inductive Omission where
  /-- The executed text is blank. -/
  | blankText
  /-- The execution is in the log already. -/
  | repeatedEvent
deriving DecidableEq, Repr, Inhabited

/-- What happened to a reported execution. -/
inductive Outcome where
  /-- It stands at a position of the log; its text may not have been understood. -/
  | appended (position : Nat) (understood : Bool)
  | ignored (reason : Omission)
deriving DecidableEq, Repr, Inhabited

namespace Outcome

/-- Whether the execution was taken into the log. -/
def isAppended : Outcome → Bool
  | appended .. => true
  | ignored _ => false

end Outcome

/-- The executions of a session. -/
structure Log where
  analyzer : Analyzer
  /-- The executions, oldest first. -/
  records : Array Record
  positions : Std.HashMap EventId Nat
  latest : Std.HashMap CellId EventId
  known : Std.HashMap EventId Facts

namespace Log

/-- The log without executions. -/
def empty (analyzer : Analyzer) : Log where
  analyzer
  records := #[]
  positions := ∅
  latest := ∅
  known := ∅

/-- The log after all executions have been forgotten. -/
def reset (log : Log) : Log := empty log.analyzer

/-- The facts about a text, and whether the text was understood; without understanding there are
none. -/
def factsOf (analyzer : Analyzer) (text : String) : Facts × Bool :=
  match analyzer.analyze text with
  | .ok facts => (facts, true)
  | .error _ => ({}, false)

/-- Puts a record with its facts at the end. -/
def push (log : Log) (record : Record) (facts : Facts) : Log :=
  { log with
    records := log.records.push record
    positions := log.positions.insert record.event log.records.size
    latest := log.latest.insert record.cell record.event
    known := log.known.insert record.event facts }

/-- Reports an execution to the log. -/
def append (log : Log) (record : Record) : Log × Outcome :=
  if Text.isBlankText record.text then (log, .ignored .blankText)
  else if log.positions.contains record.event then (log, .ignored .repeatedEvent)
  else
    let (facts, understood) := factsOf log.analyzer record.text
    (log.push record facts, .appended log.records.size understood)

/-- The number of executions. -/
def size (log : Log) : Nat := log.records.size

/-- Whether there is no execution. -/
def isEmpty (log : Log) : Bool := log.records.isEmpty

/-- The position of an execution. -/
def position? (log : Log) (event : EventId) : Option Nat := log.positions[event]?

/-- The record of an execution. -/
def record? (log : Log) (event : EventId) : Option Record :=
  (log.position? event).bind fun position => log.records[position]?

/-- The facts about an execution. -/
def facts? (log : Log) (event : EventId) : Option Facts := log.known[event]?

/-- The last execution of a cell. -/
def latest? (log : Log) (cell : CellId) : Option Record :=
  log.latest[cell]?.bind log.record?

/-- All executions of a cell, oldest first. -/
def executionsOf (log : Log) (cell : CellId) : List Record :=
  log.records.toList.filter fun record => record.cell == cell

/-- The executions up to one of them, which is the last in the result. -/
def upTo? (log : Log) (event : EventId) : Option (List Record) :=
  (log.position? event).map fun position => log.records.toList.take (position + 1)

/-- A short description: the name of the analyzer and the number of executions. -/
def summary (log : Log) : String :=
  "ExecutionLog \x7b analyzer: " ++ Text.quoted log.analyzer.name ++ ", records: " ++
    toString log.size ++ " \x7d"

end Log

end NotebookSlice

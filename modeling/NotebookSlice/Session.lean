import NotebookSlice.Facts.Cell
import NotebookSlice.Program
import NotebookSlice.Settings
import NotebookSlice.Slice.Backward

/-!
# Sessions

A session has a log, settings, and a switch that says whether executions should be reported to it.
The switch follows the settings when they are updated, but it can be changed on its own; the session
itself logs whatever is reported.
-/

namespace NotebookSlice

/-- A session with a notebook. -/
structure Session where
  settings : Settings
  enabled : Bool
  log : Log

namespace Session

/-- A session with the given settings and log. -/
def withLog (settings : Settings) (log : Log) : Session :=
  { settings, enabled := settings.enabled, log }

/-- A session with an empty log of Python cells. -/
def new (settings : Settings) : Session := withLog settings (Log.empty (Analyzer.python))

/-- Reports an execution. -/
def logRecord (session : Session) (record : Record) : Session × Outcome :=
  let (log, outcome) := session.log.append record
  ({ session with log }, outcome)

/-- Reports the execution of a cell under the given identity, which is returned if the execution was
logged. -/
def logCell (session : Session) (event : EventId) (cell : Cell) : Session × Option EventId :=
  match cell.record? event with
  | none => (session, none)
  | some record =>
    let (session, outcome) := session.logRecord record
    (session, if outcome.isAppended then some event else none)

/-- Forgets all executions. -/
def reset (session : Session) : Session := { session with log := session.log.reset }

/-- Turns the switch. -/
def setEnabled (session : Session) (enabled : Bool) : Session := { session with enabled }

/-- Updates the settings and says whether this turned the switch. -/
def updateSettings (session : Session) (settings : Settings) : Session × Bool :=
  ({ session with settings, enabled := settings.enabled }, session.enabled != settings.enabled)

/-- The program that an execution depends on. -/
def gather (session : Session) (event : EventId) : String :=
  session.settings.template.render (session.log.slice event)

/-- The program that the last execution of a cell depends on; only code has one. -/
def gatherCell (session : Session) (cell : Cell) : String :=
  if cell.kind = .code then
    session.settings.template.render (session.log.sliceLatest cell.id) else ""

end Session

end NotebookSlice

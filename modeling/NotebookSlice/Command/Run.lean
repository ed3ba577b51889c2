import NotebookSlice.Codec.Cell
import NotebookSlice.Codec.Facts
import NotebookSlice.Command.Arguments
import NotebookSlice.Storage.Settings
import NotebookSlice.Storage.Transcript

/-!
# Commands

The commands write settings and replay transcripts to show what was executed, what is known about
it, and the program that a target depends on. They need access to files and a supply of fresh
identities.
-/

namespace NotebookSlice.Command

/-- What commands need. -/
structure Host (m : Type → Type) where
  files : Files m
  /-- An identity that was not used before. -/
  fresh : m EventId

/-- What a run of the program leaves behind. -/
structure Output where
  /-- Zero if the run was successful. -/
  code : UInt32 := 0
  text : String := ""
  error : Option String := none
deriving DecidableEq, Repr, Inhabited

/-- Lines as text. -/
def linesText (lines : List String) : String := String.join (lines.map fun line => line ++ "\n")

/-- Names in brackets. -/
def namesText (names : NameSet) : String := "[" ++ ", ".intercalate names.toList ++ "]"

/-- One execution in the list of executions. -/
def historyLine (record : Record) : String :=
  let count := match record.count with
    | some count => toString count.toNat
    | none => "-"
  "- [" ++ count ++ "] " ++ record.cell.text ++ " (" ++ record.event.text ++ ")" ++
    if record.failed then " [error]" else ""

/-- The list of executions. -/
def historyText (records : List Record) : String :=
  linesText ("Executions:" :: if records.isEmpty then ["(none)"] else records.map historyLine)

/-- The facts about one statement; lines are counted from one. -/
def statementLine (statement : Statement) : String :=
  "  #" ++ toString statement.index ++ " lines " ++ toString (statement.startLine + 1) ++ "-" ++
    toString (statement.endLine + 1) ++ ": defs " ++ namesText statement.defs ++ " uses " ++
    namesText statement.uses

/-- The facts about one execution. -/
def factsLines (record : Record) (facts : Facts) : List String :=
  (record.cell.text ++ " (" ++ record.event.text ++ "):") ::
    if facts.isEmpty then ["  (no known dependencies)"]
    else ("  defines " ++ namesText facts.definedNames) :: facts.statements.map statementLine

/-- The facts about one execution as JSON. -/
def factsValue (record : Record) (facts : Facts) : Json.Value :=
  .object
    [("persistent_id", .string record.cell.text), ("execution_event_id", .string record.event.text),
    ("facts", facts.encode)]

variable {m : Type → Type} [Monad m]

/-- Replays the transcript in a file. -/
def replay (host : Host m) (settings : Settings) (session : String) :
    ExceptT Failure m Session := do
  let transcript ← Transcript.load host.files session
  let fresh ← transcript.entries.mapM fun _ => (host.fresh : ExceptT Failure m EventId)
  return transcript.replay settings fun number => fresh.getD number default

/-- Writes new settings. -/
def initSettings (host : Host m) (root : String) (settings : Settings) :
    ExceptT Failure m String := do
  let root ← (Root.find host.files root : m Root)
  settings.save host.files root
  return linesText ["Initialized gather settings:", "  Path: " ++ root.settingsPath,
    "  Enabled: " ++ toString settings.enabled, "  Cell marker: " ++ settings.cellMarker]

/-- Shows the program that a target depends on, or writes it to a file. -/
def gather (host : Host m) (root session : String) (target : Target)
    (marker output : Option String) :
    ExceptT Failure m String := do
  let root ← (Root.find host.files root : m Root)
  let settings ← Settings.load host.files root
  unless settings.enabled do throw (.disabled root.settingsPath)
  let settings := if marker.isSome then { settings with marker } else settings
  let session ← replay host settings session
  let slice := match target with
    | .cell id => session.log.sliceLatest ⟨id⟩
    | .event id => session.log.slice ⟨id⟩
  let program := session.settings.template.render slice
  match output with
  | none => return program
  | some path =>
    unless ← host.files.write path program do throw (.programNotWritten path)
    return ""

/-- Shows the executions of a transcript. -/
def history (host : Host m) (session : String) (json : Bool) : ExceptT Failure m String := do
  let session ← replay host {} session
  let records := session.log.records.toList
  return if json then (Json.Value.array (records.map Record.encode)).pretty ++
    "\n" else historyText records

/-- Shows the facts about the executions of a transcript. -/
def facts (host : Host m) (session : String) (json : Bool) : ExceptT Failure m String := do
  let session ← replay host {} session
  let known := session.log.records.toList.map fun record =>
    (record, (session.log.facts? record.event).getD {})
  return if json then
      (Json.Value.array (known.map fun (record, facts) => factsValue record facts)).pretty ++ "\n"
    else linesText (known.flatMap fun (record, facts) => factsLines record facts)

/-- Runs a command. -/
def perform (host : Host m) : Request → ExceptT Failure m String
  | .initSettings root marker disabled => initSettings host root { enabled := !disabled, marker }
  | .gather root session target marker output => gather host root session target marker output
  | .history session json => history host session json
  | .facts session json => facts host session json

/-- The name of the program and its version. -/
def versionText : String := "cell-gather 0.1.0\n"

/-- How the program is used. -/
def usageText : String :=
  linesText
    ["Gather the code a notebook cell depends on", "", "Usage: cell-gather [OPTIONS] <COMMAND>", "",
    "Commands:", "  init-settings  --root <ROOT> --marker <MARKER> --disabled",
    "  gather         --root <ROOT> --session <SESSION> (--cell <CELL> | --event <EVENT>)",
    "                 --marker <MARKER> --output <OUTPUT>",
    "  history        --session <SESSION> --json", "  facts          --session <SESSION> --json"]

/-- Runs the program with the given arguments. -/
def run (host : Host m) (arguments : List String) : m Output :=
  match invoke false arguments with
  | .version => pure { text := versionText }
  | .help => pure { text := usageText }
  | .misuse => pure { code := 2, error := some usageText }
  | .run request => do
    match ← (perform host request).run with
    | .ok text => return { text }
    | .error failure => return { code := 1, error := some failure.message }

end NotebookSlice.Command

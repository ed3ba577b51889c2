import NotebookSlice.Record
import NotebookSlice.Session

/-!
# Transcripts of sessions

A transcript lists executed cells in the order in which their executions finished. Replaying it
reports them to a new session. An entry may name the execution; otherwise a fresh identity is used.
-/

namespace NotebookSlice

namespace Transcript

/-- One executed cell. -/
structure Entry where
  cell : Cell
  event : Option EventId := none
deriving DecidableEq, Repr, Inhabited

/-- The record of an entry, which has the given identity if the entry names none. -/
def Entry.record? (entry : Entry) (fresh : EventId) : Option Record :=
  entry.cell.record? (entry.event.getD fresh)

end Transcript

/-- The executed cells of a session. -/
structure Transcript where
  entries : List Transcript.Entry := []
deriving DecidableEq, Repr, Inhabited

namespace Transcript

/-- The records of a transcript, of which entry number `n` takes the identity `fresh n` if it names
none. -/
def records (transcript : Transcript) (fresh : Nat → EventId) : List Record :=
  transcript.entries.zipIdx.filterMap fun (entry, number) => entry.record? (fresh number)

/-- Reports all entries to a new session. -/
def replay (transcript : Transcript) (settings : Settings) (fresh : Nat → EventId) : Session :=
  (transcript.records fresh).foldl (fun session record => (session.logRecord record).1)
    (Session.new settings)

end Transcript

end NotebookSlice

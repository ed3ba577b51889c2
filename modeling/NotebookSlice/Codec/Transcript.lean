import NotebookSlice.Codec.Cell
import NotebookSlice.Transcript

/-!
# Transcripts as JSON

An entry is an object that holds the fields of its cell and the identity of the execution side by
side. All fields of the cell are set aside while the object is read and decoded after its end.
-/

namespace NotebookSlice.Transcript

open Json

namespace Entry

/-- The identity of an entry as far as it has been found, and the entries set aside, in reverse. -/
structure Draft where
  event : Option (Option EventId) := none
  aside : List (Option String × Document) := []
deriving Inhabited

/-- The name of the field for the identity. -/
def eventField : String := "execution_event_id"

/-- Adds an entry of the object. -/
def visit (place : Place) (draft : Draft) : Option String × Document → Except DecodeError Draft
  | (none, _) => .error (.fault .malformed)
  | (some name, value) => do
    if name = eventField then
      return { draft with
        event := ← Decode.once name draft.event (Decode.option EventId.decode place value) }
    else
      Decode.settle place value
      return { draft with aside := (some name, value) :: draft.aside }

/-- Decodes an entry. -/
def decode : Decoder Entry := fun place document =>
  match document with
  | .object entries ending => do
    let draft ← entries.foldlM (visit place.inner) {}
    Decode.check ending
    let cell ← Cell.ofDraft (← Cell.fields.readEntries { origin := .aside } {} draft.aside.reverse)
    return { cell, event := draft.event.join }
  | _ => Decode.refuse "struct TranscriptEntry" document

/-- Encodes an entry; the identity is written only if it is named. -/
def encode (entry : Entry) : Value :=
  .object (entry.cell.entries ++
    match entry.event with
    | some event => [(eventField, .string event.text)]
    | none => [])

end Entry

/-- The fields of a transcript. -/
def fields : Fields (Option (List Entry)) where
  name := "SessionTranscript"
  needed := []
  optional := ["cells"]
  visit place name document draft :=
    Decode.once name draft (Decode.array Entry.decode place document)

/-- Decodes a transcript; the list of cells may be missing. -/
def decode : Decoder Transcript := fun place document => do
  return { entries := (← fields.read none place document).getD [] }

/-- Encodes a transcript. -/
def encode (transcript : Transcript) : Value :=
  .object [("cells", .array (transcript.entries.map Entry.encode))]

end NotebookSlice.Transcript

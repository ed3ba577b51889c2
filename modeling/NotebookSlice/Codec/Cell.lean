import NotebookSlice.Json.Decode
import NotebookSlice.Json.Value
import NotebookSlice.Record

/-!
# Cells and records as JSON

The source of a cell is written as one string and read from one string or from a list of strings,
which are joined.
-/

namespace NotebookSlice

open Json

/-- Decodes a count. -/
def decodeCount : Decoder UInt32 := fun place document =>
  (Decode.natural "u32" UInt32.size place document).map UInt32.ofNat

/-- Encodes a count that may be missing. -/
def encodeCount (count : Option UInt32) : Value :=
  .ofOption (fun count => .natural count.toNat) count

namespace CellId

/-- Decodes an identity of a cell. -/
def decode : Decoder CellId := fun place document => (Decode.string place document).map CellId.mk

end CellId

namespace EventId

/-- Decodes an identity of an execution. -/
def decode : Decoder EventId := fun place document => (Decode.string place document).map EventId.mk

end EventId

namespace CellKind

/-- The names of the kinds. -/
def names : List (String × CellKind) := [("code", code), ("markdown", markdown), ("raw", raw)]

/-- The name of a kind. -/
def name : CellKind → String
  | code => "code"
  | markdown => "markdown"
  | raw => "raw"

end CellKind

namespace CellState

/-- The names of the states. -/
def names : List (String × CellState) :=
  [("init", init), ("executing", executing), ("finished", finished), ("error", error)]

/-- The name of a state. -/
def name : CellState → String
  | init => "init"
  | executing => "executing"
  | finished => "finished"
  | error => "error"

end CellState

namespace Cell

/-- The fields of a cell as far as they have been found. -/
structure Draft where
  id : Option CellId := none
  kind : Option CellKind := none
  source : Option String := none
  count : Option (Option UInt32) := none
  state : Option CellState := none
deriving Inhabited

/-- Strings joined to one, if all items are strings. -/
def joinStrings : List Document → Option String
  | [] => some ""
  | .string text :: items => (joinStrings items).map (text ++ ·)
  | _ => none

/-- Decodes the source of a cell. -/
def decodeSource : Decoder String := fun place document => do
  Decode.settle place document
  let joined := match document with
    | .string text => some text
    | .array items _ => joinStrings items
    | _ => none
  match joined with
  | some text => return text
  | none => throw (.mismatch (.noVariant "SourceRepr"))

/-- The fields of a cell. -/
def fields : Fields Draft where
  name := "HostCell"
  needed := ["id", "cell_type", "source"]
  optional := ["execution_count", "state"]
  visit place name document draft := do
    match name with
    | "id" => return { draft with id := ← Decode.once name draft.id (CellId.decode place document) }
    | "cell_type" =>
      return { draft with
        kind := ← Decode.once name draft.kind (Decode.choice CellKind.names place document) }
    | "source" =>
      return { draft with source := ← Decode.once name draft.source (decodeSource place document) }
    | "execution_count" =>
      return { draft with
        count := ← Decode.once name draft.count (Decode.option decodeCount place document) }
    | "state" =>
      return { draft with
        state := ← Decode.once name draft.state (Decode.choice CellState.names place document) }
    | _ => return draft

/-- The cell of a draft; the count and the state may be missing. -/
def ofDraft (draft : Draft) : Except DecodeError Cell := do
  let id ← Decode.required "id" draft.id
  let kind ← Decode.required "cell_type" draft.kind
  let source ← Decode.required "source" draft.source
  return { id, kind, source, count := draft.count.join, state := draft.state.getD .finished }

/-- Decodes a cell. -/
def decode : Decoder Cell := fun place document => do
  ofDraft (← fields.read {} place document)

/-- The entries of an encoded cell. -/
def entries (cell : Cell) : List (String × Value) :=
  [("id", .string cell.id.text), ("cell_type", .string cell.kind.name),
   ("source", .string cell.source),
    ("execution_count", encodeCount cell.count), ("state", .string cell.state.name)]

/-- Encodes a cell. -/
def encode (cell : Cell) : Value := .object cell.entries

end Cell

namespace Record

/-- The fields of a record as far as they have been found. -/
structure Draft where
  cell : Option CellId := none
  event : Option EventId := none
  text : Option String := none
  count : Option (Option UInt32) := none
  failed : Option Bool := none
deriving Inhabited

/-- The fields of a record. -/
def fields : Fields Draft where
  name := "CellRecord"
  needed := ["persistent_id", "execution_event_id", "text", "execution_count", "has_error"]
  visit place name document draft := do
    match name with
    | "persistent_id" =>
      return { draft with cell := ← Decode.once name draft.cell (CellId.decode place document) }
    | "execution_event_id" =>
      return { draft with event := ← Decode.once name draft.event (EventId.decode place document) }
    | "text" =>
      return { draft with text := ← Decode.once name draft.text (Decode.string place document) }
    | "execution_count" =>
      return { draft with
        count := ← Decode.once name draft.count (Decode.option decodeCount place document) }
    | "has_error" =>
      return { draft with failed := ← Decode.once name draft.failed (Decode.bool place document) }
    | _ => return draft

/-- The record of a draft; the count may be missing. -/
def ofDraft (draft : Draft) : Except DecodeError Record := do
  let cell ← Decode.required "persistent_id" draft.cell
  let event ← Decode.required "execution_event_id" draft.event
  let text ← Decode.required "text" draft.text
  let failed ← Decode.required "has_error" draft.failed
  return { cell, event, text, count := draft.count.join, failed }

/-- Decodes a record. -/
def decode : Decoder Record := fun place document => do
  ofDraft (← fields.read {} place document)

/-- Encodes a record. -/
def encode (record : Record) : Value :=
  .object
    [("persistent_id", .string record.cell.text), ("execution_event_id", .string record.event.text),
    ("text", .string record.text), ("execution_count", encodeCount record.count),
    ("has_error", .bool record.failed)]

end Record

end NotebookSlice

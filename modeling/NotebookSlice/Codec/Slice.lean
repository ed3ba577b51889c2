import NotebookSlice.Codec.Cell
import NotebookSlice.Codec.Facts
import NotebookSlice.Slice

/-!
# Slices as JSON
-/

namespace NotebookSlice

open Json

namespace Group

/-- The fields of a group as far as they have been found. -/
structure Draft where
  cell : Option CellId := none
  event : Option EventId := none
  count : Option (Option UInt32) := none
  statements : Option (List Nat) := none
  lines : Option (List String) := none
deriving Inhabited

/-- The fields of a group. -/
def fields : Fields Draft where
  name := "CellSlice"
  needed :=
    ["persistent_id", "execution_event_id", "execution_count", "statements", "text_slice_lines"]
  visit place name document draft := do
    match name with
    | "persistent_id" =>
      return { draft with cell := ← Decode.once name draft.cell (CellId.decode place document) }
    | "execution_event_id" =>
      return { draft with event := ← Decode.once name draft.event (EventId.decode place document) }
    | "execution_count" =>
      return { draft with
        count := ← Decode.once name draft.count (Decode.option decodeCount place document) }
    | "statements" =>
      return { draft with
        statements :=
          ← Decode.once name draft.statements (Decode.array decodeIndex place document) }
    | "text_slice_lines" =>
      return { draft with
        lines := ← Decode.once name draft.lines (Decode.array Decode.string place document) }
    | _ => return draft

/-- The group of a draft; the count may be missing. -/
def ofDraft (draft : Draft) : Except DecodeError Group := do
  let cell ← Decode.required "persistent_id" draft.cell
  let event ← Decode.required "execution_event_id" draft.event
  let statements ← Decode.required "statements" draft.statements
  let lines ← Decode.required "text_slice_lines" draft.lines
  return { cell, event, count := draft.count.join, statements, lines }

/-- Decodes a group. -/
def decode : Decoder Group := fun place document => do
  ofDraft (← fields.read {} place document)

/-- Encodes a group. -/
def encode (group : Group) : Value :=
  .object
    [("persistent_id", .string group.cell.text), ("execution_event_id", .string group.event.text),
    ("execution_count", encodeCount group.count),
    ("statements", .array (group.statements.map .natural)),
    ("text_slice_lines", .array (group.lines.map .string))]

end Group

namespace Slice

/-- The fields of a slice as far as they have been found. -/
structure Draft where
  target : Option (Option EventId) := none
  groups : Option (List Group) := none
deriving Inhabited

/-- The fields of a slice. -/
def fields : Fields Draft where
  name := "SliceResult"
  needed := ["target", "cell_slices"]
  visit place name document draft := do
    match name with
    | "target" =>
      return { draft with
        target := ← Decode.once name draft.target (Decode.option EventId.decode place document) }
    | "cell_slices" =>
      return { draft with
        groups := ← Decode.once name draft.groups (Decode.array Group.decode place document) }
    | _ => return draft

/-- Decodes a slice; the target may be missing. -/
def decode : Decoder Slice := fun place document => do
  let draft ← fields.read {} place document
  let groups ← Decode.required "cell_slices" draft.groups
  return { target := draft.target.join, groups }

/-- Encodes a slice. -/
def encode (slice : Slice) : Value :=
  .object [("target", .ofOption (fun event => .string event.text) slice.target),
    ("cell_slices", .array (slice.groups.map Group.encode))]

end Slice

end NotebookSlice

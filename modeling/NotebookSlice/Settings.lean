import NotebookSlice.Json.Decode
import NotebookSlice.Json.Value
import NotebookSlice.Program
import NotebookSlice.Text.Blank

/-!
# Settings

The settings of a session say whether executions are logged at all, and which marker separates the
groups of a program. A blank marker counts as none. Settings are kept as a JSON text.
-/

namespace NotebookSlice

open Json

/-- The settings of a session. -/
structure Settings where
  enabled : Bool := true
  /-- The marker that was chosen. -/
  marker : Option String := none
deriving DecidableEq, Repr, Inhabited

namespace Settings

/-- The marker in force. -/
def cellMarker (settings : Settings) : String :=
  match settings.marker with
  | some marker => if Text.isBlankText marker then Program.defaultMarker else marker
  | none => Program.defaultMarker

/-- How programs are laid out. -/
def template (settings : Settings) : Template := { marker := settings.cellMarker }

/-- The fields of settings as far as they have been found. -/
structure Draft where
  enabled : Option Bool := none
  marker : Option (Option String) := none
deriving Inhabited

/-- The fields of settings. -/
def fields : Fields Draft where
  name := "GatherSettings"
  needed := []
  optional := ["enable_gather", "default_cell_marker"]
  visit place name document draft := do
    match name with
    | "enable_gather" =>
      return { draft with enabled := ← Decode.once name draft.enabled (Decode.bool place document) }
    | "default_cell_marker" =>
      return { draft with
        marker := ← Decode.once name draft.marker (Decode.option Decode.string place document) }
    | _ => return draft

/-- Decodes settings; all fields may be missing. -/
def decode : Decoder Settings := fun place document => do
  let draft ← fields.read {} place document
  return { enabled := draft.enabled.getD true, marker := draft.marker.join }

/-- Encodes settings; a marker is written only if one was chosen. -/
def encode (settings : Settings) : Value :=
  .object (("enable_gather", .bool settings.enabled) ::
    match settings.marker with
    | some marker => [("default_cell_marker", .string marker)]
    | none => [])

end Settings

end NotebookSlice

import NotebookSlice.Facts.Statement
import NotebookSlice.Json.Decode
import NotebookSlice.Json.Value

/-!
# Facts as JSON

Sets of names are written as arrays in ascending order and read from arrays in any order.
-/

namespace NotebookSlice

open Json

/-- Decodes a number of a statement or of a line. -/
def decodeIndex : Decoder Nat := Decode.natural "usize" UInt64.size

namespace NameSet

/-- Decodes a set of names. -/
def decode : Decoder NameSet := fun place document =>
  (Decode.array Decode.string place document).map ofList

/-- Encodes a set of names. -/
def encode (names : NameSet) : Value := .array (names.toList.map .string)

end NameSet

namespace Statement

/-- The fields of a statement as far as they have been found. -/
structure Draft where
  index : Option Nat := none
  startLine : Option Nat := none
  endLine : Option Nat := none
  defs : Option NameSet := none
  uses : Option NameSet := none
deriving Inhabited

/-- The fields of a statement. -/
def fields : Fields Draft where
  name := "StatementFacts"
  needed := ["index", "start_line", "end_line", "defs", "uses"]
  visit place name document draft := do
    match name with
    | "index" =>
      return { draft with index := ← Decode.once name draft.index (decodeIndex place document) }
    | "start_line" =>
      return { draft with
        startLine := ← Decode.once name draft.startLine (decodeIndex place document) }
    | "end_line" =>
      return { draft with endLine := ← Decode.once name draft.endLine (decodeIndex place document) }
    | "defs" =>
      return { draft with defs := ← Decode.once name draft.defs (NameSet.decode place document) }
    | "uses" =>
      return { draft with uses := ← Decode.once name draft.uses (NameSet.decode place document) }
    | _ => return draft

/-- The statement of a draft. -/
def ofDraft (draft : Draft) : Except DecodeError Statement := do
  let index ← Decode.required "index" draft.index
  let startLine ← Decode.required "start_line" draft.startLine
  let endLine ← Decode.required "end_line" draft.endLine
  let defs ← Decode.required "defs" draft.defs
  let uses ← Decode.required "uses" draft.uses
  return { index, startLine, endLine, defs, uses }

/-- Decodes a statement. -/
def decode : Decoder Statement := fun place document => do
  ofDraft (← fields.read {} place document)

/-- Encodes a statement. -/
def encode (statement : Statement) : Value :=
  .object [("index", .natural statement.index), ("start_line", .natural statement.startLine),
    ("end_line", .natural statement.endLine), ("defs", statement.defs.encode),
    ("uses", statement.uses.encode)]

end Statement

namespace Facts

/-- The fields of facts about a cell. -/
def fields : Fields (Option (List Statement)) where
  name := "DependencyFacts"
  needed := ["statements"]
  visit place name document draft :=
    Decode.once name draft (Decode.array Statement.decode place document)

/-- Decodes facts about a cell. -/
def decode : Decoder Facts := fun place document => do
  let statements ← Decode.required "statements" (← fields.read none place document)
  return { statements }

/-- Encodes facts about a cell. -/
def encode (facts : Facts) : Value :=
  .object [("statements", .array (facts.statements.map Statement.encode))]

end Facts

end NotebookSlice

import NotebookSlice.Codec.Transcript
import NotebookSlice.Yaml.Value

/-!
# Transcripts as YAML

A transcript is a mapping with the list of cells; the list may be left out or be empty. The fields
of a cell are decoded from their values. The identity of an execution is the text of a scalar,
whatever the scalar would stand for elsewhere.
-/

namespace NotebookSlice.Transcript

open Json (Document)
open Yaml (Node)

/-- Whether nothing is written where a node should stand. -/
def isLeftOut : Node → Bool
  | .scalar text plain _ => plain && text.isEmpty
  | _ => false

/-- The text of a key. -/
def keyText? : Node → Option String
  | .scalar text _ _ => some text
  | _ => none

namespace Entry

/-- The identity that a node gives; an outer none if it is no scalar, an inner none if it gives
none. -/
def eventOfYaml? : Node → Option (Option EventId)
  | .scalar text plain tag =>
    if tag == some (Yaml.coreTag "null") && plain then if Yaml.isNull text then some none else none
    else if plain && tag.isNone && (text.isEmpty || Yaml.isNull text) then some none
    else some (some ⟨text⟩)
  | _ => none

/-- Adds an entry of the mapping. -/
def visitYaml? (draft : Draft) (entry : Node × Node) : Option Draft := do
  let name ← keyText? entry.1
  if name = eventField then
    if draft.event.isSome then none
    return { draft with event := some (← eventOfYaml? entry.2) }
  else return { draft with aside := (some name, ← entry.2.value?) :: draft.aside }

/-- The entry of a node. -/
def ofYaml? : Node → Option Entry
  | .mapping entries _ => do
    let draft ← entries.foldlM visitYaml? {}
    let cell ← (do
      Cell.ofDraft (← Cell.fields.readEntries { origin := .aside } {} draft.aside.reverse)).toOption
    return { cell, event := draft.event.join }
  | _ => none

end Entry

/-- The entries of the list of cells. -/
def entriesOfYaml? : Node → Option (List Entry)
  | .sequence items _ => items.mapM Entry.ofYaml?
  | node => if isLeftOut node then some [] else none

/-- Adds an entry of the mapping to what was found before. -/
def visitYaml? (found : Option (List Entry)) (entry : Node × Node) :
    Option (Option (List Entry)) := do
  if (← keyText? entry.1) = "cells" then
    if found.isSome then none
    return some (← entriesOfYaml? entry.2)
  else return found

/-- The transcript of a node. -/
def ofNode? : Node → Option Transcript
  | .mapping entries _ => do
    let found ← entries.foldlM visitYaml? none
    return { entries := found.getD [] }
  | node => if isLeftOut node then some {} else none

/-- The transcript that a YAML text holds. -/
def ofYaml? (text : String) : Option Transcript := do
  match ← Yaml.document? (← Yaml.tokens? text) with
  | some node => ofNode? node
  | none => return {}

end NotebookSlice.Transcript

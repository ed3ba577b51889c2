import NotebookSlice.Json.Reader
import NotebookSlice.Text.Quoted

/-!
# Decoding JSON documents

A decoder looks for a value of some type in a document. It goes through the document in the order of
the text, so that of several things that are wrong the first one counts, be it a fault of the text
or a value of another type than expected.

A structure is an object, in which unknown keys are skipped, or an array of its fields in their
order.
-/

namespace NotebookSlice.Json

/-- A value of another type than expected. -/
inductive Found where
  | null
  | boolean (value : Bool)
  | integer (value : Int)
  | double (bits : UInt64)
  | string (value : String)
  | sequence
  | map
deriving DecidableEq, Repr, Inhabited

namespace Found

/-- The wording for a value. -/
def message : Found → String
  | null => "null"
  | boolean value => "boolean \x60" ++ toString value ++ "\x60"
  | integer value => "integer \x60" ++ toString value ++ "\x60"
  | double bits => "floating point \x60" ++ Number.doubleText bits ++ "\x60"
  | string value => "string " ++ Text.quoted value
  | sequence => "sequence"
  | map => "map"

end Found

/-- How a well-formed document differs from what is expected. -/
inductive Mismatch where
  | missingField (name : String)
  | duplicateField (name : String)
  | unknownVariant (name : String) (expected : List String)
  | invalidType (found : Found) (expected : String)
  | invalidValue (found : Found) (expected : String)
  | invalidLength (length : Nat) (expected : String)
  | noVariant (type : String)
deriving DecidableEq, Repr, Inhabited

namespace Mismatch

/-- A name between grave accents. -/
def named (name : String) : String := "\x60" ++ name ++ "\x60"

/-- The wording of a difference. -/
def message : Mismatch → String
  | missingField name => "missing field " ++ named name
  | duplicateField name => "duplicate field " ++ named name
  | unknownVariant name expected =>
    "unknown variant " ++ named name ++ ", expected one of " ++
      ", ".intercalate (expected.map named)
  | invalidType found expected => "invalid type: " ++ found.message ++ ", expected " ++ expected
  | invalidValue found expected => "invalid value: " ++ found.message ++ ", expected " ++ expected
  | invalidLength length expected =>
    "invalid length " ++ toString length ++ ", expected " ++ expected
  | noVariant type => "data did not match any variant of untagged enum " ++ type

end Mismatch

/-- Why nothing could be decoded. -/
inductive DecodeError where
  | fault (fault : Fault)
  | mismatch (mismatch : Mismatch)
deriving DecidableEq, Repr, Inhabited

/-- Where a document comes from, as far as decoders differ. -/
inductive Origin where
  /-- It is being read from a text. -/
  | text
  /-- It was read completely before. -/
  | value
  /-- It was set aside while the object that it belongs to was being read. -/
  | aside
deriving DecidableEq, Repr, Inhabited

/-- The place of a document: where it comes from and how many containers are around it. -/
structure Place where
  origin : Origin
  depth : Nat := 0
deriving DecidableEq, Repr, Inhabited

/-- A way to find a value in a document. -/
abbrev Decoder (α : Type) := Place → Document → Except DecodeError α

namespace Place

/-- The place of the parts of a container. -/
def inner (place : Place) : Place := { place with depth := place.depth + 1 }

/-- How many containers may be nested at the place; only texts have a limit. -/
def room (place : Place) : Nat := 127 - place.depth

end Place

namespace Decode

/-- Fails if there is a fault. -/
def check : Option Fault → Except DecodeError Unit
  | none => .ok ()
  | some fault => .error (.fault fault)

/-- Fails because the document is of another type than expected, or because it cannot be read. -/
def refuse {α : Type} (expected : String) (document : Document) : Except DecodeError α :=
  let differ (found : Found) := .error (.mismatch (.invalidType found expected))
  match document with
  | .null => differ .null
  | .bool value => differ (.boolean value)
  | .number (.integer value) => differ (.integer value)
  | .number (.double bits) => differ (.double bits)
  | .string value => differ (.string value)
  | .array _ _ => differ .sequence
  | .object _ _ => differ .map
  | .broken reading _ => .error (.fault reading)

/-- Reads all of a document that comes from a text, for a decoder that looks at it as a whole. -/
def settle (place : Place) (document : Document) : Except DecodeError Unit :=
  if place.origin = .text then check (document.readFault place.room) else .ok ()

/-- A truth value. -/
def bool : Decoder Bool := fun _ document =>
  match document with
  | .bool value => .ok value
  | _ => refuse "a boolean" document

/-- A string. -/
def string : Decoder String := fun _ document =>
  match document with
  | .string value => .ok value
  | _ => refuse "a string" document

/-- A natural number below a bound; `type` is the name of the type. -/
def natural (type : String) (bound : Nat) : Decoder Nat := fun _ document =>
  match document with
  | .number (.integer value) =>
    if 0 ≤ value ∧ value < bound then .ok value.toNat
    else .error (.mismatch (.invalidValue (.integer value) type))
  | _ => refuse type document

/-- A value that may be missing. -/
def option {α : Type} (decode : Decoder α) : Decoder (Option α) := fun place document =>
  match document with
  | .null => .ok none
  | _ => (decode place document).map some

/-- An array of values. -/
def array {α : Type} (decode : Decoder α) : Decoder (List α) := fun place document =>
  match document with
  | .array items ending => do
    let values ← items.mapM (decode place.inner)
    check ending
    return values
  | _ => refuse "a sequence" document

/-- The value that a variant stands for. -/
def variant {α : Type} (variants : List (String × α)) (name : String) : Except DecodeError α :=
  match variants.lookup name with
  | some value => .ok value
  | none => .error (.mismatch (.unknownVariant name (variants.map (·.1))))

/-- The place of a variant's contents, which must be empty. -/
def unit (place : Place) (document : Document) : Except DecodeError Unit :=
  match document, place.origin with
  | .null, _ => .ok ()
  | .object [] none, .aside => .ok ()
  | _, _ => refuse "unit" document

/-- One of several variants: its name, or an object with the name as its only key. -/
def choice {α : Type} (variants : List (String × α)) : Decoder α := fun place document =>
  match place.origin, document with
  | _, .string name => variant variants name
  | .text, .object ((some name, contents) :: others) ending => do
    let value ← variant variants name
    unit place contents
    if !others.isEmpty then throw (.fault .malformed)
    check ending
    return value
  | .text, .object [] (some fault) => .error (.fault fault)
  | .text, .broken reading skipping =>
    .error (.fault (if skipping = some .malformed then .malformed else reading))
  | .text, _ => .error (.fault .malformed)
  | _, .object [(some name, contents)] _ => do
    let value ← variant variants name
    unit place contents
    return value
  | _, .object _ _ => .error (.mismatch (.invalidValue .map "map with a single key"))
  | _, _ => refuse "string or map" document

/-- A field that is set for the first time. -/
def once {α : Type} (name : String) (current : Option α) (value : Except DecodeError α) :
    Except DecodeError (Option α) :=
  match current with
  | some _ => .error (.mismatch (.duplicateField name))
  | none => value.map some

/-- A field that must be there. -/
def required {α : Type} (name : String) : Option α → Except DecodeError α
  | some value => .ok value
  | none => .error (.mismatch (.missingField name))

end Decode

/-- The fields of a structure of which drafts have type `δ`. -/
structure Fields (δ : Type) where
  /-- The name of the structure. -/
  name : String
  /-- The fields that have to be in an array. -/
  needed : List String
  /-- The fields that may be missing at the end of an array. -/
  optional : List String := []
  /-- The draft with one more field. -/
  visit : Place → String → Document → δ → Except DecodeError δ

namespace Fields

variable {δ : Type}

/-- All fields in their order. -/
def all (fields : Fields δ) : List String := fields.needed ++ fields.optional

/-- The number of fields in words. -/
def elements (fields : Fields δ) : String :=
  toString fields.all.length ++ if fields.all.length = 1 then " element" else " elements"

/-- Goes through the entries of an object. -/
def readEntries (fields : Fields δ) (place : Place) (draft : δ) :
    List (Option String × Document) → Except DecodeError δ
  | [] => .ok draft
  | (none, _) :: _ => .error (.fault .malformed)
  | (some name, value) :: entries => do
    let draft ←
      if name ∈ fields.all then fields.visit place name value draft
      else do
        Decode.check value.skipFault
        pure draft
    readEntries fields place draft entries

/-- Goes through the items of an array together with the names that have not been visited; `count`
items were there before. -/
def readItems (fields : Fields δ) (place : Place) (ending : Option Fault)
    (count : Nat) (draft : δ) :
    List String → List Document → Except DecodeError δ
  | [], [] => do
    Decode.check ending
    return draft
  | [], item :: items =>
    if place.origin = .text then .error (.fault .malformed)
    else .error
      (.mismatch (.invalidLength (count + (item :: items).length) "fewer elements in array"))
  | name :: names, item :: items => do
    let draft ← fields.visit place name item draft
    readItems fields place ending (count + 1) draft names items
  | name :: _, [] => do
    Decode.check ending
    if name ∈ fields.optional then return draft
    throw (.mismatch
      (.invalidLength count ("struct " ++ fields.name ++ " with " ++ fields.elements)))

/-- The draft of a structure, from an object or an array. -/
def read (fields : Fields δ) (start : δ) : Decoder δ := fun place document =>
  match document with
  | .object entries ending => do
    let draft ← fields.readEntries place.inner start entries
    Decode.check ending
    return draft
  | .array items ending => fields.readItems place.inner ending 0 start fields.all items
  | _ => Decode.refuse ("struct " ++ fields.name) document

end Fields

/-- Decodes a text, after which nothing may follow. -/
def decode {α : Type} (decoder : Decoder α) (text : String) : Except DecodeError α := do
  let reading := read text
  let value ← decoder { origin := .text } reading.document
  if reading.surplus then throw (.fault .malformed)
  return value

end NotebookSlice.Json

import NotebookSlice.Json.Token

/-!
# Reading JSON texts

The document of a text is built from its tokens with a stack of the containers that are open. What
may come next is a function of the innermost container: a value, a key, a colon, or a comma or
bracket. Where the text stops, the open containers are closed around the fault.
-/

namespace NotebookSlice.Json

/-- A container that is open; what it holds is kept in reverse. -/
inductive Frame where
  | array (items : List Document)
  | object (entries : List (Option String × Document))
  /-- An object whose last key waits for its value. -/
  | entry (entries : List (Option String × Document)) (key : Option String)
deriving Repr, Inhabited

namespace Frame

/-- The container with one more value and the given ending. -/
def close (frame : Frame) (last : Option Document) (ending : Option Fault) : Document :=
  match frame, last with
  | array items, some item => .array (item :: items).reverse ending
  | array items, none => .array items.reverse ending
  | object entries, _ => .object entries.reverse ending
  | entry entries key, some value => .object ((key, value) :: entries).reverse ending
  | entry entries _, none => .object entries.reverse ending

end Frame

/-- The document when a text stops inside open containers, of which the innermost one has been
closed. -/
def unwind (fault : Fault) (document : Document) : List Frame → Document
  | [] => document
  | frame :: outer => unwind fault (frame.close (some document) (some fault)) outer

/-- What may come next. -/
inductive Expected where
  | value
  /-- A value, or the end of an array without items. -/
  | firstItem
  | key
  /-- A key, or the end of an object without entries. -/
  | firstKey
  | colon
  /-- A comma, or the end of the container. -/
  | next
deriving DecidableEq, Repr, Inhabited

/-- A text that has been read: its document, and whether anything follows it. -/
structure Reading where
  document : Document
  surplus : Bool
deriving Repr, Inhabited

/-- The document of a text that stops where the given thing is expected. -/
def stop (expected : Expected) (reading skipping : Fault) (stack : List Frame) : Document :=
  let broken := Document.broken reading (some skipping)
  match expected, stack with
  | .value, _ | .firstItem, _ | .colon, _ => unwind skipping broken stack
  | .key, .object entries :: outer | .firstKey, .object entries :: outer =>
    if reading = .malformed then
      unwind skipping (.object ((none, broken) :: entries).reverse none) outer
    else unwind skipping (.object entries.reverse (some skipping)) outer
  | _, frame :: outer => unwind skipping (frame.close none (some skipping)) outer
  | _, [] => broken

/-- What one token leads to. -/
inductive Move where
  /-- The text goes on: what is expected next, and the open containers. -/
  | go (expected : Expected) (stack : List Frame)
  /-- The document is complete. -/
  | finished (document : Document)
  /-- The text cannot be read further. -/
  | stopped (document : Document)
deriving Repr, Inhabited

/-- Goes on after a complete value. -/
def deliver (value : Document) : List Frame → Move
  | [] => .finished value
  | .array items :: outer => .go .next (.array (value :: items) :: outer)
  | .entry entries key :: outer => .go .next (.object ((key, value) :: entries) :: outer)
  | .object entries :: outer => .go .next (.object entries :: outer)

/-- Goes on with a token where a value is expected. -/
def startValue (expected : Expected) (stack : List Frame) : Token → Move
  | .scalar value => deliver value stack
  | .string (some text) => deliver (.string text) stack
  | .string none => deliver (.broken .malformed none) stack
  | .mark .openArray => .go .firstItem (.array [] :: stack)
  | .mark .openObject => .go .firstKey (.object [] :: stack)
  | .fault reading skipping _ => .stopped (stop expected reading skipping stack)
  | _ => .stopped (stop expected .malformed .malformed stack)

/-- Goes on with a token where a key is expected. -/
def startEntry (expected : Expected) (stack : List Frame) (token : Token) : Move :=
  match token, stack with
  | .string name, .object entries :: outer => .go .colon (.entry entries name :: outer)
  | .fault reading skipping true, _ => .stopped (stop expected reading skipping stack)
  | _, _ => .stopped (stop expected .malformed .malformed stack)

/-- Goes on with a token where the given thing is expected inside the open containers. -/
def advance (expected : Expected) (stack : List Frame) (token : Token) : Move :=
  match expected, token, stack with
  | .value, _, _ => startValue expected stack token
  | .firstItem, .mark .closeArray, .array items :: outer =>
    deliver (.array items.reverse none) outer
  | .firstItem, _, _ => startValue expected stack token
  | .key, _, _ => startEntry expected stack token
  | .firstKey, .mark .closeObject, .object entries :: outer =>
    deliver (.object entries.reverse none) outer
  | .firstKey, _, _ => startEntry expected stack token
  | .colon, .mark .colon, _ => .go .value stack
  | .next, .mark .comma, .array _ :: _ => .go .value stack
  | .next, .mark .comma, .object _ :: _ => .go .key stack
  | .next, .mark .closeArray, .array items :: outer => deliver (.array items.reverse none) outer
  | .next, .mark .closeObject, .object entries :: outer =>
    deliver (.object entries.reverse none) outer
  | _, _, _ => .stopped (stop expected .malformed .malformed stack)

/-- Reads the tokens when the given thing is expected inside the open containers. -/
def build (expected : Expected) (stack : List Frame) : List Token → Reading
  | [] => ⟨stop expected .truncated .truncated stack, false⟩
  | token :: rest =>
    match advance expected stack token with
    | .go expected stack => build expected stack rest
    | .finished document => ⟨document, !rest.isEmpty⟩
    | .stopped document => ⟨document, false⟩

/-- Reads a text. -/
def read (text : String) : Reading := build .value [] (tokens text)

end NotebookSlice.Json

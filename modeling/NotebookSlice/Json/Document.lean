import NotebookSlice.Json.Number

/-!
# JSON documents

A document is a JSON text as far as it can be read. A text that ends too early or that is malformed
still has a document, in which the fault stands at the place where a reader meets it: whoever looks
only at the parts before that place does not notice it.

Some faults are noticed by a reader who wants the value, but not by one who skips it: a numeral may
be too large, and a string may name half of a surrogate pair.
-/

namespace NotebookSlice.Json

/-- Why a text cannot be read further. -/
inductive Fault where
  /-- The text ends too early. -/
  | truncated
  | malformed
deriving DecidableEq, Repr, Inhabited

/-- A JSON text as far as it can be read. -/
inductive Document where
  | null
  | bool (value : Bool)
  | number (value : Number)
  | string (value : String)
  /-- The items, and the fault before the closing bracket if there is one. -/
  | array (items : List Document) (ending : Option Fault)
  /-- The entries in the order of the text, and the fault before the closing brace if there is one.
  A key that cannot be read has no name. -/
  | object (entries : List (Option String × Document)) (ending : Option Fault)
  /-- No value: the fault that a reader meets, and the one that is met when the value is skipped. -/
  | broken (reading : Fault) (skipping : Option Fault)
deriving Repr, Inhabited

namespace Document

mutual

/-- The first fault that is met when the document is skipped. -/
def skipFault : Document → Option Fault
  | .array items ending => (skipFaultOfItems items).or ending
  | .object entries ending => (skipFaultOfEntries entries).or ending
  | .broken _ skipping => skipping
  | _ => none

/-- The first fault in a list of items when they are skipped. -/
def skipFaultOfItems : List Document → Option Fault
  | [] => none
  | item :: items => (skipFault item).or (skipFaultOfItems items)

/-- The first fault in a list of entries when they are skipped. -/
def skipFaultOfEntries : List (Option String × Document) → Option Fault
  | [] => none
  | (_, value) :: entries => (skipFault value).or (skipFaultOfEntries entries)

end

mutual

/-- The first fault that is met when all of the document is read and containers may be nested as
deep as `room` says. -/
def readFault (room : Nat) : Document → Option Fault
  | .array items ending =>
    if room = 0 then some .malformed else (readFaultOfItems (room - 1) items).or ending
  | .object entries ending =>
    if room = 0 then some .malformed else (readFaultOfEntries (room - 1) entries).or ending
  | .broken reading _ => some reading
  | _ => none

/-- The first fault in a list of items when they are read. -/
def readFaultOfItems (room : Nat) : List Document → Option Fault
  | [] => none
  | item :: items => (readFault room item).or (readFaultOfItems room items)

/-- The first fault in a list of entries when they are read. -/
def readFaultOfEntries (room : Nat) : List (Option String × Document) → Option Fault
  | [] => none
  | (none, _) :: _ => some .malformed
  | (some _, value) :: entries => (readFault room value).or (readFaultOfEntries room entries)

end

end Document

end NotebookSlice.Json

import NotebookSlice.Json.Number

/-!
# Writing JSON texts

A value is written with one item or entry a line, indented by two blanks for each container around
it. Containers without contents are written as two brackets. In strings, quotation marks,
backslashes and control characters are escaped, and nothing else.
-/

namespace NotebookSlice.Json

/-- A value to be written. -/
inductive Value where
  | null
  | bool (value : Bool)
  | natural (value : Nat)
  | string (value : String)
  | array (items : List Value)
  | object (entries : List (String × Value))
deriving Repr, Inhabited

namespace Value

/-- A value that may be missing. -/
def ofOption {α : Type} (encode : α → Value) : Option α → Value
  | none => .null
  | some value => encode value

/-- The hexadecimal digit of a number below sixteen. -/
def hexDigit (value : Nat) : Char := Nat.digitChar value

/-- How a character is written inside a string. -/
def escape (char : Char) : List Char :=
  match char with
  | '\x22' => ['\\', '\x22']
  | '\\' => ['\\', '\\']
  | '\x08' => ['\\', 'b']
  | '\x0c' => ['\\', 'f']
  | '\n' => ['\\', 'n']
  | '\r' => ['\\', 'r']
  | '\t' => ['\\', 't']
  | _ =>
    if char < ' ' then ['\\', 'u', '0', '0', hexDigit (char.toNat / 16), hexDigit (char.toNat % 16)]
    else [char]

/-- A string in quotation marks. -/
def writeString (text : String) : List Char := '\x22' :: text.toList.flatMap escape ++ ['\x22']

/-- The start of a line inside the given number of containers. -/
def newLine (depth : Nat) : List Char := '\n' :: List.replicate (2 * depth) ' '

mutual

/-- The text of a value inside the given number of containers. -/
def write (depth : Nat) : Value → List Char
  | .null => ['n', 'u', 'l', 'l']
  | .bool true => ['t', 'r', 'u', 'e']
  | .bool false => ['f', 'a', 'l', 's', 'e']
  | .natural value => Number.digits value
  | .string text => writeString text
  | .array [] => ['[', ']']
  | .array (item :: items) =>
    '[' :: newLine (depth + 1) ++ write (depth + 1) item ++ writeItems (depth + 1) items ++
      newLine depth ++ [']']
  | .object [] => ['\x7b', '\x7d']
  | .object ((key, value) :: entries) =>
    '\x7b' :: newLine (depth + 1) ++ writeString key ++ [':', ' '] ++ write (depth + 1) value ++
      writeEntries (depth + 1) entries ++ newLine depth ++ ['\x7d']

/-- The text of the items after the first. -/
def writeItems (depth : Nat) : List Value → List Char
  | [] => []
  | item :: items => ',' :: newLine depth ++ write depth item ++ writeItems depth items

/-- The text of the entries after the first. -/
def writeEntries (depth : Nat) : List (String × Value) → List Char
  | [] => []
  | (key, value) :: entries =>
    ',' :: newLine depth ++ writeString key ++ [':', ' '] ++ write depth value ++
      writeEntries depth entries

end

/-- The text of a value. -/
def pretty (value : Value) : String := String.ofList (write 0 value)

end Value

end NotebookSlice.Json

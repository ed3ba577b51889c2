import NotebookSlice.Json.Document
import NotebookSlice.Yaml.Node

/-!
# Values of YAML scalars

A scalar without marks and without a tag may stand for something other than its text: for nothing, a
truth value, an integer or a number with a fraction. The value of a node is the JSON document that
it stands for.
-/

namespace NotebookSlice.Yaml

open Json (Document Number Numeral)

/-- Whether a text stands for nothing. -/
def isNull (text : String) : Bool := text ∈ ["null", "Null", "NULL", "~"]

/-- The truth value that a text stands for. -/
def bool? (text : String) : Option Bool :=
  if text ∈ ["true", "True", "TRUE"] then some true
  else if text ∈ ["false", "False", "FALSE"] then some false
  else none

/-- The value of digits in a base. -/
def digitsIn? (base : Nat) (digits : List Char) : Option Nat :=
  if digits.isEmpty then none
  else digits.foldlM (fun value digit =>
    match Text.hexDigitValue digit with
    | some size => if size < base then some (base * value + size) else none
    | none => none) 0

/-- Whether a text without its sign consists of digits after a leading zero. -/
def hasLeadingZero (digits : List Char) : Bool :=
  digits.length > 1 && digits.head? == some '0' && digits.all Char.isDigit

/-- The natural number that a text without a sign stands for. -/
def natural? (text : List Char) : Option Nat :=
  match text with
  | '0' :: 'x' :: digits => digitsIn? 16 digits
  | '0' :: 'o' :: digits => digitsIn? 8 digits
  | '0' :: 'b' :: digits => digitsIn? 2 digits
  | _ => if hasLeadingZero text then none else digitsIn? 10 text

/-- The integer that a text stands for. -/
def integer? (text : List Char) : Option Int :=
  match text with
  | '+' :: digits => (natural? digits).map Int.ofNat
  | '-' :: digits => (natural? digits).map fun value => -(value : Int)
  | _ => (natural? text).map Int.ofNat

/-- The parts of a number with a fraction or an exponent. -/
def numeral? (text : List Char) : Option Numeral :=
  let (negative, text) := match text with
    | '-' :: rest => (true, rest)
    | '+' :: rest => (false, rest)
    | _ => (false, text)
  let integer := text.takeWhile Char.isDigit
  let (fraction, rest) := match text.drop integer.length with
    | '.' :: rest => (rest.takeWhile Char.isDigit, rest.dropWhile Char.isDigit)
    | rest => ([], rest)
  if integer.isEmpty && fraction.isEmpty then none
  else
    let numeral : Numeral := { negative, integer, fraction := some fraction }
    match rest with
    | [] => some numeral
    | mark :: rest =>
      let (negative, digits) := match rest with
        | '-' :: digits => (true, digits)
        | '+' :: digits => (false, digits)
        | digits => (false, digits)
      if (mark == 'e' || mark == 'E') && !digits.isEmpty && digits.all Char.isDigit then
        some { numeral with exponent := some (negative, digits) }
      else none

/-- The bits of the double that a text stands for. -/
def double? (text : String) : Option UInt64 :=
  if text ∈ [".inf", ".Inf", ".INF", "+.inf", "+.Inf", "+.INF"] then some 0x7ff0000000000000
  else if text ∈ ["-.inf", "-.Inf", "-.INF"] then some 0xfff0000000000000
  else if text ∈ [".nan", ".NaN", ".NAN"] then some 0x7ff8000000000000
  else (numeral? text.toList).bind fun numeral => numeral.double?.map Float.toBits

/-- The value of an integer; those that do not fit into 64 bits have none. -/
def integerValue? (value : Int) : Option Document :=
  if -(Nat.pow 2 63 : Int) ≤ value ∧ value < UInt64.size then
    some (.number (.integer value)) else none

/-- The value of a scalar without marks and without a tag. -/
def plainValue? (text : String) : Option Document :=
  if text.isEmpty || isNull text then some .null
  else
    match bool? text, integer? text.toList with
    | some value, _ => some (.bool value)
    | none, some value => integerValue? value
    | none, none =>
      let unsigned := text.toList.dropWhile fun char => char == '-' || char == '+'
      match if hasLeadingZero unsigned then none else double? text with
      | some bits => some (.number (.double bits))
      | none => some (.string text)

/-- The start of the tags that the language itself defines. -/
def coreTag (name : String) : String := "tag:yaml.org,2002:" ++ name

/-- Whether a tag is defined by a document, so that nothing is known about it. -/
def isLocalTag (tag : Option String) : Bool := tag.any fun tag => tag.startsWith "!"

/-- The value of a scalar. -/
def scalarValue? (text : String) (plain : Bool) (tag : Option String) : Option Document :=
  match tag with
  | none => if plain then plainValue? text else some (.string text)
  | some tag =>
    if tag.startsWith "!" then none
    else if tag == coreTag "null" then if isNull text then some .null else none
    else if tag == coreTag "bool" then (bool? text).map .bool
    else if tag == coreTag "int" then (integer? text.toList).bind integerValue?
    else if tag == coreTag "float" then (double? text).map fun bits => .number (.double bits)
    else some (.string text)

namespace Node

mutual

/-- The value of a node; none if it has no value. -/
def value? : Node → Option Document
  | .scalar text plain tag => scalarValue? text plain tag
  | .sequence items tag =>
    if isLocalTag tag then none else (values? items).map fun items => .array items none
  | .mapping entries tag =>
    if isLocalTag tag then none else (entryValues? entries).map fun entries => .object entries none

/-- The values of nodes. -/
def values? : List Node → Option (List Document)
  | [] => some []
  | item :: items => do return (← value? item) :: (← values? items)

/-- The values of entries; a key that is no string has no name. -/
def entryValues? : List (Node × Node) → Option (List (Option String × Document))
  | [] => some []
  | (key, value) :: entries => do
    let name := match ← value? key with
      | .string name => some name
      | _ => none
    return (name, ← value? value) :: (← entryValues? entries)

end

end Node

end NotebookSlice.Yaml

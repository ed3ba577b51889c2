import NotebookSlice.Text.Word

/-!
# Words, numbers and signs

The tokens whose characters say all about them. Each function looks at the start of a text and gives
the number of characters of the longest token of its class, zero if there is none. `Word` classes
follow the character properties of Unicode; numbers are written in ASCII digits with single
underscores between them, in base 2, 8, 10 or 16, with an `L` or `J` behind some of them.
-/

namespace NotebookSlice.Syntax

open Text

/-- Number of leading characters with a property. -/
def leading (holds : Char → Bool) : List Char → Nat
  | [] => 0
  | char :: rest => if holds char then leading holds rest + 1 else 0

/-- A word: a letter or underscore, then letters, digits, marks and underscores. -/
def wordSize : List Char → Nat
  | [] => 0
  | char :: rest => if isWordStart char then leading isWordPart rest + 1 else 0

/-- Whether the character separates tokens. -/
def isSeparator (char : Char) : Bool :=
  char = ' ' || ('\t' ≤ char && char ≤ '\r') ||
    char = '\ufeff' || char = '\u2060' || char = '\u200b'

/-- Digits in which every underscore stands before a digit. -/
def digitsSize (isDigit : Char → Bool) : List Char → Nat
  | [] => 0
  | '_' :: char :: rest => if isDigit char then digitsSize isDigit rest + 2 else 0
  | char :: rest => if isDigit char then digitsSize isDigit rest + 1 else 0

/-- Decimal digits in which every underscore stands after a digit. -/
def decimalSize : List Char → Nat
  | [] => 0
  | [char] => if char.isDigit then 1 else 0
  | char :: '_' :: rest => if char.isDigit then decimalSize rest + 2 else 0
  | char :: rest => if char.isDigit then decimalSize rest + 1 else 0

/-- One if the text starts with one of the characters. -/
def markSize (marks : List Char) (text : List Char) : Nat :=
  match text with
  | [] => 0
  | char :: _ => if marks.contains char then 1 else 0

/-- Digits of a base after its two characters, and a mark for long numbers. -/
def basedSize (isDigit : Char → Bool) (text : List Char) : Nat :=
  match digitsSize isDigit text with
  | 0 => 0
  | size => size + 2 + markSize ['L', 'l'] (text.drop size)

def isHexDigit (char : Char) : Bool := (hexDigitValue char).isSome

def isOctalDigit (char : Char) : Bool := '0' ≤ char && char ≤ '7'

def isBinaryDigit (char : Char) : Bool := char = '0' || char = '1'

/-- A decimal number with a mark for long or imaginary numbers. -/
def plainIntegerSize (text : List Char) : Nat :=
  match decimalSize text with
  | 0 => 0
  | size => size + markSize ['L', 'l', 'J', 'j'] (text.drop size)

/-- A whole number of any base. -/
def integerSize (text : List Char) : Nat :=
  let based := match text with
    | '0' :: 'x' :: rest => basedSize isHexDigit rest
    | '0' :: 'X' :: rest => basedSize isHexDigit rest
    | '0' :: 'o' :: rest => basedSize isOctalDigit rest
    | '0' :: 'O' :: rest => basedSize isOctalDigit rest
    | '0' :: 'b' :: rest => basedSize isBinaryDigit rest
    | '0' :: 'B' :: rest => basedSize isBinaryDigit rest
    | _ => 0
  max based (plainIntegerSize text)

/-- The exponent of a floating-point number. -/
def exponentSize : List Char → Nat
  | [] => 0
  | char :: rest =>
    if char = 'e' || char = 'E' then
      let sign := markSize ['+', '-'] rest
      match decimalSize (rest.drop sign) with
      | 0 => 0
      | size => size + sign + 1
    else 0

/-- A floating-point number: with a point, with an exponent, or with both; a mark for imaginary
numbers. -/
def floatSize (text : List Char) : Nat :=
  let whole := decimalSize text
  let body := match text.drop whole with
    | '.' :: rest =>
      let fraction := decimalSize rest
      if whole = 0 ∧ fraction = 0 then 0
      else whole + 1 + fraction + exponentSize (rest.drop fraction)
    | rest =>
      match exponentSize rest with
      | 0 => 0
      | size => if whole = 0 then 0 else whole + size
  match body with
  | 0 => 0
  | size => size + markSize ['J', 'j'] (text.drop size)

/-- A comment, up to the end of its line. -/
def commentSize : List Char → Nat
  | '#' :: rest => leading (fun char => char ≠ '\n' && char ≠ '\x00') rest + 1
  | _ => 0

/-- A backslash at the end of a line, which the next line continues. -/
def continuationSize : List Char → Nat
  | '\\' :: '\r' :: '\n' :: _ => 3
  | '\\' :: '\n' :: _ => 2
  | '\\' :: '\x00' :: _ => 2
  | _ => 0

/-- Size of an escape with a fixed number of digits after two characters. -/
def fixedEscape (isDigit : Char → Bool) (count lead : Nat) (text : List Char) : Nat :=
  if (text.take count).length = count ∧ (text.take count).all isDigit then count + lead else 0

/-- An escape inside a string. -/
def escapeSize : List Char → Nat
  | '\\' :: char :: rest =>
    match char with
    | 'u' => fixedEscape isHexDigit 4 2 rest
    | 'U' => fixedEscape isHexDigit 8 2 rest
    | 'x' => fixedEscape isHexDigit 2 2 rest
    | '\n' => 2
    | '\r' => if rest.head? = some '\n' then 3 else 0
    | 'N' =>
      match rest with
      | '\x7b' :: name =>
        let size := leading (fun char => char ≠ '\x7d' && char ≠ '\x00') name
        if size > 0 ∧ (name.drop size).head? = some '\x7d' then size + 4 else 0
      | _ => 0
    | char =>
      if ['\x27', '\x22', 'a', 'b', 'f', 'r', 'n', 't', 'v', '\\'].contains char then 2
      else fixedEscape Char.isDigit 3 1 (char :: rest)
  | _ => 0

/-- A backslash without a meaning inside a string. -/
def backslashSize (text : List Char) : Nat := markSize ['\\'] text

/-- The conversion mark of an expression in a string. -/
def conversionSize : List Char → Nat
  | '!' :: char :: _ => if 'a' ≤ char ∧ char ≤ 'z' then 2 else 0
  | _ => 0

/-- Text of a format specification. -/
def formatTextSize (text : List Char) : Nat :=
  leading (fun char => char ≠ '\x7b' && char ≠ '\x7d' && char ≠ '\n' && char ≠ '\x00') text

end NotebookSlice.Syntax

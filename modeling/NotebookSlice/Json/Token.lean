import NotebookSlice.Json.Document
import NotebookSlice.Text.CodePoint

/-!
# Tokens of JSON texts

The tokens of a text are found by an automaton that reads one character at a time. Its mode says
what it is in the middle of: nothing, a literal, a numeral or a string. A character that ends a
numeral also starts what comes next. After a fault the automaton finds no more tokens.
-/

namespace NotebookSlice.Json

/-- A mark between values. -/
inductive Mark where
  | openArray
  | closeArray
  | openObject
  | closeObject
  | comma
  | colon
deriving DecidableEq, Repr, Inhabited

/-- A part of a text. -/
inductive Token where
  | mark (mark : Mark)
  | string (value : Option String)
  /-- A literal or a numeral. -/
  | scalar (value : Document)
  /-- The text cannot be read further; `inString` says whether it is a string that cannot be
  read. -/
  | fault (reading skipping : Fault) (inString : Bool)
deriving Repr, Inhabited

/-- What the automaton expects next inside a string. -/
inductive Phase where
  | plain
  /-- After a backslash. -/
  | escape
  /-- Inside four bytes of hexadecimal digits: their value so far, if they are digits, and the
  number of bytes read. -/
  | hex (value : Option Nat) (read : Nat)
deriving DecidableEq, Repr, Inhabited

/-- A string that is being read. -/
structure Quote where
  /-- The characters so far, the last one first. -/
  reversed : List Char := []
  phase : Phase := .plain
  /-- The first half of a surrogate pair, directly before the place. -/
  half : Option Nat := none
  /-- Whether no surrogate so far stands alone. -/
  sound : Bool := true
deriving DecidableEq, Repr, Inhabited

namespace Quote

/-- Adds a character; half of a surrogate pair before it stands alone. -/
def push (quote : Quote) (char : Char) : Quote :=
  { quote with
    reversed := char :: quote.reversed
    phase := .plain
    half := none
    sound := quote.sound && quote.half.isNone }

/-- Whether the code is the first half of a surrogate pair. -/
def isFirstHalf (code : Nat) : Bool := 0xd800 ≤ code && code ≤ 0xdbff

/-- Whether the code is the second half of a surrogate pair. -/
def isSecondHalf (code : Nat) : Bool := 0xdc00 ≤ code && code ≤ 0xdfff

/-- Adds a code of four hexadecimal digits. -/
def pushCode (quote : Quote) (code : Nat) : Quote :=
  match quote.half with
  | some first =>
    if isSecondHalf code then
      { quote.push (Char.ofNat (0x10000 + (first - 0xd800) * 0x400 + (code - 0xdc00))) with
        sound := quote.sound }
    else { quote with phase := .plain, half := none, sound := false }
  | none =>
    if isFirstHalf code then { quote with phase := .plain, half := some code }
    else if isSecondHalf code then { quote with phase := .plain, sound := false }
    else quote.push (Char.ofNat code)

/-- The string, unless a surrogate stands alone in it. -/
def text? (quote : Quote) : Option String :=
  if quote.sound && quote.half.isNone then some (String.ofList quote.reversed.reverse) else none

/-- The character that a backslash and the given character stand for. -/
def escaped? (char : Char) : Option Char :=
  match char with
  | '\x22' => some '\x22'
  | '\\' => some '\\'
  | '/' => some '/'
  | 'b' => some '\x08'
  | 'f' => some '\x0c'
  | 'n' => some '\n'
  | 'r' => some '\r'
  | 't' => some '\t'
  | _ => none

/-- The fault that a reader meets where a string cannot be continued. -/
def faultFor (quote : Quote) (fault : Fault) : Token :=
  .fault (if quote.sound then fault else .malformed) fault true

end Quote

namespace Numeral

/-- Whether the numeral is complete. -/
def isComplete (numeral : Numeral) : Bool :=
  match numeral.exponent, numeral.fraction with
  | some (_, digits), _ => !digits.isEmpty
  | none, some digits => !digits.isEmpty
  | none, none => !numeral.integer.isEmpty

/-- The numeral with one more character, if the character can be part of it. -/
def extend? (numeral : Numeral) (char : Char) : Option Numeral :=
  match numeral.exponent, numeral.fraction with
  | some (negative, digits), _ =>
    if char.isDigit then some { numeral with exponent := some (negative, digits ++ [char]) }
    else none
  | none, some digits =>
    if char.isDigit then some { numeral with fraction := some (digits ++ [char]) } else none
  | none, none =>
    if char.isDigit && numeral.integer != ['0'] then
      some { numeral with integer := numeral.integer ++ [char] }
    else none

end Numeral

/-- What the automaton is in the middle of. -/
inductive Mode where
  | between
  /-- A literal of which the given letters are missing, and its value. -/
  | literal (missing : List Char) (value : Document)
  | numeral (numeral : Numeral)
  /-- Directly after the mark of an exponent, where a sign may stand. -/
  | exponent (numeral : Numeral)
  | quote (quote : Quote)
  | stopped
deriving Repr, Inhabited

namespace Mode

/-- The token of a numeral that has ended. -/
def numeralToken (numeral : Numeral) : Token :=
  match numeral.value? with
  | some value => .scalar (.number value)
  | none => .scalar (.broken .malformed none)

/-- Stops with a malformed text. -/
def fail : List Token × Mode := ([.fault .malformed .malformed false], stopped)

/-- What a character between tokens starts. -/
def start (char : Char) : List Token × Mode :=
  match char with
  | ' ' | '\t' | '\n' | '\r' => ([], between)
  | '[' => ([.mark .openArray], between)
  | ']' => ([.mark .closeArray], between)
  | '\x7b' => ([.mark .openObject], between)
  | '\x7d' => ([.mark .closeObject], between)
  | ',' => ([.mark .comma], between)
  | ':' => ([.mark .colon], between)
  | '\x22' => ([], quote {})
  | 't' => ([], literal ['r', 'u', 'e'] (.bool true))
  | 'f' => ([], literal ['a', 'l', 's', 'e'] (.bool false))
  | 'n' => ([], literal ['u', 'l', 'l'] .null)
  | '-' => ([], numeral { negative := true })
  | _ => if char.isDigit then ([], numeral { integer := [char] }) else fail

/-- The next step inside a string. -/
def stepQuote (quote : Quote) (char : Char) : List Token × Mode :=
  match quote.phase with
  | .plain =>
    if char = '\x22' then ([.string quote.text?], between)
    else if char = '\\' then ([], .quote { quote with phase := .escape })
    else if char < ' ' then ([quote.faultFor .malformed], stopped)
    else ([], .quote (quote.push char))
  | .escape =>
    if char = 'u' then ([], .quote { quote with phase := .hex (some 0) 0 })
    else
      match Quote.escaped? char with
      | some meaning => ([], .quote (quote.push meaning))
      | none => ([quote.faultFor .malformed], stopped)
  | .hex value read =>
    let value := do return 16 * (← value) + (← Text.hexDigitValue char)
    let read := read + char.utf8Size
    if read < 4 then ([], .quote { quote with phase := .hex value read })
    else
      match value with
      | some code => ([], .quote (quote.pushCode code))
      | none => ([quote.faultFor .malformed], stopped)

/-- The next step inside a numeral. -/
def stepNumeral (numeral : Numeral) (char : Char) : List Token × Mode :=
  match numeral.extend? char with
  | some longer => ([], .numeral longer)
  | none =>
    if !numeral.isComplete ||
      (char.isDigit && numeral.exponent.isNone && numeral.fraction.isNone) then fail
    else if char = '.' && numeral.fraction.isNone && numeral.exponent.isNone then
      ([], .numeral { numeral with fraction := some [] })
    else if (char = 'e' || char = 'E') && numeral.exponent.isNone then
      ([], .exponent numeral)
    else
      let (tokens, mode) := start char
      (numeralToken numeral :: tokens, mode)

/-- The automaton after one more character, and the tokens that are complete with it. -/
def step (mode : Mode) (char : Char) : List Token × Mode :=
  match mode with
  | between => start char
  | literal [] _ => fail
  | literal (expected :: missing) value =>
    if char ≠ expected then fail
    else if missing.isEmpty then ([.scalar value], between)
    else ([], literal missing value)
  | numeral current => stepNumeral current char
  | exponent current =>
    if char = '+' || char = '-' then
      ([], numeral { current with exponent := some (char = '-', []) })
    else if char.isDigit then ([], numeral { current with exponent := some (false, [char]) })
    else fail
  | quote current => stepQuote current char
  | stopped => ([], stopped)

/-- The last tokens, when the text ends. -/
def finish : Mode → List Token
  | between | stopped => []
  | literal _ _ => [.fault .truncated .truncated false]
  | numeral current =>
    if current.isComplete then [numeralToken current] else [.fault .truncated .malformed false]
  | exponent _ => [.fault .truncated .malformed false]
  | quote current => [current.faultFor .truncated]

/-- The tokens of a text of which the given tokens, in reverse, have been found. -/
def scan (mode : Mode) (found : List Token) : List Char → List Token
  | [] => found.reverse ++ mode.finish
  | char :: rest =>
    let (tokens, next) := mode.step char
    next.scan (tokens.reverse ++ found) rest

end Mode

/-- The tokens of a text. -/
def tokens (text : String) : List Token := Mode.between.scan [] text.toList

end NotebookSlice.Json

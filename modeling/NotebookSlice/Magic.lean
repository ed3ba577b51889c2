import NotebookSlice.Text.Blank
import NotebookSlice.Text.Lines

/-!
# Interactive lines

Notebook cells hold lines for the interactive shell that are no Python: magic commands, which start
with `%` or `!`, and help queries, which end with `?`. `commentOut` turns such lines into comments
by a `#` after their indentation, so that lines keep their numbers.

Only a line at which a statement can start is interactive. The scanner below walks over the other
lines and remembers what keeps a statement open at the end of a line: brackets, a string in triple
quotes, or a backslash. It works on the UTF-8 bytes of a line; `Scanner.scanChars` is the same walk
over characters.
-/

namespace NotebookSlice.Magic

open Text

/-- The two quotation marks of strings. -/
inductive Mark where
  | single
  | double
deriving DecidableEq, Repr, Inhabited

namespace Mark

def char : Mark → Char
  | .single => '\x27'
  | .double => '\x22'

def byte : Mark → UInt8
  | .single => 0x27
  | .double => 0x22

/-- The mark with a byte. -/
def ofByte? (byte : UInt8) : Option Mark :=
  if byte = 0x27 then some .single else if byte = 0x22 then some .double else none

/-- The mark with a character. -/
def ofChar? (char : Char) : Option Mark :=
  if char = '\x27' then some .single else if char = '\x22' then some .double else none

end Mark

/-- What keeps a statement open at the end of a line. -/
structure Scanner where
  /-- Number of open brackets. -/
  depth : Nat := 0
  /-- The mark of an open string in triple quotes. -/
  openTriple : Option Mark := none
  /-- Whether a backslash ends the line. -/
  continued : Bool := false
deriving DecidableEq, Repr, Inhabited

namespace Scanner

/-- Whether a statement can start at the next line. -/
def atStatementStart (scanner : Scanner) : Bool :=
  scanner.depth == 0 && scanner.openTriple.isNone && !scanner.continued

/-- The UTF-8 bytes of a text. -/
def bytes (text : List Char) : List UInt8 := text.flatMap String.utf8EncodeChar

/-- The characters of a text that end within a number of bytes. -/
def takeBytes : Nat → List Char → List Char
  | _, [] => []
  | count, char :: rest =>
    if char.utf8Size ≤ count then char :: takeBytes (count - char.utf8Size) rest else []

/-- The characters of a text that start at or after a number of bytes. -/
def dropBytes : Nat → List Char → List Char
  | _, [] => []
  | 0, text => text
  | count, char :: rest => dropBytes (count - char.utf8Size) rest

/-- A bracket opens or closes. -/
def bracket (scanner : Scanner) (opens closes : Bool) : Scanner :=
  if opens then { scanner with depth := scanner.depth + 1 }
  else if closes then { scanner with depth := scanner.depth - 1 }
  else scanner

/--
Walks over the bytes of a line from a position on, inside a string with the mark `quote` if there is
one; the next `pending` bytes are passed over. Gives the length of the line before a comment.
-/
def scanBytesFrom (line : List Char) (scanner : Scanner) (quote : Option Mark)
    (pending position : Nat) :
    List UInt8 → Scanner × Nat
  | [] => (scanner, position)
  | byte :: rest =>
    match pending with
    | pending + 1 => scanBytesFrom line scanner quote pending (position + 1) rest
    | 0 =>
      match scanner.openTriple with
      | some mark =>
        if byte = 0x5c then scanBytesFrom line scanner quote 1 (position + 1) rest
        else if (byte :: rest).take 3 = List.replicate 3 mark.byte then
          scanBytesFrom line { scanner with openTriple := none } quote 2 (position + 1) rest
        else scanBytesFrom line scanner quote 0 (position + 1) rest
      | none =>
        match quote with
        | some mark =>
          if byte = 0x5c then scanBytesFrom line scanner quote 1 (position + 1) rest
          else scanBytesFrom line scanner (if byte = mark.byte then none else quote) 0
            (position + 1) rest
        | none =>
          if byte = 0x23 then (scanner, position)
          else match Mark.ofByte? byte with
            | some mark =>
              if (byte :: rest).take 3 = List.replicate 3 mark.byte then
                scanBytesFrom line { scanner with openTriple := some mark } none 2
                  (position + 1) rest
              else scanBytesFrom line scanner (some mark) 0 (position + 1) rest
            | none =>
              if byte = 0x5c ∧ allBlank (dropBytes (position + 1) line) then
                scanBytesFrom line { scanner with continued := true } none 0 (position + 1) rest
              else
                scanBytesFrom line
                  (scanner.bracket (byte = 0x28 || byte = 0x5b || byte = 0x7b)
                    (byte = 0x29 || byte = 0x5d || byte = 0x7d)) none 0 (position + 1) rest

/-- Walks over a line and gives the number of bytes before a comment. -/
def scan (scanner : Scanner) (line : List Char) : Scanner × Nat :=
  scanBytesFrom line { scanner with continued := false } none 0 0 (bytes line)

/-- Walks over the characters of a line as `scanBytesFrom` does over its bytes. -/
def scanCharsFrom (scanner : Scanner) (quote : Option Mark) (pending position : Nat) :
    List Char → Scanner × Nat
  | [] => (scanner, position)
  | char :: rest =>
    let next := position + char.utf8Size
    match pending with
    | pending + 1 => scanCharsFrom scanner quote pending next rest
    | 0 =>
      match scanner.openTriple with
      | some mark =>
        if char = '\\' then scanCharsFrom scanner quote 1 next rest
        else if (char :: rest).take 3 = List.replicate 3 mark.char then
          scanCharsFrom { scanner with openTriple := none } quote 2 next rest
        else scanCharsFrom scanner quote 0 next rest
      | none =>
        match quote with
        | some mark =>
          if char = '\\' then scanCharsFrom scanner quote 1 next rest
          else scanCharsFrom scanner (if char = mark.char then none else quote) 0 next rest
        | none =>
          if char = '#' then (scanner, position)
          else match Mark.ofChar? char with
            | some mark =>
              if (char :: rest).take 3 = List.replicate 3 mark.char then
                scanCharsFrom { scanner with openTriple := some mark } none 2 next rest
              else scanCharsFrom scanner (some mark) 0 next rest
            | none =>
              if char = '\\' ∧ allBlank rest then
                scanCharsFrom { scanner with continued := true } none 0 next rest
              else
                scanCharsFrom
                  (scanner.bracket (char = '(' || char = '[' || char = '\x7b')
                    (char = ')' || char = ']' || char = '\x7d')) none 0 next rest

/-- Walks over the characters of a line and gives the number of bytes before a comment. -/
def scanChars (scanner : Scanner) (line : List Char) : Scanner × Nat :=
  scanCharsFrom { scanner with continued := false } none 0 0 line

end Scanner

/-- Whether a line, at which a statement can start, is a magic command or a help query. -/
def isInteractive (line : List Char) : Bool :=
  let code := trimStart line
  match code.head? with
  | some '%' | some '!' => true
  | _ =>
    let (_, size) := Scanner.scan {} code
    (trimEnd (Scanner.takeBytes size code)).getLast? = some '?'

/-- The line as a comment, with its indentation kept. -/
def commented (line : List Char) : List Char := line.takeWhile isBlank ++ '#' :: trimStart line

/-- Turns the interactive ones of some lines into comments. -/
def commentOutRows (scanner : Scanner) : List (List Char) → List (List Char)
  | [] => []
  | line :: rest =>
    if scanner.atStatementStart && isInteractive line then
      commented line :: commentOutRows scanner rest
    else line :: commentOutRows (scanner.scan line).1 rest

/-- Turns the interactive lines of a text into comments. -/
def commentOut (text : String) : String :=
  String.ofList (joinRows (commentOutRows {} (rows text.toList)))

end NotebookSlice.Magic

import NotebookSlice.Text.Cursor

/-!
# Places in YAML texts

Lines of a YAML text end with a line feed or with one of the separators of Unicode. Other line ends
count as line feeds, which they are turned into before the text is scanned.
-/

namespace NotebookSlice.Yaml

open Text (Cursor Position)

/-- A blank inside a line. -/
def isBlank (char : Char) : Bool := char == ' ' || char == '\t'

/-- The end of a line. -/
def isBreak (char : Char) : Bool := char == '\n' || char == '\u2028' || char == '\u2029'

/-- Whether a character may stand in a text. -/
def isAllowed (char : Char) : Bool :=
  char == '\t' || char == '\n' || char == '\r' || (' ' ≤ char && char ≤ '~') || char == '\u0085' ||
    ('\u00a0' ≤ char && char.toNat ≤ 0xfffd) || 0x10000 ≤ char.toNat

/-- The text with all line ends as line feeds; the separators of Unicode stay. -/
def unifyBreaks : List Char → List Char
  | [] => []
  | '\r' :: '\n' :: rest => '\n' :: unifyBreaks rest
  | char :: rest => (if char == '\r' || char == '\u0085' then '\n' else char) :: unifyBreaks rest

/-- The place before a text, without a byte order mark; none if the text has characters that are not
allowed. -/
def startOf? (text : String) : Option Cursor :=
  if text.toList.all isAllowed then
    let chars := match text.toList with
      | '\ufeff' :: rest => rest
      | chars => chars
    some { rest := unifyBreaks chars }
  else none

/-- The place after one character. -/
def after (position : Position) (char : Char) : Position :=
  if isBreak char then ⟨position.offset + 1, position.row + 1, 0⟩
  else ⟨position.offset + 1, position.row, position.column + 1⟩

/-- The place after the next character. -/
def next (cursor : Cursor) : Cursor :=
  match cursor.rest with
  | [] => cursor
  | char :: rest => ⟨after cursor.position char, rest⟩

/-- The place after a number of characters. -/
def skip : Nat → Cursor → Cursor
  | 0, cursor => cursor
  | count + 1, cursor => skip count (next cursor)

/-- Skips the characters that pass a test. -/
def skipWhile (test : Char → Bool) (cursor : Cursor) : Cursor :=
  skip (cursor.rest.takeWhile test).length cursor

/-- Whether a blank, the end of a line or the end of the text follows. -/
def blankFollows : List Char → Bool
  | [] => true
  | char :: _ => isBlank char || isBreak char

/-- Whether the end of a line or of the text follows. -/
def breakFollows : List Char → Bool
  | [] => true
  | char :: _ => isBreak char

/-- Whether a line starts here with three of the given character and a blank. -/
def markerFollows (mark : Char) (cursor : Cursor) : Bool :=
  cursor.position.column == 0 && cursor.rest.take 3 == [mark, mark, mark] &&
    blankFollows (cursor.rest.drop 3)

/-- Whether a document starts or ends here. -/
def documentMarkerFollows (cursor : Cursor) : Bool :=
  markerFollows '-' cursor || markerFollows '.' cursor

end NotebookSlice.Yaml

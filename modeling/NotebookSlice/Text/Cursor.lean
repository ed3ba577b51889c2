/-!
# Places in a text

A position counts characters from the start of a text and knows its row and column, both from zero;
a new row starts after every line feed. A cursor is a position together with the text that lies
ahead.
-/

namespace NotebookSlice.Text

/-- A place in a text. -/
structure Position where
  offset : Nat := 0
  row : Nat := 0
  column : Nat := 0
deriving DecidableEq, Repr, Inhabited

namespace Position

/-- The place after one character. -/
def after (position : Position) (char : Char) : Position :=
  if char = '\n' then ⟨position.offset + 1, position.row + 1, 0⟩
  else ⟨position.offset + 1, position.row, position.column + 1⟩

end Position

/-- A place in a text and the characters that follow it. -/
structure Cursor where
  position : Position := {}
  rest : List Char
deriving Inhabited

namespace Cursor

/-- The place before a whole text. -/
def start (text : String) : Cursor := { rest := text.toList }

/-- Moves over one character; stays at the end of the text. -/
def next (cursor : Cursor) : Cursor :=
  match cursor.rest with
  | [] => cursor
  | char :: rest => ⟨cursor.position.after char, rest⟩

/-- Moves over a number of characters. -/
def skip : Nat → Cursor → Cursor
  | 0, cursor => cursor
  | count + 1, cursor => skip count cursor.next

/-- The next character, and NUL at the end of the text. -/
def peek (cursor : Cursor) : Char := cursor.rest.headD '\x00'

/-- Whether no character follows. -/
def atEnd (cursor : Cursor) : Bool := cursor.rest.isEmpty

end Cursor

end NotebookSlice.Text

/-!
# Blank characters

A character is blank if it has the Unicode property `White_Space`. Trimming removes blank characters
from the ends of a text.
-/

namespace NotebookSlice.Text

/-- Whether the character has the property `White_Space`. -/
def isBlank (char : Char) : Bool :=
  ('\t' ≤ char && char ≤ '\r') || char = ' ' || char = '\u0085' || char = '\u00a0' ||
    char = '\u1680' || ('\u2000' ≤ char && char ≤ '\u200a') || char = '\u2028' || char = '\u2029' ||
    char = '\u202f' || char = '\u205f' || char = '\u3000'

/-- The text without the blank characters at its start. -/
def trimStart (text : List Char) : List Char := text.dropWhile isBlank

/-- The text without the blank characters at its end. -/
def trimEnd (text : List Char) : List Char := (text.reverse.dropWhile isBlank).reverse

/-- Whether the text has blank characters only. -/
def allBlank (text : List Char) : Bool := text.all isBlank

/-- Whether a string has blank characters only. -/
def isBlankText (text : String) : Bool := allBlank text.toList

end NotebookSlice.Text

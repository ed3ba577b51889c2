import NotebookSlice.Text.Cursor

/-!
# Layout and string delimiters

Some tokens depend on what came before them: the ends of lines and blocks depend on the indentation
of the blocks that are open, and the text inside a string depends on the quotes that opened it.
`Layout` remembers both. `Layout.scan` looks for such a token at a place; the kinds of token that
the grammar can use there (`Wanted`) decide how the text is read.

The end of a line, and the start and end of a block, are tokens without characters: they stand right
after the token before them. A line end is a token only where one is wanted; elsewhere it separates
tokens like a space. A block ends before a line with less indentation than the block. Lines that
hold only a comment neither open nor close blocks, but a block does not end before a comment that is
indented at least as deep as the block.
-/

namespace NotebookSlice.Syntax

open Text (Cursor)

/-- How a string was opened. -/
structure Quote where
  /-- The quotation mark. -/
  mark : Char
  triple : Bool := false
  /-- Backslashes have no meaning of their own. -/
  raw : Bool := false
  /-- Braces enclose expressions. -/
  format : Bool := false
  bytes : Bool := false
deriving DecidableEq, Repr, Inhabited

/-- The blocks and strings that are open at a place. -/
structure Layout where
  /-- The indentation of the open blocks, innermost first; the whole text has indentation zero. -/
  indents : List Nat := []
  /-- The open strings, innermost first. -/
  quotes : List Quote := []
  /-- Whether the last delimiter opened a string with expressions in it. -/
  inFormat : Bool := false
deriving DecidableEq, Repr, Inhabited

/-- The kinds of token that `Layout.scan` looks for. -/
inductive LayoutToken where
  | newline
  | indent
  | dedent
  | stringStart
  | stringContent
  /-- A doubled brace, which stands for one brace in a string with expressions. -/
  | braceEscape
  | stringEnd
deriving DecidableEq, Repr, Inhabited

/-- Which tokens the grammar can use at a place. -/
structure Wanted where
  newline : Bool := false
  indent : Bool := false
  dedent : Bool := false
  stringStart : Bool := false
  stringContent : Bool := false
  braceEscape : Bool := false
  /-- A closing bracket of any shape. -/
  closing : Bool := false
  /-- The keyword of an exception handler. -/
  handler : Bool := false
deriving Repr, Inhabited

/-- A token of the layout, its extent, and what is open after it. -/
structure LayoutScan where
  token : LayoutToken
  layout : Layout
  /-- Number of characters before the token that do not belong to it. -/
  skipped : Nat := 0
  /-- Number of characters of the token. -/
  size : Nat := 0
deriving Inhabited

namespace Quote

/-- The characters after a backslash that a raw string reads together with it. -/
def rawEscape (quote : Quote) (rest : List Char) : Nat :=
  let quoted := match rest with
    | char :: _ => if char = quote.mark ∨ char = '\\' then 1 else 0
    | [] => 0
  match rest.drop quoted with
  | '\r' :: '\n' :: _ => quoted + 2
  | '\r' :: _ => quoted + 1
  | '\n' :: _ => quoted + 1
  | _ => quoted

/--
Reads text inside a string: the kind of token and its number of characters, or nothing if the text
cannot go on here. `size` characters have been read before `rest`, and `started` says whether any of
them is text of the string. `pending` counts characters that are read without a look at them.
-/
def scanText (quote : Quote) :
    (size : Nat) → (started : Bool) → (pending : Nat) → (rest : List Char) →
    Option (LayoutToken × Nat)
  | _, _, _, [] => none
  | size, started, pending + 1, _ :: rest => scanText quote (size + 1) started pending rest
  | size, started, 0, char :: rest =>
    if char = '\x00' then none
    else if quote.format ∧ (char = '\x7b' ∨ char = '\x7d') then
      if started then some (.stringContent, size) else none
    else if char = '\\' then
      if quote.raw then scanText quote (size + 1) started (quote.rawEscape rest) rest
      else if quote.bytes ∧ (rest.head? = some 'N' ∨ rest.head? = some 'u' ∨
        rest.head? = some 'U') then
        -- Such an escape means nothing in a byte string; it is read with the character after it.
        scanText quote (size + 1) true 2 rest
      else if started then some (.stringContent, size) else none
    else if char = quote.mark then
      if quote.triple then
        match rest with
        | second :: third :: _ =>
          if second = quote.mark then
            if third = quote.mark then
              if started then some (.stringContent, size) else some (.stringEnd, size + 3)
            else some (.stringContent, size + 2)
          else some (.stringContent, size + 1)
        | [second] =>
          if second = quote.mark then some (.stringContent, size + 2)
          else some (.stringContent, size + 1)
        | [] => some (.stringContent, size + 1)
      else if started then some (.stringContent, size) else some (.stringEnd, size + 1)
    else if char = '\n' ∧ started ∧ ¬ quote.triple then none
    else scanText quote (size + 1) true 0 rest

/-- Reads the letters and the quotation marks that open a string, and counts them. -/
def scanStart (quote : Quote) (size : Nat) : List Char → Option (Quote × Nat)
  | [] => none
  | char :: rest =>
    if char = 'f' ∨ char = 'F' then scanStart { quote with format := true } (size + 1) rest
    else if char = 'r' ∨ char = 'R' then scanStart { quote with raw := true } (size + 1) rest
    else if char = 'b' ∨ char = 'B' then scanStart { quote with bytes := true } (size + 1) rest
    else if char = 'u' ∨ char = 'U' then scanStart quote (size + 1) rest
    else if char = '\x60' then some ({ quote with mark := char }, size + 1)
    else if char = '\x27' ∨ char = '\x22' then
      if rest.take 2 = [char, char] then
        some ({ quote with mark := char, triple := true }, size + 3)
      else some ({ quote with mark := char }, size + 1)
    else none

end Quote

/-- The blanks, line ends and comments between two tokens. -/
structure Gap where
  /-- Number of characters. -/
  size : Nat := 0
  /-- Whether the gap reaches another line or the end of the text. -/
  endsLine : Bool := false
  /-- The indentation of the last line of the gap. -/
  indent : Nat := 0
  /-- The indentation of the first line that holds only a comment. -/
  comment : Option Nat := none
  /-- The text after the gap. -/
  rest : List Char := []
deriving Inhabited

namespace Gap

/-- Reads the gap before the next token. `comments` says whether comments are part of a gap. There
is no gap to speak of, and the result is `none`, before a comment on the line of the token before it
and at a backslash that does not end a line. `inComment` says that the text goes on inside a
comment.
-/
def scan (comments : Bool) (gap : Gap) (inComment : Bool) : List Char → Option Gap
  | [] => some { gap with endsLine := true, indent := 0, rest := [] }
  | char :: rest =>
    if inComment then
      scan comments { gap with size := gap.size + 1, indent := 0 }
        (char ≠ '\n' ∧ char ≠ '\x00') rest
    else
      match char, rest with
      | '\n', rest =>
        scan comments { gap with size := gap.size + 1, endsLine := true, indent := 0 } false rest
      | ' ', rest =>
        scan comments { gap with size := gap.size + 1, indent := gap.indent + 1 } false rest
      | '\r', rest => scan comments { gap with size := gap.size + 1, indent := 0 } false rest
      | '\x0c', rest => scan comments { gap with size := gap.size + 1, indent := 0 } false rest
      | '\t', rest =>
        scan comments { gap with size := gap.size + 1, indent := gap.indent + 8 } false rest
      | '\\', '\r' :: '\n' :: rest => scan comments { gap with size := gap.size + 3 } false rest
      | '\\', '\n' :: rest => scan comments { gap with size := gap.size + 2 } false rest
      | '\\', ['\r'] =>
        some { gap with size := gap.size + 2, endsLine := true, indent := 0, rest := [] }
      | '\\', [] =>
        some { gap with size := gap.size + 1, endsLine := true, indent := 0, rest := [] }
      | '\\', _ => none
      | '#', rest =>
        if comments then
          if gap.endsLine then
            scan comments
              { gap with
                size := gap.size + 1, comment := gap.comment.or (some gap.indent) } true rest
          else none
        else some { gap with rest := '#' :: rest }
      | char, rest => some { gap with rest := char :: rest }

end Gap

namespace Layout

/-- The indentation of the innermost open block. -/
def indent (layout : Layout) : Nat := layout.indents.headD 0

/-- Looks for a token inside the innermost open string. -/
def scanString (layout : Layout) (wanted : Wanted) (rest : List Char) : Option LayoutScan :=
  match layout.quotes with
  | [] => none
  | quote :: outer =>
    if wanted.stringContent then
      match quote.scanText 0 false 0 rest with
      | some (.stringEnd, size) =>
        some { token := .stringEnd, size, layout :=
          { layout with quotes := outer, inFormat := false } }
      | some (token, size) => some { token, size, layout }
      | none => none
    else none

/-- Looks for a doubled brace in a string with expressions; `none` if there is no brace. -/
def scanBrace (layout : Layout) (wanted : Wanted) (rest : List Char) : Option (Option LayoutScan) :=
  match layout.quotes, rest with
  | quote :: _, char :: rest =>
    if wanted.braceEscape ∧ quote.format ∧ (char = '\x7b' ∨ char = '\x7d') then
      if rest.head? = some char then some (some { token := .braceEscape, size := 2, layout })
      else some none
    else none
  | _, _ => none

/-- Looks for the start of a string after a gap. -/
def scanQuote (layout : Layout) (gap : Gap) : Option LayoutScan :=
  (Quote.scanStart { mark := '\x00' } 0 gap.rest).map fun (quote, size) =>
    { token := .stringStart, skipped := gap.size, size
      layout := { layout with quotes := quote :: layout.quotes, inFormat := quote.format } }

/-- Looks for the end of a line or the start or end of a block in a gap, or a string after it. -/
def scanGap (layout : Layout) (wanted : Wanted) (gap : Gap) : Option LayoutScan :=
  let quoteNext := match gap.rest.head? with
    | some char => char = '\x22' || char = '\x27' || char = '\x60'
    | none => false
  let mayClose := wanted.dedent ||
    (!wanted.newline && !(wanted.stringStart && quoteNext) && !wanted.closing)
  let commentInside := match gap.comment with
    | some indent => decide (layout.indent ≤ indent)
    | none => false
  if gap.endsLine && wanted.indent && layout.indent < gap.indent then
    -- Indentations are remembered modulo 256.
    some { token := .indent, layout :=
      { layout with indents := gap.indent % 256 :: layout.indents } }
  else if gap.endsLine && mayClose && gap.indent < layout.indent && !layout.inFormat &&
      !commentInside then
    some { token := .dedent, layout := { layout with indents := layout.indents.tail } }
  else if gap.endsLine && wanted.newline then
    some { token := .newline, layout }
  else if gap.comment.isNone && wanted.stringStart then
    layout.scanQuote gap
  else none

/-- Looks for a token that depends on the open blocks and strings. -/
def scan (layout : Layout) (wanted : Wanted) (rest : List Char) : Option LayoutScan :=
  match layout.scanBrace wanted rest with
  | some found => found
  | none =>
    match layout.scanString wanted rest with
    | some found => some found
    | none =>
      if wanted.stringContent ∧ ¬ layout.quotes.isEmpty then none
      else
        let comments := wanted.indent || wanted.dedent || wanted.newline || wanted.handler
        (Gap.scan comments {} false rest).bind (layout.scanGap wanted)

end Layout

end NotebookSlice.Syntax

import NotebookSlice.Text.CodePoint
import NotebookSlice.Yaml.Cursor

/-!
# Scalars of YAML texts

A scalar is plain, or it stands in quotation marks, or it is a block of lines below a header.
Scalars may run over several lines. A line end inside a plain or quoted scalar becomes a space, and
each further line end after it stays; a block keeps its line ends, or folds them in the same way
between lines that do not start with a blank.
-/

namespace NotebookSlice.Yaml

open Text (Cursor Position)

/-- A stretch of blanks and line ends inside a scalar. -/
structure Gap where
  /-- The blanks before the first line end, in reverse. -/
  blanks : List Char := []
  /-- Whether the stretch has a line end. -/
  isBroken : Bool := false
  /-- The first line end, unless it was escaped. -/
  first : Option Char := none
  /-- The further line ends, in reverse. -/
  others : List Char := []
deriving Inhabited

namespace Gap

/-- What the stretch stands for. -/
def text (gap : Gap) : List Char :=
  if !gap.isBroken then gap.blanks.reverse
  else
    match gap.first with
    | some '\n' => if gap.others.isEmpty then [' '] else gap.others.reverse
    | some char => char :: gap.others.reverse
    | none => gap.others.reverse

/-- Reads a stretch to its end. On lines after the first, no tab may stand before the given
column. -/
def read (limit : Int) (gap : Gap) (position : Position) : List Char → Option (Gap × Cursor)
  | [] => some (gap, ⟨position, []⟩)
  | char :: rest =>
    if isBlank char then
      if gap.isBroken && char == '\t' && position.column < limit then none
      else
        let gap := if gap.isBroken then gap else { gap with blanks := char :: gap.blanks }
        gap.read limit (after position char) rest
    else if isBreak char then
      let gap :=
        if gap.isBroken then { gap with others := char :: gap.others }
        else { gap with isBroken := true, first := some char }
      gap.read limit (after position char) rest
    else some (gap, ⟨position, char :: rest⟩)

end Gap

/-- The characters that have a meaning inside brackets. -/
def isFlowMark (char : Char) : Bool :=
  char == ',' || char == '[' || char == ']' || char == '\x7b' || char == '\x7d'

/-- The length of the word of a plain scalar at the start of a text; none if a colon stands before a
bracket where there are brackets around. -/
def wordLength? (inFlow : Bool) : List Char → Option Nat
  | [] => some 0
  | char :: rest =>
    if blankFollows (char :: rest) then some 0
    else if char == ':' && inFlow && rest.head?.any
      (fun other => isFlowMark other || other == '?') then none
    else if char == ':' && blankFollows rest then some 0
    else if inFlow && isFlowMark char then some 0
    else (wordLength? inFlow rest).map (· + 1)

/-- A scalar that was read: its text, the place after it, and whether the place is on a new line. -/
structure Scanned where
  text : List Char
  cursor : Cursor
  onNewLine : Bool := false
deriving Inhabited

/-- Reads a plain scalar, of which `text` was read before, in reverse, and `gap` stands directly
before the place. Lines after the first have to reach the given column, except between brackets. -/
def scanPlain (inFlow : Bool) (limit : Int) : Nat → List Char → Gap → Cursor → Option Scanned
  | 0, _, _, _ => none
  | fuel + 1, text, gap, cursor =>
    let stop := some ⟨text.reverse, cursor, gap.isBroken⟩
    if documentMarkerFollows cursor || cursor.rest.head? == some '#' then stop
    else do
      let size ← wordLength? inFlow cursor.rest
      if size = 0 then stop
      else
        let text := (cursor.rest.take size).reverse ++ gap.text.reverse ++ text
        let here := skip size cursor
        let (gap, there) ← Gap.read limit {} here.position here.rest
        let done := some ⟨text.reverse, there, gap.isBroken⟩
        if !blankFollows here.rest || there.atEnd then done
        else if !inFlow && there.position.column < limit then done
        else scanPlain inFlow limit fuel text gap there

/-- The character that a backslash and the given character stand for. -/
def escaped? (char : Char) : Option Char :=
  match char with
  | '0' => some '\x00'
  | 'a' => some '\x07'
  | 'b' => some '\x08'
  | 't' | '\t' => some '\t'
  | 'n' => some '\n'
  | 'v' => some '\x0b'
  | 'f' => some '\x0c'
  | 'r' => some '\r'
  | 'e' => some '\x1b'
  | ' ' => some ' '
  | '\x22' => some '\x22'
  | '\x27' => some '\x27'
  | '/' => some '/'
  | '\\' => some '\\'
  | 'N' => some '\u0085'
  | '_' => some '\u00a0'
  | 'L' => some '\u2028'
  | 'P' => some '\u2029'
  | _ => none

/-- The number of hexadecimal digits after a backslash and the given character. -/
def hexLength? (char : Char) : Option Nat :=
  match char with
  | 'x' => some 2
  | 'u' => some 4
  | 'U' => some 8
  | _ => none

/-- The character with the given hexadecimal code. -/
def hexChar? (digits : List Char) : Option Char :=
  if digits.all fun digit => (Text.hexDigitValue digit).isSome then
    let code := Text.hexValue digits
    if code.isValidChar then some (Char.ofNat code) else none
  else none

/-- Where a run of characters in quotation marks ends. -/
inductive RunEnd where
  | closed
  | gap
  /-- Before an escaped line end. -/
  | escapedBreak
deriving DecidableEq, Repr, Inhabited

/-- Reads characters in quotation marks up to a blank, a line end or the closing mark; `text` was
read before, in reverse. -/
def scanRun (mark : Char) : Nat → List Char → Cursor → Option (List Char × RunEnd × Cursor)
  | 0, _, _ => none
  | fuel + 1, text, cursor =>
    match cursor.rest with
    | [] => some (text, .gap, cursor)
    | char :: rest =>
      if blankFollows (char :: rest) then some (text, .gap, cursor)
      else if char == mark then
        if mark == '\x27' && rest.head? == some mark then
          scanRun mark fuel (mark :: text) (skip 2 cursor)
        else some (text, .closed, cursor)
      else if char == '\\' && mark == '\x22' then
        match rest with
        | [] => none
        | meaning :: digits =>
          if isBreak meaning then some (text, .escapedBreak, next cursor)
          else
            match hexLength? meaning with
            | some size =>
              if digits.length < size then none
              else (hexChar? (digits.take size)).bind fun char =>
                scanRun mark fuel (char :: text) (skip (size + 2) cursor)
            | none => (escaped? meaning).bind fun char =>
              scanRun mark fuel (char :: text) (skip 2 cursor)
      else scanRun mark fuel (char :: text) (next cursor)

/-- Reads a scalar in quotation marks after the opening mark. -/
def scanQuoted (mark : Char) : Nat → List Char → Cursor → Option Scanned
  | 0, _, _ => none
  | fuel + 1, text, cursor =>
    if documentMarkerFollows cursor || cursor.atEnd then none
    else do
      let (text, ending, here) ← scanRun mark (cursor.rest.length + 1) text cursor
      match ending with
      | .closed => return ⟨text.reverse, next here, false⟩
      | .gap =>
        let (gap, there) ← Gap.read 0 {} here.position here.rest
        scanQuoted mark fuel (gap.text.reverse ++ text) there
      | .escapedBreak =>
        let here := next here
        let (gap, there) ← Gap.read 0 { isBroken := true } here.position here.rest
        scanQuoted mark fuel (gap.text.reverse ++ text) there

/-- What happens to the line ends at the end of a block. -/
inductive Chomping where
  /-- All are dropped. -/
  | strip
  /-- One stays. -/
  | clip
  /-- All stay. -/
  | keep
deriving DecidableEq, Repr, Inhabited

/-- The header of a block scalar: what happens at its end, and its indentation if it is given. -/
structure Header where
  chomping : Chomping := .clip
  increment : Option Nat := none
deriving DecidableEq, Repr, Inhabited

/-- The chomping that a character asks for. -/
def chomping? (char : Char) : Option Chomping :=
  if char == '+' then some .keep else if char == '-' then some .strip else none

/-- The indentation that a character asks for; zero is refused. -/
def increment? (char : Char) : Option Nat :=
  if char.isDigit then some (char.toNat - '0'.toNat) else none

/-- Reads the signs of a header. -/
def readHeader? (cursor : Cursor) : Option (Header × Cursor) :=
  let found : Header × Cursor := match cursor.rest with
    | first :: rest =>
      match chomping? first, increment? first with
      | some chomping, _ =>
        match rest.head?.bind increment? with
        | some increment => (⟨chomping, some increment⟩, skip 2 cursor)
        | none => (⟨chomping, none⟩, next cursor)
      | none, some increment =>
        match rest.head?.bind chomping? with
        | some chomping => (⟨chomping, some increment⟩, skip 2 cursor)
        | none => (⟨.clip, some increment⟩, next cursor)
      | none, none => ({}, cursor)
    | [] => ({}, cursor)
  if found.1.increment = some 0 then none else some found

/-- Skips blanks and a comment, after which the line has to end. -/
def skipLineEnd? (cursor : Cursor) : Option Cursor :=
  let cursor := skipWhile isBlank cursor
  let cursor :=
    if cursor.rest.head? == some '#' then skipWhile (fun char => !isBreak char) cursor else cursor
  if breakFollows cursor.rest then some (next cursor) else none

/-- Lines without contents inside a block: their ends, in reverse, the largest column seen, and the
place after the indentation of the next line. An indentation of zero is not known yet. -/
def scanBreaks (indent : Nat) : Nat → List Char → Nat → Cursor → Option (List Char × Nat × Cursor)
  | 0, _, _, _ => none
  | fuel + 1, breaks, widest, cursor =>
    let spaces := (cursor.rest.takeWhile (· == ' ')).length
    let cursor :=
      skip (if indent = 0 then spaces else min spaces (indent - cursor.position.column)) cursor
    let widest := max widest cursor.position.column
    match cursor.rest with
    | [] => some (breaks, widest, cursor)
    | char :: _ =>
      if char == '\t' && (indent = 0 || cursor.position.column < indent) then none
      else if isBreak char then scanBreaks indent fuel (char :: breaks) widest (next cursor)
      else some (breaks, widest, cursor)

/-- The state between two lines of a block. -/
structure Block where
  /-- What was read, in reverse. -/
  text : List Char := []
  /-- The end of the last line. -/
  lastBreak : Option Char := none
  /-- The ends of empty lines after it, in reverse. -/
  breaks : List Char := []
  /-- Whether the last line starts with a blank. -/
  startsBlank : Bool := false
deriving Inhabited

namespace Block

/-- What stands between the last line and the next one, which may start with a blank; in reverse. -/
def between (block : Block) (folded nextBlank : Bool) : List Char :=
  if folded && block.lastBreak == some '\n' && !block.startsBlank && !nextBlank then
    if block.breaks.isEmpty then [' '] else block.breaks
  else block.breaks ++ block.lastBreak.toList

/-- Reads the lines of a block with the given indentation. -/
def read (folded : Bool) (indent : Nat) : Nat → Block → Cursor → Option (Block × Cursor)
  | 0, _, _ => none
  | fuel + 1, block, cursor =>
    if cursor.position.column != indent || cursor.atEnd then some (block, cursor)
    else do
      let nextBlank := cursor.rest.head?.any isBlank
      let line := cursor.rest.takeWhile fun char => !isBreak char
      let here := skip line.length cursor
      let text := line.reverse ++ block.between folded nextBlank ++ block.text
      let (breaks, _, there) ← scanBreaks indent (here.rest.length + 1) [] 0 (next here)
      read folded indent fuel ⟨text, here.rest.head?, breaks, nextBlank⟩ there

/-- The text of a block. -/
def finish (block : Block) (chomping : Chomping) : List Char :=
  (match chomping with
    | .strip => block.text
    | .clip => block.lastBreak.toList ++ block.text
    | .keep => block.breaks ++ block.lastBreak.toList ++ block.text).reverse

end Block

/-- Reads a block scalar after the mark of its header, in a node with the given indentation. -/
def scanBlock (folded : Bool) (parent : Int) (cursor : Cursor) : Option Scanned := do
  let (header, cursor) ← readHeader? cursor
  let cursor ← skipLineEnd? cursor
  let fuel := cursor.rest.length + 1
  let known := match header.increment with
    | some increment => (max parent 0).toNat + increment
    | none => 0
  let (breaks, widest, cursor) ← scanBreaks known fuel [] 0 cursor
  let indent := if known = 0 then max widest (max (parent + 1).toNat 1) else known
  let (block, cursor) ← Block.read folded indent fuel { breaks } cursor
  return ⟨block.finish header.chomping, cursor, true⟩

end NotebookSlice.Yaml

import NotebookSlice.Yaml.Scalar

/-!
# Tokens of YAML texts

The scanner finds the tokens of a text one after another. Indentation opens and closes blocks: a
block opens with the first entry or key that is indented more than the block around it, and it
closes before the first token that is indented less. A scalar or a collection in brackets may turn
out to be a key when a colon follows it on the same line; until then the scanner remembers where it
started, and puts the token of the key in front of it.
-/

namespace NotebookSlice.Yaml

open Text (Cursor Position)

/-- A part of a text. -/
inductive Token where
  | documentStart
  | documentEnd
  | versionDirective (major minor : Nat)
  | tagDirective (handle start : List Char)
  | sequenceStart
  | mappingStart
  | blockEnd
  | flowSequenceStart
  | flowSequenceEnd
  | flowMappingStart
  | flowMappingEnd
  /-- The dash before an item of a block. -/
  | blockEntry
  /-- The comma between items in brackets. -/
  | flowEntry
  | key
  | value
  /-- A reference to the node with an anchor. -/
  | reference (name : List Char)
  | anchor (name : List Char)
  | tag (handle suffix : List Char)
  /-- A scalar; `plain` says that it stands without marks. -/
  | scalar (text : List Char) (plain : Bool)
deriving DecidableEq, Repr, Inhabited

/-- A place where a key may have started. -/
structure KeyStart where
  /-- The number of tokens before it. -/
  number : Nat
  position : Position
  /-- Whether nothing but a key can stand there. -/
  required : Bool
deriving DecidableEq, Repr, Inhabited

/-- What the scanner knows. -/
structure Scanner where
  cursor : Cursor
  tokens : Array Token := #[]
  /-- The number of brackets around the place. -/
  flow : Nat := 0
  /-- The columns of the open blocks, innermost first. -/
  indents : List Nat := []
  /-- Whether a key may start here. -/
  keyAllowed : Bool := true
  /-- The possible start of a key for each level of brackets, innermost first, then outside of
  brackets. -/
  keyStarts : List (Option KeyStart) := [none]
deriving Inhabited

namespace Scanner

/-- The column of the innermost block. -/
def indent (scanner : Scanner) : Int :=
  match scanner.indents with
  | [] => -1
  | column :: _ => column

/-- Adds a token. -/
def push (scanner : Scanner) (token : Token) : Scanner :=
  { scanner with tokens := scanner.tokens.push token }

/-- Adds a token behind the given number of tokens. -/
def insert (scanner : Scanner) (number : Nat) (token : Token) : Scanner :=
  { scanner with
    tokens := scanner.tokens.extract 0 number ++ #[token] ++
      scanner.tokens.extract number scanner.tokens.size }

/-- Moves to a place. -/
def moveTo (scanner : Scanner) (cursor : Cursor) : Scanner := { scanner with cursor }

/-- Closes the blocks that are indented more than a column. -/
def closeBlocks (scanner : Scanner) (column : Int) : Scanner :=
  if scanner.flow > 0 then scanner
  else
    let closed := scanner.indents.takeWhile fun (indent : Nat) => column < indent
    { scanner with
      indents := scanner.indents.drop closed.length
      tokens := scanner.tokens ++ List.replicate closed.length Token.blockEnd }

/-- Opens a block at a column, unless one is open there; the token goes behind the given number of
tokens. -/
def openBlock (scanner : Scanner) (column number : Nat) (token : Token) : Scanner :=
  if scanner.flow > 0 || scanner.indent ≥ column then scanner
  else { scanner.insert number token with indents := column :: scanner.indents }

/-- Gives up a possible key; fails if only a key can stand there. -/
def dropKey? (scanner : Scanner) : Option Scanner :=
  match scanner.keyStarts with
  | some start :: outer =>
    if start.required then none else some { scanner with keyStarts := none :: outer }
  | _ => some scanner

/-- Remembers that a key may start here. -/
def noteKey? (scanner : Scanner) : Option Scanner :=
  if scanner.keyAllowed then do
    let position := scanner.cursor.position
    let required := scanner.flow == 0 && scanner.indent == position.column
    let scanner ← scanner.dropKey?
    return { scanner with
      keyStarts := some ⟨scanner.tokens.size, position, required⟩ :: scanner.keyStarts.drop 1 }
  else some scanner

/-- Gives up the possible keys that did not end on their line or that are too long. -/
def dropStaleKeys? (scanner : Scanner) : Option Scanner :=
  let position := scanner.cursor.position
  let isStale (start : KeyStart) : Bool :=
    start.position.row < position.row || start.position.offset + 1024 < position.offset
  if scanner.keyStarts.any fun start => start.any fun start =>
    isStale start && start.required then none
  else
    some { scanner with
      keyStarts := scanner.keyStarts.map fun start => start.filter fun start => !isStale start }

/-- Skips blanks, comments and line ends before a token. Tabs count as blanks only where no key may
start. -/
def skipBlanks : Nat → Scanner → Scanner
  | 0, scanner => scanner
  | fuel + 1, scanner =>
    let tabs := scanner.flow > 0 || !scanner.keyAllowed
    let cursor := skipWhile (fun char => char == ' ' || (tabs && char == '\t')) scanner.cursor
    let cursor :=
      if cursor.rest.head? == some '#' then skipWhile (fun char => !isBreak char) cursor else cursor
    if cursor.rest.head?.any isBreak then
      skipBlanks fuel
        { scanner with
          cursor := next cursor, keyAllowed := scanner.keyAllowed || scanner.flow == 0 }
    else scanner.moveTo cursor

/-- The start of a collection in brackets. -/
def openFlow? (scanner : Scanner) (token : Token) : Option Scanner := do
  let scanner ← scanner.noteKey?
  return { scanner.push token with
    cursor := next scanner.cursor
    flow := scanner.flow + 1
    keyAllowed := true
    keyStarts := none :: scanner.keyStarts }

/-- The end of a collection in brackets. -/
def closeFlow? (scanner : Scanner) (token : Token) : Option Scanner := do
  let scanner ← scanner.dropKey?
  return { scanner.push token with
    cursor := next scanner.cursor
    flow := scanner.flow - 1
    keyAllowed := false
    keyStarts := if scanner.flow > 0 then scanner.keyStarts.drop 1 else scanner.keyStarts }

/-- A comma. -/
def flowEntry? (scanner : Scanner) : Option Scanner := do
  let scanner ← scanner.dropKey?
  return { scanner.push .flowEntry with cursor := next scanner.cursor, keyAllowed := true }

/-- A dash before an item. -/
def blockEntry? (scanner : Scanner) : Option Scanner := do
  if scanner.flow == 0 && !scanner.keyAllowed then none
  let scanner := scanner.openBlock scanner.cursor.position.column scanner.tokens.size .sequenceStart
  let scanner ← scanner.dropKey?
  return { scanner.push .blockEntry with cursor := next scanner.cursor, keyAllowed := true }

/-- A question mark before a key. -/
def explicitKey? (scanner : Scanner) : Option Scanner := do
  if scanner.flow == 0 && !scanner.keyAllowed then none
  let scanner := scanner.openBlock scanner.cursor.position.column scanner.tokens.size .mappingStart
  let scanner ← scanner.dropKey?
  return { scanner.push .key with cursor := next scanner.cursor, keyAllowed := scanner.flow == 0 }

/-- A colon: what started where a key may start is a key. -/
def value? (scanner : Scanner) : Option Scanner :=
  match scanner.keyStarts with
  | some start :: outer =>
    let scanner := { scanner.insert start.number .key with keyStarts := none :: outer }
    let scanner := scanner.openBlock start.position.column start.number .mappingStart
    some { scanner.push .value with cursor := next scanner.cursor, keyAllowed := false }
  | _ =>
    if scanner.flow == 0 && !scanner.keyAllowed then none
    else
      let scanner :=
        scanner.openBlock scanner.cursor.position.column scanner.tokens.size .mappingStart
      some { scanner.push .value with
        cursor := next scanner.cursor, keyAllowed := scanner.flow == 0 }

/-- Whether a character may be part of a name. -/
def isNameChar (char : Char) : Bool := char.isAlphanum || char == '_' || char == '-'

/-- An anchor or a reference. -/
def name? (scanner : Scanner) (token : List Char → Token) : Option Scanner := do
  let scanner ← scanner.noteKey?
  let start := next scanner.cursor
  let name := start.rest.takeWhile isNameChar
  let cursor := skip name.length start
  let isEnded := blankFollows cursor.rest ||
    cursor.rest.head?.any fun char => char ∈ ['?', ':', ',', ']', '\x7d', '%', '@', '\x60']
  if name.isEmpty || !isEnded then none
  return { scanner.push (token name) with cursor, keyAllowed := false }

/-- Whether a character may be part of a tag. -/
def isTagChar (char : Char) : Bool :=
  isNameChar char ||
    char ∈ [';', '/', '?', ':', '@', '&', '=', '+', '$', '.', '%', '!', '~', '*', '\x27', '(', ')']

/-- Whether a character may be part of a tag that is written in full. -/
def isFullTagChar (char : Char) : Bool := isTagChar char || char ∈ [',', '[', ']']

/-- A tag. -/
def tag? (scanner : Scanner) : Option Scanner := do
  let scanner ← scanner.noteKey?
  let start := scanner.cursor
  let (handle, suffix, cursor) ←
    if (start.rest.drop 1).head? == some '<' then
      let inside := skip 2 start
      let suffix := inside.rest.takeWhile isFullTagChar
      let cursor := skip suffix.length inside
      if suffix.isEmpty || cursor.rest.head? != some '>' then
        none else some ([], suffix, next cursor)
    else
      let body := (next start).rest.takeWhile isTagChar
      let cursor := skip (body.length + 1) start
      let word := body.takeWhile isNameChar
      if (body.drop word.length).head? == some '!' then
        let suffix := body.drop (word.length + 1)
        if suffix.isEmpty then none else some ('!' :: word ++ ['!'], suffix, cursor)
      else some (['!'], body, cursor)
  let isEnded := blankFollows cursor.rest || (scanner.flow > 0 && cursor.rest.head? == some ',')
  if !isEnded then none
  return { scanner.push (.tag handle suffix) with cursor, keyAllowed := false }

/-- A scalar in quotation marks. -/
def quoted? (scanner : Scanner) (mark : Char) : Option Scanner := do
  let scanner ← scanner.noteKey?
  let start := next scanner.cursor
  let scanned ← scanQuoted mark (start.rest.length + 1) [] start
  return { scanner.push (.scalar scanned.text false) with
    cursor := scanned.cursor, keyAllowed := false }

/-- A plain scalar. -/
def plain? (scanner : Scanner) : Option Scanner := do
  let scanner ← scanner.noteKey?
  let scanned ← scanPlain (scanner.flow > 0) (scanner.indent + 1)
      (scanner.cursor.rest.length + 1) [] {}
    scanner.cursor
  return { scanner.push (.scalar scanned.text true) with
    cursor := scanned.cursor
    keyAllowed := scanned.onNewLine }

/-- A block scalar. -/
def block? (scanner : Scanner) (folded : Bool) : Option Scanner := do
  let scanner ← scanner.dropKey?
  let scanned ← scanBlock folded scanner.indent (next scanner.cursor)
  return { scanner.push (.scalar scanned.text false) with
    cursor := scanned.cursor, keyAllowed := true }

/-- The start or the end of a document. -/
def documentMarker? (scanner : Scanner) (token : Token) : Option Scanner := do
  let scanner ← (scanner.closeBlocks (-1)).dropKey?
  return { scanner.push token with cursor := skip 3 scanner.cursor, keyAllowed := false }

/-- A number of at most nine digits at the start of a text. -/
def version? (cursor : Cursor) : Option (Nat × Cursor) :=
  let digits := cursor.rest.takeWhile Char.isDigit
  if digits.isEmpty || digits.length > 9 then none
  else some (digits.foldl (fun value digit => 10 * value + (digit.toNat - '0'.toNat)) 0,
    skip digits.length cursor)

/-- The handle of a tag directive. -/
def handle? (cursor : Cursor) : Option (List Char × Cursor) :=
  match cursor.rest with
  | '!' :: rest =>
    let word := rest.takeWhile isNameChar
    match rest.drop word.length with
    | '!' :: _ => some ('!' :: word ++ ['!'], skip (word.length + 2) cursor)
    | _ => if word.isEmpty then some (['!'], next cursor) else none
  | _ => none

/-- A directive. -/
def directive? (scanner : Scanner) : Option Scanner := do
  let scanner ← (scanner.closeBlocks (-1)).dropKey?
  let start := next scanner.cursor
  let name := start.rest.takeWhile isNameChar
  let here := skip name.length start
  if name.isEmpty || !blankFollows here.rest then none
  let here := skipWhile isBlank here
  let (token, cursor) ←
    if name == ['Y', 'A', 'M', 'L'] then do
      let (major, cursor) ← version? here
      if cursor.rest.head? != some '.' then none
      let (minor, cursor) ← version? (next cursor)
      pure (Token.versionDirective major minor, cursor)
    else if name == ['T', 'A', 'G'] then do
      let (handle, cursor) ← handle? here
      if !cursor.rest.head?.any isBlank then none
      let cursor := skipWhile isBlank cursor
      let beginning := cursor.rest.takeWhile isFullTagChar
      let cursor := skip beginning.length cursor
      if beginning.isEmpty || !blankFollows cursor.rest then none
      pure (Token.tagDirective handle beginning, cursor)
    else none
  let cursor ← skipLineEnd? cursor
  return { scanner.push token with cursor, keyAllowed := false }

/-- Whether a plain scalar can start with the character, after which the given text follows. -/
def startsPlain (scanner : Scanner) (char : Char) (rest : List Char) : Bool :=
  if char == '-' then !rest.head?.any isBlank
  else if char == '?' || char == ':' then scanner.flow == 0 && !blankFollows rest
  else !(isBlank char || isBreak char || isFlowMark char ||
    char ∈ ['#', '&', '*', '!', '|', '>', '\x27', '\x22', '%', '@', '\x60'])

/-- Finds the next token, when no blanks stand before it and blocks have been closed. -/
def token? (scanner : Scanner) (char : Char) (rest : List Char) : Option Scanner :=
  let cursor := scanner.cursor
  if cursor.position.column == 0 && char == '%' then scanner.directive?
  else if markerFollows '-' cursor then scanner.documentMarker? .documentStart
  else if markerFollows '.' cursor then scanner.documentMarker? .documentEnd
  else if char == '[' then scanner.openFlow? .flowSequenceStart
  else if char == '\x7b' then scanner.openFlow? .flowMappingStart
  else if char == ']' then scanner.closeFlow? .flowSequenceEnd
  else if char == '\x7d' then scanner.closeFlow? .flowMappingEnd
  else if char == ',' then scanner.flowEntry?
  else if char == '-' && blankFollows rest then scanner.blockEntry?
  else if char == '?' && (scanner.flow > 0 || blankFollows rest) then scanner.explicitKey?
  else if char == ':' && (scanner.flow > 0 || blankFollows rest) then scanner.value?
  else if char == '*' then scanner.name? .reference
  else if char == '&' then scanner.name? .anchor
  else if char == '!' then scanner.tag?
  else if char == '|' && scanner.flow == 0 then scanner.block? false
  else if char == '>' && scanner.flow == 0 then scanner.block? true
  else if char == '\x27' || char == '\x22' then scanner.quoted? char
  else if scanner.startsPlain char rest then scanner.plain?
  else none

/-- Finds all tokens. -/
def run : Nat → Scanner → Option (List Token)
  | 0, _ => none
  | fuel + 1, scanner => do
    let scanner := skipBlanks (scanner.cursor.rest.length + 1) scanner
    let scanner ← scanner.dropStaleKeys?
    let scanner := scanner.closeBlocks scanner.cursor.position.column
    match scanner.cursor.rest with
    | [] =>
      let scanner ← (scanner.closeBlocks (-1)).dropKey?
      return scanner.tokens.toList
    | char :: rest => run fuel (← scanner.token? char rest)

end Scanner

/-- The tokens of a text; none if it cannot be scanned. -/
def tokens? (text : String) : Option (List Token) := do
  let cursor ← startOf? text
  Scanner.run (cursor.rest.length + 2) { cursor }

end NotebookSlice.Yaml

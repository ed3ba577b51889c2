import NotebookSlice.Grammar.Parse
import NotebookSlice.Syntax.Layout
import NotebookSlice.Syntax.Rules
import NotebookSlice.Syntax.Token

/-!
# Tokens that fit a place

The lexer of the grammar: among the tokens that the parser expects it finds the longest one at the
next place. Tokens of the layout come first. Separators before a token are skipped, except inside a
string, where the next token must follow at once. A word is a keyword only if that keyword is
expected, and an identifier otherwise.
-/

namespace NotebookSlice.Syntax

open Grammar Text

/-- The numbered grammar. -/
def table : Table := grammar.table

/-- The number of a token; zero, the end of the text, if there is no such token. -/
def numberOf (symbol : SymbolName) : Nat := (table.tokens.findIdx? (· == symbol)).getD 0

/-- The numbers of the tokens that are no plain signs. -/
structure Vocabulary where
  identifier : Nat
  integer : Nat
  float : Nat
  comment : Nat
  continuation : Nat
  escape : Nat
  backslash : Nat
  conversion : Nat
  formatText : Nat
  newline : Nat
  indent : Nat
  dedent : Nat
  stringStart : Nat
  stringContent : Nat
  braceEscape : Nat
  stringEnd : Nat
  /-- The keyword of an exception handler. -/
  handler : Nat
  closing : TokenSet
  /-- Keywords by spelling. -/
  keywords : Std.HashMap String Nat
  /-- The set of all keywords. -/
  keywordSet : TokenSet
  /-- Signs by spelling. -/
  signs : List (List Char × Nat)

/-- Whether a literal of the grammar is a word. -/
def isWord (text : String) : Bool := wordSize text.toList == text.length

/-- The numbers of the tokens of the grammar. -/
def vocabulary : Vocabulary :=
  let literals := table.tokens.toList.filterMap fun
    | .literal text => some (text, numberOf (.literal text))
    | _ => none
  let words := literals.filter fun (text, _) => isWord text
  { identifier := numberOf (.token "identifier")
    integer := numberOf (.token "integer")
    float := numberOf (.token "float")
    comment := numberOf (.token "comment")
    continuation := numberOf (.token "lineContinuation")
    escape := numberOf (.token "escapeSequence")
    backslash := numberOf (.token "_backslash")
    conversion := numberOf (.token "typeConversion")
    formatText := numberOf (.token "_formatText")
    newline := numberOf (.token "_newline")
    indent := numberOf (.token "_indent")
    dedent := numberOf (.token "_dedent")
    stringStart := numberOf (.token "stringStart")
    stringContent := numberOf (.token "_stringContent")
    braceEscape := numberOf (.token "escapeInterpolation")
    stringEnd := numberOf (.token "stringEnd")
    handler := numberOf (.literal "except")
    closing := [")", "]", "\x7d"].foldl (fun set text =>
      set ||| TokenSet.single (numberOf (.literal text))) 0
    keywords := Std.HashMap.ofList words
    keywordSet := words.foldl (fun set (_, number) => set ||| TokenSet.single number) 0
    signs := (literals.filter fun (text, _) => !isWord text).map fun (text, number) =>
      (text.toList, number) }

namespace Vocabulary

/-- The number of a token of the layout. -/
def layoutToken (vocabulary : Vocabulary) : LayoutToken → Nat
  | .newline => vocabulary.newline
  | .indent => vocabulary.indent
  | .dedent => vocabulary.dedent
  | .stringStart => vocabulary.stringStart
  | .stringContent => vocabulary.stringContent
  | .braceEscape => vocabulary.braceEscape
  | .stringEnd => vocabulary.stringEnd

/-- The tokens of the layout among the expected ones. -/
def wanted (vocabulary : Vocabulary) (expected : TokenSet) : Wanted where
  newline := expected.has vocabulary.newline
  indent := expected.has vocabulary.indent
  dedent := expected.has vocabulary.dedent
  stringStart := expected.has vocabulary.stringStart
  stringContent := expected.has vocabulary.stringContent
  braceEscape := expected.has vocabulary.braceEscape
  closing := expected &&& vocabulary.closing != 0
  handler := expected.has vocabulary.handler

/-- The candidates at a place: expected tokens with their sizes, in order of preference. -/
def candidates (vocabulary : Vocabulary) (expected : TokenSet) (atOnce : Bool) (rest : List Char) :
    List (Nat × Nat) :=
  let signs := vocabulary.signs.filterMap fun (sign, number) =>
    if expected.has number && sign.isPrefixOf rest then some (number, sign.length) else none
  let wordExpected := expected.has vocabulary.identifier || expected &&& vocabulary.keywordSet != 0
  let classes : List (Bool × Nat × (List Char → Nat)) := [
    (atOnce && expected.has vocabulary.escape, vocabulary.escape, escapeSize),
    (atOnce && expected.has vocabulary.backslash, vocabulary.backslash, backslashSize),
    (wordExpected, vocabulary.identifier, wordSize),
    (expected.has vocabulary.float, vocabulary.float, floatSize),
    (expected.has vocabulary.integer, vocabulary.integer, integerSize),
    (expected.has vocabulary.comment, vocabulary.comment, commentSize),
    (expected.has vocabulary.continuation, vocabulary.continuation, continuationSize),
    (expected.has vocabulary.conversion, vocabulary.conversion, conversionSize)]
  signs ++ classes.filterMap fun (use, number, size) =>
    if use then
      match size rest with
      | 0 => none
      | size => some (number, size)
    else none

/-- The longest of some candidates, the first of several. -/
def longest (candidates : List (Nat × Nat)) : Option (Nat × Nat) :=
  candidates.foldl (fun best candidate =>
    match best with
    | none => some candidate
    | some old => if candidate.2 > old.2 then some candidate else best) none

/-- The expected token at a place; the text of a format specification goes before all others. -/
def tokenAt (vocabulary : Vocabulary) (expected : TokenSet) (atOnce : Bool) (rest : List Char) :
    Option (Nat × Nat) :=
  if expected.has vocabulary.formatText && formatTextSize rest > 0 then
    some (vocabulary.formatText, formatTextSize rest)
  else longest (vocabulary.candidates expected atOnce rest)

/-- The next expected token: how many separators to skip, its number and its size. -/
def nextToken (vocabulary : Vocabulary) (expected : TokenSet) (skipped : Nat) :
    List Char → Option (Nat × Nat × Nat)
  | [] => if expected.has 0 then some (skipped, 0, 0) else none
  | char :: rest =>
    match vocabulary.tokenAt expected (skipped == 0) (char :: rest) with
    | some (token, size) => some (skipped, token, size)
    | none => if isSeparator char then nextToken vocabulary expected (skipped + 1) rest else none

end Vocabulary

/-- A token of the given extent. -/
def scanOf (token : Nat) (word : Option Nat) (layout : Layout) (cursor : Cursor)
    (skipped size : Nat) :
    Scan Layout :=
  let start := cursor.skip skipped
  let after := start.skip size
  { lexeme := { token, start := start.position, stop := after.position
                text := String.ofList (start.rest.take size) }
    word, memory := layout, after }

/-- Reads a word as a keyword if that keyword is expected. -/
def wordToken (expected : TokenSet) (text : String) : Nat × Option Nat :=
  match vocabulary.keywords[text]? with
  | some keyword =>
    if expected.has keyword then (keyword, some vocabulary.identifier)
    else (vocabulary.identifier, none)
  | none => (vocabulary.identifier, none)

/-- The next token at a place. -/
def scan (expected : TokenSet) (layout : Layout) (cursor : Cursor) : Option (Scan Layout) :=
  -- A byte order mark at the start of the text belongs to no token.
  let cursor :=
    if cursor.position.offset == 0 && cursor.peek == '\ufeff' then cursor.next else cursor
  match layout.scan (vocabulary.wanted expected) cursor.rest with
  | some found =>
    some (scanOf (vocabulary.layoutToken found.token) none found.layout cursor
      found.skipped found.size)
  | none =>
    (vocabulary.nextToken expected 0 cursor.rest).map fun (skipped, token, size) =>
      if token == vocabulary.identifier then
        let (token, word) :=
          wordToken expected (String.ofList ((cursor.rest.drop skipped).take size))
        scanOf token word layout cursor skipped size
      else scanOf token none layout cursor skipped size

/-- The lexer of the grammar. -/
def lexer : Grammar.Lexer Layout where
  scan
  initial := {}

/-- The derivation of a text, or the place where it cannot go on. -/
def derive (text : String) : Except Position (List Grammar.Tree) := Grammar.parse table lexer text

end NotebookSlice.Syntax

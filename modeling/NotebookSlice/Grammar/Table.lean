import NotebookSlice.Grammar.Rule
import Std.Data.HashMap

/-!
# Numbered grammars

Parsing works on numbers instead of names. A table numbers the tokens, rules, productions and items
of a grammar and holds what the item sets of a parser need again and again: the tokens that may
start a symbol, the rules that may start where another rule starts, and the items that follow a
first symbol.

An item is a production with a dot between two of its steps. Items that agree on all that lies ahead
and on all that the finished node keeps of what lies behind (labels, fields, precedence) have one
number, so that, for instance, a sum and a difference are one item once the operator has been read.
Numbers follow the order "dot first, then rule", and sets of items are kept in that order.
-/

namespace NotebookSlice.Grammar

/-- A set of tokens; token `i` is a member if bit `i` is set. -/
abbrev TokenSet := Nat

namespace TokenSet

/-- The set with one member. -/
def single (token : Nat) : TokenSet := 1 <<< token

/-- Whether the token is in the set. -/
def has (set : TokenSet) (token : Nat) : Bool := set.testBit token

end TokenSet

/-- What stands at one place of a production, by number. -/
inductive Symbol where
  | token (index : Nat)
  | rule (index : Nat)
deriving DecidableEq, Hashable, Repr, Inhabited

/-- A flat alternative of a rule with numbered symbols. -/
structure Production where
  /-- The rule that the production belongs to. -/
  head : Nat
  symbols : Array Symbol
  labels : Array (Option Label)
  fields : Array (Option String)
  weight : Int
deriving Inhabited

namespace Production

/-- The symbol at a place of the production, counted from zero. -/
def symbolAt (production : Production) (place : Nat) : Option Symbol := production.symbols[place]?

end Production

/-- A production with a dot: what precedes the dot has been read. -/
structure Item where
  head : Nat
  dot : Nat
  /-- A production with this item; all of them build the same node. -/
  production : Nat
  /-- The symbol after the dot, if the item is not finished. -/
  next : Option Symbol
  /-- The symbol after `next`. -/
  afterNext : Option Symbol
  /-- The item with the dot moved over `next`. -/
  successor : Nat
  /-- The precedence at the place before the dot. -/
  level : Option Int
  group : Option Associativity
deriving Inhabited

/-- How a rule can start where some other rule starts. -/
structure Opening where
  rule : Nat
  /-- Tokens that follow the opening rule wherever the other rule stands. -/
  follow : TokenSet
  /-- Whether what follows the other rule can follow the opening rule, too. -/
  inherits : Bool
deriving Inhabited

/-- A grammar with numbered parts. -/
structure Table where
  tokens : Array SymbolName
  rules : Array FlatRule
  productions : Array Production
  items : Array Item
  /-- For each rule the tokens that can start it. -/
  first : Array TokenSet
  /-- For each rule the rules that can start where it starts, itself among them. -/
  openings : Array (Array Opening)
  /-- For each token the pairs of a rule and the item that follows it as the rule's first symbol. -/
  tokenStarts : Array (Array (Nat × Nat))
  /-- For each rule the pairs of a rule and the item that follows it as the rule's first symbol. -/
  ruleStarts : Array (Array (Nat × Nat))
  /-- The item of the start production before its first step, and after its last. -/
  startItem : Nat
  acceptItem : Nat
  extras : TokenSet
deriving Inhabited

/-- The token that marks the end of the text. -/
def endOfText : SymbolName := .token "end of text"

/-- All that an item shows to the parser; items with equal views are one item. -/
structure ItemView where
  dot : Nat
  head : Nat
  weight : Int
  size : Nat
  level : Option Int
  group : Option Associativity
  behind : List (Option Label × Option String × Option SymbolName)
  ahead : List Step
deriving BEq, Hashable, Inhabited

namespace ItemView

/-- The order in which items are numbered. -/
def before (first second : ItemView) : Bool :=
  if first.dot != second.dot then first.dot < second.dot
  else if first.head != second.head then first.head < second.head
  else if first.weight != second.weight then first.weight < second.weight
  else first.size < second.size

/--
The view of a sequence with the dot at some place. `carriesFields` says of a symbol that its node is
left out of trees and hands its children's fields to the node above; then the symbols behind the dot
are part of the view.
-/
def ofSequence (carriesFields : SymbolName → Bool) (head : Nat) (sequence : Sequence) (dot : Nat) :
    ItemView :=
  let behind := sequence.steps.take dot
  let previous := behind.getLast?
  let keepSymbols := behind.any fun step => carriesFields step.symbol
  { dot, head
    weight := sequence.weight
    size := sequence.steps.length
    level := previous.bind (·.level)
    group := previous.bind (·.group)
    behind := behind.map fun step =>
      (step.label, step.field, if keepSymbols then some step.symbol else none)
    ahead := sequence.steps.drop dot }

end ItemView

/-- Repeats a step on an array until nothing changes, at most the given number of times. -/
def settle (step : Array TokenSet → Array TokenSet) : Nat → Array TokenSet → Array TokenSet
  | 0, sets => sets
  | rounds + 1, sets =>
    let next := step sets
    if next == sets then sets else settle step rounds next

/-- The tokens that can start a symbol, given those that can start each rule. -/
def firstOf (first : Array TokenSet) : Symbol → TokenSet
  | .token index => TokenSet.single index
  | .rule index => first.getD index 0

/-- For each rule the tokens that can start it. -/
def firstSets (ruleCount : Nat) (productions : Array Production) : Array TokenSet :=
  let step (sets : Array TokenSet) : Array TokenSet :=
    productions.foldl (fun sets (production : Production) =>
      match production.symbolAt 0 with
      | some symbol => sets.modify production.head (· ||| firstOf sets symbol)
      | none => sets) sets
  settle step ruleCount (Array.replicate ruleCount 0)

/-- For each rule the rules that its productions start with. -/
def directOpenings (ruleCount : Nat) (productions : Array Production) (first : Array TokenSet) :
    Array (Array Opening) :=
  productions.foldl (fun openings (production : Production) =>
    match production.symbolAt 0 with
    | some (.rule rule) =>
      let opening : Opening :=
        match production.symbolAt 1 with
        | none => ⟨rule, 0, true⟩
        | some symbol => ⟨rule, firstOf first symbol, false⟩
      openings.modify production.head (·.push opening)
    | _ => openings) (Array.replicate ruleCount #[])

/-- Adds an opening to those of a rule, kept by rule number; tells whether anything is new. -/
def addOpening (found : Array (Option Opening)) (opening : Opening) :
    Array (Option Opening) × Bool :=
  match found.getD opening.rule none with
  | none => (found.setIfInBounds opening.rule (some opening), true)
  | some old =>
    let merged : Opening :=
      ⟨old.rule, old.follow ||| opening.follow, old.inherits || opening.inherits⟩
    if merged.follow == old.follow && merged.inherits == old.inherits then (found, false)
    else (found.setIfInBounds opening.rule (some merged), true)

/-- The rules that can start where the pending ones start. The first argument bounds the number of
steps. -/
def collectOpenings (direct : Array (Array Opening)) :
    Nat → List Opening → Array (Option Opening) → Array (Option Opening)
  | 0, _, found => found
  | _ + 1, [], found => found
  | fuel + 1, opening :: pending, found =>
    let (found, changed) := addOpening found opening
    if changed then
      let further := (direct.getD opening.rule #[]).toList.map fun inner =>
        if inner.inherits then { inner with follow := opening.follow, inherits := opening.inherits }
        else inner
      collectOpenings direct fuel (further ++ pending) found
    else
      collectOpenings direct fuel pending found

/-- For each rule the rules that can start where it starts. -/
def openingSets (ruleCount : Nat) (direct : Array (Array Opening)) : Array (Array Opening) :=
  (Array.range ruleCount).map fun rule =>
    let found := collectOpenings direct (ruleCount * ruleCount * 4) [⟨rule, 0, true⟩]
      (Array.replicate ruleCount none)
    found.filterMap id

/-- Rules with fields, their own or those of hidden rules below them, by name. -/
def rulesWithFields (rules : List FlatRule) : List String :=
  let own := (rules.filter fun rule =>
    rule.alternatives.any fun sequence => sequence.steps.any fun step =>
      step.field.isSome).map (·.name)
  let inherit (known : List String) : List String :=
    (rules.filter fun rule => known.contains rule.name || rule.alternatives.any fun sequence =>
      sequence.steps.any fun step =>
        match step.symbol with
        | .rule name => name.startsWith "_" && step.label.isNone && known.contains name
        | _ => false).map (·.name)
  (List.range rules.length).foldl
    (fun known round => if round < 8 then inherit known else known) own

/-- The name of the rule that derives one whole text. -/
def wholeText : String := "whole text"

namespace Definition

/-- Numbers the tokens, rules, productions and items of a grammar. -/
def table (definition : Definition) : Table :=
  let named := definition.flatten
  let startName := (named.head?.map (·.name)).getD ""
  let whole : FlatRule :=
    { name := wholeText, alternatives := [⟨[{ symbol := .rule startName }], 0⟩] }
  let rules := (named ++ [whole]).toArray
  let ruleNumbers : Std.HashMap String Nat :=
    (Array.range rules.size).foldl (fun numbers index =>
      numbers.insert (rules.getD index default).name index) {}
  -- Tokens in order of appearance, after the end of the text.
  let tokenNames : Array SymbolName × Std.HashMap SymbolName Nat :=
    let add (known : Array SymbolName × Std.HashMap SymbolName Nat) (symbol : SymbolName) :=
      match symbol with
      | .rule _ => known
      | _ => if known.2.contains symbol then known
        else (known.1.push symbol, known.2.insert symbol known.1.size)
    let start := add (#[], {}) endOfText
    let used := rules.foldl (fun known rule => rule.alternatives.foldl (fun known sequence =>
      sequence.steps.foldl (fun known step => add known step.symbol) known) known) start
    definition.extras.foldl (fun known name => add known (.token name)) used
  let (tokens, tokenNumbers) := tokenNames
  let number : SymbolName → Symbol
    | .rule name => .rule (ruleNumbers.getD name 0)
    | symbol => .token (tokenNumbers.getD symbol 0)
  let sequences : Array (Nat × Sequence) :=
    (Array.range rules.size).flatMap fun head =>
      ((rules.getD head default).alternatives.map fun sequence => (head, sequence)).toArray
  let productions := sequences.map fun (head, sequence) =>
    let steps := sequence.steps.toArray
    { head, symbols := steps.map fun step => number step.symbol
      labels := steps.map (·.label), fields := steps.map (·.field)
      weight := sequence.weight : Production }
  -- Item numbers: all views in their order, equal views once.
  let withFields := rulesWithFields rules.toList
  let carriesFields : SymbolName → Bool
    | .rule name => name.startsWith "_" && withFields.contains name
    | _ => false
  let views : Array (ItemView × Nat) :=
    (Array.range sequences.size).flatMap fun index =>
      let (head, sequence) := sequences.getD index default
      (Array.range (sequence.steps.length + 1)).map fun dot =>
        (ItemView.ofSequence carriesFields head sequence dot, index)
  let distinct : Array (ItemView × Nat) :=
    (views.foldl (fun (known : Std.HashMap ItemView Unit × Array (ItemView × Nat)) view =>
      if known.1.contains view.1 then known else (known.1.insert view.1 (), known.2.push view))
      ({}, #[])).2
  let ordered := (distinct.toList.mergeSort fun first second => !second.1.before first.1).toArray
  let itemNumbers : Std.HashMap ItemView Nat :=
    (Array.range ordered.size).foldl (fun numbers index =>
      numbers.insert (ordered.getD index default).1 index) {}
  let itemAt (index dot : Nat) : Nat :=
    let (head, sequence) := sequences.getD index default
    itemNumbers.getD (ItemView.ofSequence carriesFields head sequence dot) 0
  let items := ordered.map fun (view, index) =>
    { head := view.head, dot := view.dot, production := index
      next := view.ahead.head?.map fun step => number step.symbol
      afterNext := view.ahead[1]?.map fun step => number step.symbol
      successor := itemAt index (view.dot + 1)
      level := view.level, group := view.group : Item }
  let first := firstSets rules.size productions
  let openings := openingSets rules.size (directOpenings rules.size productions first)
  let start := Array.replicate tokens.size (#[] : Array (Nat × Nat))
  let startRules := Array.replicate rules.size (#[] : Array (Nat × Nat))
  let addStart (starts : Array (Array (Nat × Nat))) (symbol : Nat) (entry : Nat × Nat) :=
    starts.modify symbol fun entries =>
      if entries.contains entry then entries else entries.push entry
  let (tokenStarts, ruleStarts) :=
    (Array.range productions.size).foldl (fun (starts : Array (Array (Nat × Nat)) × _) index =>
      let production : Production := productions.getD index default
      match production.symbolAt 0 with
      | none => starts
      | some (.token token) => (addStart starts.1 token (production.head, itemAt index 1), starts.2)
      | some (.rule rule) => (starts.1, addStart starts.2 rule (production.head, itemAt index 1)))
      (start, startRules)
  let wholeIndex := sequences.size - 1
  { tokens, rules, productions, items, first, openings, tokenStarts, ruleStarts
    startItem := itemAt wholeIndex 0
    acceptItem := itemAt wholeIndex 1
    extras := definition.extras.foldl (fun set name =>
      set ||| TokenSet.single (tokenNumbers.getD (.token name) 0)) 0 }

end Definition

end NotebookSlice.Grammar

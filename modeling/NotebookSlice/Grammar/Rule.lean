/-!
# Grammar rules

A grammar is a list of named rules. The right-hand side of a rule is an expression over literal
words, token classes and other rules, built with sequencing, alternatives and repetition, and
annotated with precedences, tree labels and fields. This file gives the expressions and flattens
them into plain productions: sequences of annotated symbols.

A repetition becomes an auxiliary rule that derives either its body or two copies of itself, so a
flattened grammar has no repetition left. Two repetitions with the same body share one auxiliary
rule. No rule but the first may derive the empty sequence; an optional part is an alternative with
`empty`, which flattening turns into one production with the part and one without it.
-/

namespace NotebookSlice.Grammar

/-- The side to which operators of one precedence group. -/
inductive Associativity where
  | left
  | right
deriving DecidableEq, Hashable, Repr

/-- The name of a node in a syntax tree; a name that is not `named` is a piece of concrete text. -/
structure Label where
  name : String
  named : Bool
deriving DecidableEq, Hashable, Repr, Inhabited

/-- The label of a named node. -/
def node (name : String) : Label := ⟨name, true⟩

/-- The label of a piece of concrete text. -/
def text (name : String) : Label := ⟨name, false⟩

/-- Right-hand sides of grammar rules. -/
inductive Rule where
  /-- The empty sequence. -/
  | empty
  /-- A keyword or an operator, written as it is. -/
  | word (text : String)
  /-- A class of tokens, such as identifiers. -/
  | token (name : String)
  /-- Another rule of the grammar. -/
  | rule (name : String)
  | seq (parts : List Rule)
  | alt (alternatives : List Rule)
  /-- One or more copies of the body. -/
  | many1 (body : Rule)
  /-- Precedence, and grouping if any, of the body's symbols. -/
  | prec (level : Int) (group : Option Associativity) (body : Rule)
  /-- Preference between complete readings of an ambiguous text. -/
  | weight (value : Int) (body : Rule)
  /-- The body appears in the tree under another label. -/
  | shownAs (label : Label) (body : Rule)
  /-- The body occupies a field of the node. -/
  | inField (name : String) (body : Rule)
deriving Inhabited

namespace Rule

/-- The body or nothing. -/
def optional (body : Rule) : Rule := .alt [body, .empty]

/-- Any number of copies of the body. -/
def many (body : Rule) : Rule := .alt [.many1 body, .empty]

/-- A precedence without grouping. -/
def level (value : Int) (body : Rule) : Rule := .prec value none body

/-- A precedence at which operators group to the left. -/
def groupLeft (value : Int) (body : Rule) : Rule := .prec value (some .left) body

/-- A precedence at which operators group to the right. -/
def groupRight (value : Int) (body : Rule) : Rule := .prec value (some .right) body

/-- One or more bodies with a separator between neighbours. -/
def separated (separator : String) (body : Rule) : Rule :=
  .seq [body, many (.seq [.word separator, body])]

/-- One or more bodies with commas between neighbours. -/
def commaSeparated (body : Rule) : Rule := separated "," body

end Rule

/-- What stands at one place of a production, by name. -/
inductive SymbolName where
  | literal (text : String)
  | token (name : String)
  | rule (name : String)
deriving DecidableEq, Hashable, Repr, Inhabited

/-- One place of a production with its annotations. -/
structure Step where
  symbol : SymbolName
  /-- The precedence in force at this place. -/
  level : Option Int := none
  group : Option Associativity := none
  label : Option Label := none
  field : Option String := none
deriving DecidableEq, Hashable, Repr, Inhabited

/-- A flat alternative of a rule. -/
structure Sequence where
  steps : List Step
  /-- The preference of a tree built by this alternative. -/
  weight : Int := 0
deriving DecidableEq, Repr, Inhabited

/-- Of two preferences the one further from zero, and the first of two equally far. -/
def strongerWeight (first second : Int) : Int :=
  if second.natAbs > first.natAbs then second else first

namespace Sequence

/-- One sequence after the other. -/
def append (first second : Sequence) : Sequence where
  steps := first.steps ++ second.steps
  weight := strongerWeight first.weight second.weight

end Sequence

/-- The annotations that enclose a part of a rule. -/
structure Enclosing where
  level : Option Int := none
  group : Option Associativity := none
  label : Option Label := none
  field : Option String := none

namespace Enclosing

/-- The step for a symbol under these annotations. -/
def step (enclosing : Enclosing) (symbol : SymbolName) : Step where
  symbol
  level := enclosing.level
  group := enclosing.group
  label := enclosing.label
  field := enclosing.field

end Enclosing

/-- The auxiliary rules made so far while the alternatives of one rule are flattened. -/
structure Repetitions where
  /-- The rule at work, which gives auxiliary rules their names. -/
  owner : String := ""
  /-- How many auxiliary rules the rule at work has introduced. -/
  introduced : Nat := 0
  /-- Auxiliary rules in order, each with the alternatives of its body. -/
  made : Array (String × List Sequence) := #[]

namespace Repetitions

/-- The auxiliary rule for a repeated body, made unless there is one already. -/
def ruleFor (body : List Sequence) : StateM Repetitions String := do
  let repetitions ← get
  match repetitions.made.find? (·.2 == body) with
  | some (name, _) => return name
  | none =>
    let name := "_" ++ repetitions.owner ++ "." ++ toString (repetitions.introduced + 1)
    set { repetitions with
      introduced := repetitions.introduced + 1
      made := repetitions.made.push (name, body) }
    return name

end Repetitions

/-- After an annotated part that does not end its rule, the part's last step has the outer
annotation. -/
def Sequence.restoreLast (sequence : Sequence) (restore : Step → Step) : Sequence :=
  match sequence.steps.getLast? with
  | none => sequence
  | some last => { sequence with steps := sequence.steps.dropLast ++ [restore last] }

mutual

/--
The flat alternatives of a rule under the enclosing annotations. `atEnd` says that nothing of the
whole right-hand side follows this part.
-/
def Rule.flatten (enclosing : Enclosing) (atEnd : Bool) : Rule → StateM Repetitions (List Sequence)
  | .empty => return [⟨[], 0⟩]
  | .word text => return [⟨[enclosing.step (.literal text)], 0⟩]
  | .token name => return [⟨[enclosing.step (.token name)], 0⟩]
  | .rule name => return [⟨[enclosing.step (.rule name)], 0⟩]
  | .seq parts => Rule.flattenSeq enclosing atEnd parts
  | .alt alternatives => Rule.flattenAlt enclosing atEnd alternatives
  | .many1 body => do
    let alternatives ← body.flatten {} true
    let name ← Repetitions.ruleFor alternatives
    return [⟨[enclosing.step (.rule name)], 0⟩]
  | .prec level group body => do
    let inner := { enclosing with level := some level, group := group.or enclosing.group }
    let alternatives ← body.flatten inner atEnd
    if atEnd then
      return alternatives
    return alternatives.map fun sequence => sequence.restoreLast fun last =>
      { last with
        level := enclosing.level
        group := if group.isSome then enclosing.group else last.group }
  | .weight value body => do
    let alternatives ← body.flatten enclosing atEnd
    return alternatives.map fun sequence =>
      { sequence with weight := strongerWeight value sequence.weight }
  | .shownAs label body => body.flatten { enclosing with label := some label } atEnd
  | .inField name body => body.flatten { enclosing with field := some name } atEnd

/-- The alternatives of a sequence: every way to choose one alternative of each part. -/
def Rule.flattenSeq (enclosing : Enclosing) (atEnd : Bool) :
    List Rule → StateM Repetitions (List Sequence)
  | [] => return [⟨[], 0⟩]
  | part :: parts => do
    let firsts ← part.flatten enclosing (atEnd && parts.isEmpty)
    let rests ← Rule.flattenSeq enclosing atEnd parts
    return firsts.flatMap fun first => rests.map fun rest => first.append rest

/-- The alternatives of all parts, in order. -/
def Rule.flattenAlt (enclosing : Enclosing) (atEnd : Bool) :
    List Rule → StateM Repetitions (List Sequence)
  | [] => return []
  | part :: parts => do
    let firsts ← part.flatten enclosing atEnd
    let rests ← Rule.flattenAlt enclosing atEnd parts
    return firsts ++ rests

end

/-- A grammar: named rules, the first of which is the start rule. -/
structure Definition where
  rules : List (String × Rule)
  /-- Rules whose alternatives take the place of every reference to them. -/
  inlined : List String := []
  /-- Tokens that may stand anywhere and belong to no rule. -/
  extras : List String := []

/-- A rule as a list of flat alternatives. -/
structure FlatRule where
  name : String
  alternatives : List Sequence
  /-- Whether the rule stands for a repetition. -/
  auxiliary : Bool := false
deriving Inhabited

namespace FlatRule

/-- Whether nodes of the rule are left out of trees, their children taking their place. -/
def hidden (rule : FlatRule) : Bool := rule.name.startsWith "_"

end FlatRule

/-- The steps that take the place of a step which refers to an inlined rule. -/
def Step.inlineAs (replaced : Step) (steps : List Step) : List Step :=
  let labelled := steps.map fun step =>
    { step with label := replaced.label.or step.label, field := replaced.field.or step.field }
  match labelled.getLast? with
  | none => labelled
  | some last =>
    labelled.dropLast ++
      [{ last with level := last.level.or replaced.level, group := last.group.or replaced.group }]

/-- Replaces references to inlined rules, whose own alternatives refer to no inlined rule. -/
def Sequence.inlineWith (inlined : String → Option (List Sequence)) (weight : Int) :
    List Step → List Sequence
  | [] => [⟨[], weight⟩]
  | step :: steps =>
    let rests := Sequence.inlineWith inlined weight steps
    let choices : List Sequence :=
      match step.symbol with
      | .rule name =>
        match inlined name with
        | some alternatives => alternatives.map fun alternative =>
            { alternative with steps := step.inlineAs alternative.steps }
        | none => [⟨[step], 0⟩]
      | _ => [⟨[step], 0⟩]
    choices.flatMap fun first => rests.map fun rest =>
      { steps := first.steps ++ rest.steps, weight := strongerWeight rest.weight first.weight }

namespace Definition

/-- Flattens the rules in order, collecting the auxiliary rules. -/
def flattenRules : List (String × Rule) → StateM Repetitions (List FlatRule)
  | [] => return []
  | (name, rule) :: rest => do
    modify fun repetitions => { repetitions with owner := name, introduced := 0 }
    let alternatives ← rule.flatten {} true
    let others ← flattenRules rest
    return { name, alternatives := alternatives.eraseDups } :: others

/-- The alternatives of an auxiliary rule: two copies of itself, or the body. -/
def auxiliaryRule (name : String) (body : List Sequence) : FlatRule where
  name
  alternatives := ⟨[{ symbol := .rule name }, { symbol := .rule name }], 0⟩ :: body.eraseDups
  auxiliary := true

/-- The rules as flat alternatives: first the named ones that are not inlined, then the auxiliary
ones. -/
def flatten (definition : Definition) : List FlatRule :=
  let (named, repetitions) := (flattenRules definition.rules).run {}
  let all := named ++ repetitions.made.toList.map fun (name, body) => auxiliaryRule name body
  let inlined (name : String) : Option (List Sequence) :=
    if definition.inlined.contains name then
      (all.find? (·.name == name)).map (·.alternatives)
    else none
  (all.filter fun rule => !definition.inlined.contains rule.name).map fun rule =>
    { rule with
      alternatives := (rule.alternatives.flatMap fun sequence =>
        Sequence.inlineWith inlined sequence.weight sequence.steps).eraseDups }

end Definition

end NotebookSlice.Grammar

import NotebookSlice.Grammar.Table

/-!
# Parser states

A state is a set of items, each with the tokens that may follow it once it is finished. Only the
items that were reached by reading a symbol are stored; the items of the rules that may start at the
state follow from these. States are computed when they are needed: `State.goto` gives the state
after one more symbol, `State.actions` what to do when a token comes next.

Where a token allows several actions, precedence decides first: a reduction with a lower precedence
than another gives way to it, and between reading on and reducing the higher precedence wins, then
the grouping of the reductions. What neither decides stays as several actions, all of which are
pursued.
-/

namespace NotebookSlice.Grammar

/-- An item together with the tokens that may follow it. -/
abbrev Expectation := Nat × TokenSet

/-- A set of items as a parser state. -/
structure State where
  /-- The items reached by reading a symbol, in the order of their numbers. -/
  core : Array Expectation
  /-- For each rule that may start here the tokens that may follow it; the empty set for other
  rules. -/
  starting : Thunk (Array TokenSet)

namespace State

instance : BEq State := ⟨fun first second => first.core == second.core⟩

/-- For each rule that may start at one of the items the tokens that may follow it. -/
def startingRules (table : Table) (core : Array Expectation) : Array TokenSet :=
  core.foldl (fun sets (number, lookahead) =>
    let item := table.items.getD number default
    match item.next with
    | some (.rule rule) =>
      let follow := match item.afterNext with
        | some symbol => firstOf table.first symbol
        | none => lookahead
      (table.openings.getD rule #[]).foldl (fun sets opening =>
        sets.modify opening.rule fun set =>
          if opening.inherits then
            set ||| opening.follow ||| follow else set ||| opening.follow) sets
    | _ => sets) (Array.replicate table.rules.size 0)

/-- The state with the given items. -/
def ofCore (table : Table) (core : Array Expectation) : State where
  core
  starting := Thunk.mk fun _ => startingRules table core

/-- The state before any symbol has been read. -/
def initial (table : Table) : State := ofCore table #[(table.startItem, TokenSet.single 0)]

/-- Adds an item to a list in the order of item numbers; an item already there gains the tokens. -/
def insertItem (number : Nat) (lookahead : TokenSet) : List Expectation → List Expectation
  | [] => [(number, lookahead)]
  | (other, set) :: rest =>
    if number < other then (number, lookahead) :: (other, set) :: rest
    else if number == other then (other, set ||| lookahead) :: rest
    else (other, set) :: insertItem number lookahead rest

/-- The items reached from a state by reading a symbol. -/
def advanced (table : Table) (state : State) (symbol : Symbol) : List Expectation :=
  let moved := state.core.foldl (fun items (number, lookahead) =>
    let item := table.items.getD number default
    if item.next == some symbol then insertItem item.successor lookahead items else items) []
  let starts := match symbol with
    | .token token => table.tokenStarts.getD token #[]
    | .rule rule => table.ruleStarts.getD rule #[]
  let starting := state.starting.get
  starts.foldl (fun items (rule, number) =>
    let lookahead := starting.getD rule 0
    if lookahead == 0 then items else insertItem number lookahead items) moved

/-- The state after one more symbol, if the symbol can come next. -/
def goto (table : Table) (state : State) (symbol : Symbol) : Option State :=
  match advanced table state symbol with
  | [] => none
  | items => some (ofCore table items.toArray)

/-- The tokens that can come next, the tokens that may stand anywhere included. -/
def expected (table : Table) (state : State) : TokenSet :=
  let ofItems := state.core.foldl (fun set (number, lookahead) =>
    match (table.items.getD number default).next with
    | some symbol => set ||| firstOf table.first symbol
    | none => set ||| lookahead) table.extras
  -- Before any symbol the text may end, as the start rule may be empty.
  if state.core.any fun (number, _) => number == table.startItem then ofItems ||| TokenSet.single 0
  else ofItems

end State

/-- What a parser does when it sees a token. -/
inductive Action where
  /-- Read the token. -/
  | shift
  /-- Read the token without leaving the state. -/
  | shiftExtra
  /-- Replace the steps of a finished production by its rule. -/
  | reduce (production : Nat)
  /-- The text is complete. -/
  | accept
deriving DecidableEq, Repr, Inhabited

/-- Compares two precedences, of which a missing one counts as zero. -/
def compareLevels (first second : Option Int) : Ordering :=
  compare (first.getD 0) (second.getD 0)

/-- The reductions that a token allows, with what resolves their conflicts. -/
structure Reductions where
  /-- The finished items, all of one precedence. -/
  items : List Item := []
  level : Option Int := none
  groupsLeft : Bool := false
  groupsRight : Bool := false
  ungrouped : Bool := false

namespace Reductions

/-- Adds a finished item unless others have a higher precedence; drops others of a lower one. -/
def add (reductions : Reductions) (item : Item) : Reductions :=
  let order := if reductions.items.isEmpty then Ordering.gt
    else compareLevels item.level reductions.level
  match order with
  | .lt => reductions
  | order =>
    let kept : Reductions := if order == .gt then {} else reductions
    { items := kept.items ++ [item]
      level := item.level
      groupsLeft := kept.groupsLeft || item.group == some .left
      groupsRight := kept.groupsRight || item.group == some .right
      ungrouped := kept.ungrouped || item.group.isNone }

end Reductions

namespace State

/-- The finished items that a token allows to reduce. -/
def reductions (table : Table) (state : State) (token : Nat) : Reductions :=
  state.core.foldl (fun reductions (number, lookahead) =>
    let item := table.items.getD number default
    if item.next.isNone && lookahead.has token then reductions.add item else reductions) {}

/-- The unfinished items, some of their steps read, that can go on with a token. -/
def shifting (table : Table) (state : State) (token : Nat) : List Item :=
  state.core.toList.filterMap fun (number, _) =>
    let item := table.items.getD number default
    match item.next with
    | some symbol => if (firstOf table.first symbol).has token then some item else none
    | none => none

/-- Whether all items belong to one auxiliary rule: then the repetition is read from the left. -/
def isRepetition (table : Table) : List Item → Bool
  | [] => false
  | item :: items =>
    (table.rules.getD item.head default).auxiliary && items.all (·.head == item.head)

/-- The action that a finished item stands for. -/
def finish (table : Table) (item : Item) : Action :=
  if item.head + 1 == table.rules.size then .accept else .reduce item.production

/-- Whether the start rule may derive the empty text, and its production. -/
def emptyStart (table : Table) (state : State) (token : Nat) : Option Action :=
  if token == 0 && state.core.any (fun (number, _) => number == table.startItem) then
    (table.productions.findIdx? fun production =>
      production.head == 0 && production.symbols.isEmpty).map Action.reduce
  else none

/-- What to do in a state when a token comes next: reductions first, in the order of items. -/
def actions (table : Table) (state : State) (token : Nat) : List Action :=
  if table.extras.has token then [.shiftExtra] else
  let reductions := state.reductions table token
  let reduce := reductions.items.map (finish table)
  let going := state.shifting table token
  match reduce, going with
  | [], [] => (state.emptyStart table token).toList
  | [], _ => [.shift]
  | _, [] => reduce
  | _, _ =>
    let started := going.filter (·.dot > 0)
    if isRepetition table (reductions.items ++ started) then reduce else
    let orders := started.map fun item => compareLevels item.level reductions.level
    let more := orders.contains .gt
    let less := orders.contains .lt
    if more && !less then [.shift]
    else if less && !more then reduce
    else if more && less then reduce ++ [.shift]
    else match reductions.groupsLeft, reductions.ungrouped, reductions.groupsRight with
      | true, false, false => reduce
      | false, false, true => [.shift]
      | _, _, _ => reduce ++ [.shift]

end State

end NotebookSlice.Grammar

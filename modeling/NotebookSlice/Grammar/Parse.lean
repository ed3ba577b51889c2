import NotebookSlice.Grammar.State
import NotebookSlice.Grammar.Tree

/-!
# Parsing with several readings at once

A parser keeps its stack as a graph: every node is a state, and a link leads from a node to one
below it and carries the tree read in between. A version of the parse is a node on top of the graph.
Where a token allows several actions a version splits; versions that arrive at the same state at the
same place merge into one node with several links. A reduction over several paths to the same node
below keeps the preferred one of the trees it could build.

The tokens come from a lexer which is asked for the next token that fits the state of a version, so
the same text can be cut differently in different versions. The lexer has a memory of its own (`σ`),
which every version carries along. A text is parsed if some version reads it to the end; when no
version can go on, the place of the last token that no version could read is reported.
-/

namespace NotebookSlice.Grammar

open Text (Cursor Position)

/-- The next token for a parser, and what the lexer remembers after it. -/
structure Scan (σ : Type) where
  lexeme : Lexeme
  /-- The token to fall back to where the word cannot be a keyword. -/
  word : Option Nat := none
  memory : σ
  after : Cursor

/-- A source of tokens: from the expected tokens, its memory and a place to the next token. -/
structure Lexer (σ : Type) where
  scan : TokenSet → σ → Cursor → Option (Scan σ)
  initial : σ

/-- A connection in the stack graph: the tree read between a node and the node below it. -/
structure Link where
  tree : Tree
  below : Nat
deriving Inhabited

/-- A node of the stack graph. -/
structure StackNode where
  state : State
  cursor : Cursor
  links : List Link
  /-- The greatest preference of the trees on a path down from the node. -/
  weight : Int

instance : Inhabited StackNode := ⟨⟨⟨#[], Thunk.pure #[]⟩, default, [], 0⟩⟩

/-- One version of the parse. -/
structure Version (σ : Type) where
  /-- The node on top. -/
  top : Nat
  memory : σ
  /-- Whether the version can still go on. -/
  active : Bool := true

/-- The versions of a parse, on one stack graph. -/
structure Forest (σ : Type) where
  nodes : Array StackNode
  versions : Array (Version σ)
  /-- The best complete tree so far: the tokens around the start rule and the rule's own
  children. -/
  result : Option (Tree × List Tree) := none
  /-- The last place where a token could not be read. -/
  failure : Position := {}

namespace Forest

variable {σ : Type} [BEq σ]

/-- The most versions kept after each round, and how many more may arise within a round. -/
def maxVersions : Nat := 6
def maxExtraVersions : Nat := 4

/-- The most links of one node, and the most paths followed down from one. -/
def maxLinks : Nat := 8
def maxPaths : Nat := 64

/-- The node with a number. -/
def node (forest : Forest σ) (number : Nat) : StackNode := forest.nodes.getD number default

/-- The node on top of a version. -/
def topNode (forest : Forest σ) (version : Nat) : StackNode :=
  match forest.versions[version]? with
  | some version => forest.node version.top
  | none => default

/-- Puts a tree on a node and returns the new node. -/
def push (forest : Forest σ) (below : Nat) (tree : Tree) (state : State) (cursor : Cursor) :
    Forest σ × Nat :=
  let fresh : StackNode :=
    { state, cursor, links := [⟨tree, below⟩], weight := (forest.node below).weight + tree.weight }
  ({ forest with nodes := forest.nodes.push fresh }, forest.nodes.size)

/-- Replaces the link at an index. -/
def setLink (forest : Forest σ) (number index : Nat) (link : Link) (weight : Int) : Forest σ :=
  { forest with nodes := forest.nodes.modify number fun node =>
      { node with links := node.links.set index link, weight } }

/-- Adds a link to a node. A similar tree that leads to the same node stays unless the new one is
preferred; if it leads to a node of the same state at the same place, the two nodes below become
one. The first argument bounds the depth to which nodes are joined.
-/
def addLink : Nat → Forest σ → Nat → Link → Forest σ
  | 0, forest, _, _ => forest
  | depth + 1, forest, number, link =>
    let node := forest.node number
    let linkWeight := (forest.node link.below).weight + link.tree.weight
    let sameBelow :=
      node.links.findIdx? fun old => old.tree.similar link.tree && old.below == link.below
    let joinable := node.links.findIdx? fun old => old.tree.similar link.tree &&
      (forest.node old.below).cursor.position.offset ==
        (forest.node link.below).cursor.position.offset &&
      (forest.node old.below).state == (forest.node link.below).state
    if link.below == number then forest else
    match sameBelow, joinable with
    | some index, _ =>
      match node.links[index]? with
      | some old =>
        if link.tree.weight > old.tree.weight then
          forest.setLink number index link linkWeight else forest
      | none => forest
    | none, some index =>
      match node.links[index]? with
      | some old =>
        let joined := (forest.node link.below).links.foldl (fun forest inner =>
          addLink depth forest old.below inner) forest
        { joined with nodes := joined.nodes.modify number fun node =>
            { node with weight := max node.weight linkWeight } }
      | none => forest
    | none, none =>
      if node.links.length ≥ maxLinks then forest
      else
        { forest with nodes := forest.nodes.modify number fun node =>
            { node with links := node.links ++ [link], weight := max node.weight linkWeight } }

/-- Whether two versions are in the same state at the same place with the same memory. -/
def canMerge (forest : Forest σ) (first second : Version σ) : Bool :=
  first.active && second.active &&
  (forest.node first.top).cursor.position.offset ==
    (forest.node second.top).cursor.position.offset &&
  first.memory == second.memory && (forest.node first.top).state == (forest.node second.top).state

/-- Gives the links of a version's top to the top of another. -/
def mergeTops (forest : Forest σ) (first second : Version σ) : Forest σ :=
  if first.top == second.top then forest
  else (forest.node second.top).links.foldl (fun forest link =>
    addLink (forest.nodes.size + 1) forest first.top link) forest

/-- A path down from a node: where it has arrived, the trees on it, and how many steps are to go. -/
structure Path where
  node : Nat
  trees : List Tree
  remaining : Nat

/-- Moves every path one link down, the first links in place and the others behind all paths. -/
def descend (forest : Forest σ) (paths : List Path) : List Path :=
  let follow (path : Path) (link : Link) : Path :=
    { node := link.below, trees := link.tree :: path.trees
      remaining := if link.tree.isExtra then path.remaining else path.remaining - 1 }
  let (main, side) := paths.foldl (fun (found : List Path × List Path) path =>
    match (forest.node path.node).links with
    | [] => found
    | link :: links => (follow path link :: found.1, found.2 ++ links.map (follow path)))
    (([] : List Path), ([] : List Path))
  (main.reverse ++ side).take maxPaths

/-- The paths over a number of steps down from the given ones, in the order in which they are
complete, as the nodes they lead to and the trees on them. The first argument bounds the length of
the paths.
-/
def pathsDown (forest : Forest σ) : Nat → List Path → List (Nat × List Tree)
  | 0, _ => []
  | fuel + 1, paths =>
    match paths with
    | [] => []
    | _ =>
      let (complete, pending) := paths.partition (·.remaining == 0)
      complete.map (fun path => (path.node, path.trees)) ++
        pathsDown forest fuel (forest.descend pending)

/-- Gathers the paths that lead to the same node, in the order of the first path to each. -/
def groupPaths : List (Nat × List Tree) → List (Nat × List (List Tree))
  | paths => paths.foldl (fun groups (node, trees) =>
    match groups.findIdx? fun (other, _) => other == node with
    | some index => groups.modify index fun (other, lists) => (other, lists ++ [trees])
    | none => groups ++ [(node, [trees])]) []

/-- Splits trees into those up to the last that is no extra, and the extras after it. -/
def splitExtras (trees : List Tree) : List Tree × List Tree :=
  let trailing := trees.reverse.takeWhile Tree.isExtra
  (trees.take (trees.length - trailing.length), trailing.reverse)

/-- The preferred node that a production makes of one of several lists of trees, and the extras
after it. -/
def bestNode (table : Table) (production : Nat) (place : Position) :
    List (List Tree) → Option (Tree × List Tree)
  | [] => none
  | trees :: others =>
    let build (trees : List Tree) : Tree × List Tree :=
      let (children, trailing) := splitExtras trees
      (Tree.ofProduction table production place children, trailing)
    some (others.foldl (fun best trees =>
      let other := build trees
      if best.1.replacedBy other.1 then other else best) (build trees))

/-- Merges a new version into one of the earlier ones but the given one, or adds it. -/
def addVersion (forest : Forest σ) (except : Nat) (fresh : Version σ) : Forest σ :=
  match (List.range forest.versions.size).find? (fun index => index != except &&
      match forest.versions[index]? with
      | some version => forest.canMerge version fresh
      | none => false) with
  | some index =>
    match forest.versions[index]? with
    | some version => forest.mergeTops version fresh
    | none => forest
  | none => { forest with versions := forest.versions.push fresh }

/-- Applies a production to a version: one new version for each node that the steps lead down to. -/
def reduce (table : Table) (forest : Forest σ) (version production : Nat) : Forest σ :=
  match forest.versions[version]? with
  | none => forest
  | some current =>
    let rule := table.productions.getD production default
    let cursor := (forest.node current.top).cursor
    let paths := forest.pathsDown (forest.nodes.size + 1) [⟨current.top, [], rule.symbols.size⟩]
    (groupPaths paths).foldl (fun forest (base, lists) =>
      if forest.versions.size > maxVersions + maxExtraVersions then forest else
      match bestNode table production cursor.position lists,
          (forest.node base).state.goto table (.rule rule.head) with
      | some (tree, trailing), some state =>
        let (forest, top) := forest.push base tree state cursor
        let (forest, top) := trailing.foldl (fun (forest, top) extra =>
          forest.push top extra state cursor) (forest, top)
        forest.addVersion version { current with top }
      | _, _ => forest) forest

/-- Marks a version as unable to read a token. -/
def stop (forest : Forest σ) (version : Nat) (place : Position) : Forest σ :=
  { forest with
    versions := forest.versions.modify version fun version => { version with active := false }
    failure := if place.offset ≥ forest.failure.offset then place else forest.failure }

/-- Reads a token in a version. -/
def shift (forest : Forest σ) (version : Nat) (scan : Scan σ) (lexeme : Lexeme) (state : State) :
    Forest σ :=
  match forest.versions[version]? with
  | none => forest
  | some current =>
    let (forest, top) := forest.push current.top (.leaf lexeme) state scan.after
    let moved := { current with top, memory := scan.memory }
    { forest with versions := forest.versions.setIfInBounds version moved }

/-- Takes a version that has read the whole text; of two complete trees the preferred one is
kept. -/
def complete (forest : Forest σ) (version : Nat) : Forest σ :=
  match forest.versions[version]? with
  | none => forest
  | some current =>
    let all := forest.pathsDown (forest.nodes.size + 1) [⟨current.top, [], 1⟩]
    -- The start rule is the one tree that is no extra; extras may lie around it.
    let rec below (fuel node : Nat) (trees : List Tree) : List Tree :=
      match fuel, (forest.node node).links with
      | fuel + 1, link :: _ => below fuel link.below (link.tree :: trees)
      | _, _ => trees
    let results := all.filterMap fun (node, trees) =>
      let leading := below forest.nodes.size node []
      (trees.find? (!·.isExtra)).map fun root =>
        (root, leading ++ trees.flatMap fun tree => if tree.isExtra then [tree] else tree.children)
    let best := results.foldl (fun (best : Option (Tree × List Tree)) result =>
      match best with
      | none => some result
      | some old => if old.1.replacedBy result.1 then some result else some old) forest.result
    { forest with
      result := best
      versions := forest.versions.modify version fun version => { version with active := false } }

/-- Applies actions to a version; also tells the first version that the last reduction made. -/
def applyActions (table : Table) (version : Nat) (scan : Scan σ) (lexeme : Lexeme) :
    List Action → Forest σ → Option Nat → Forest σ × Option Nat × Bool
  | [], forest, reduced => (forest, reduced, false)
  | action :: actions, forest, reduced =>
    match action with
    | .shift =>
      match (forest.topNode version).state.goto table (.token lexeme.token) with
      | some state => (forest.shift version scan lexeme state, none, true)
      | none => (forest.stop version lexeme.start, none, true)
    | .shiftExtra =>
      (forest.shift version scan { lexeme with extra := true } (forest.topNode version).state,
        none, true)
    | .accept => (forest.complete version, none, true)
    | .reduce production =>
      let size := forest.versions.size
      let forest := reduce table forest version production
      applyActions table version scan lexeme actions forest
        (if forest.versions.size > size then some size else reduced)

/-- Carries a token as far as it goes in a version: reductions, then reading it. -/
def consume (table : Table) (version : Nat) (scan : Scan σ) : Nat → Lexeme → Forest σ → Forest σ
  | 0, lexeme, forest => forest.stop version lexeme.start
  | fuel + 1, lexeme, forest =>
    let state := (forest.topNode version).state
    let (forest, reduced, done) :=
      applyActions table version scan lexeme (state.actions table lexeme.token) forest none
    if done then forest else
    match reduced with
    | some fresh =>
      -- The version goes on as the first one that the last reduction made.
      match forest.versions[fresh]? with
      | some moved =>
        let versions := (forest.versions.setIfInBounds version moved).eraseIdxIfInBounds fresh
        consume table version scan fuel lexeme { forest with versions }
      | none => forest.stop version lexeme.start
    | none =>
      match scan.word with
      | some word =>
        if lexeme.token != word && !(state.actions table word).isEmpty then
          consume table version scan fuel { lexeme with token := word } forest
        else forest.stop version lexeme.start
      | none => forest.stop version lexeme.start

/-- The most reductions before one token. -/
def maxReductions : Nat := 100000

/-- Reads one token in a version. -/
def advance (table : Table) (lexer : Lexer σ) (version : Nat) (forest : Forest σ) : Forest σ :=
  match forest.versions[version]? with
  | none => forest
  | some current =>
    let node := forest.node current.top
    match lexer.scan (node.state.expected table) current.memory node.cursor with
    | none => forest.stop version node.cursor.position
    | some scan => consume table version scan maxReductions scan.lexeme forest

/-- Reads tokens in a version until it is ahead of the furthest place so far, or level with it. -/
def advanceVersion (table : Table) (lexer : Lexer σ) (version : Nat) :
    Nat → Nat × Forest σ → Nat × Forest σ
  | 0, reached => reached
  | fuel + 1, (furthest, forest) =>
    let isActive := match forest.versions[version]? with
      | some current => current.active
      | none => false
    if !isActive then (furthest, forest) else
    let forest := advance table lexer version forest
    let place := (forest.topNode version).cursor.position.offset
    if place > furthest || (version > 0 && place == furthest) then (place, forest)
    else advanceVersion table lexer version fuel (furthest, forest)

/-- Lets every version read on, those that arise on the way included. -/
def advanceAll (table : Table) (lexer : Lexer σ) (steps : Nat) :
    Nat → Nat → Nat × Forest σ → Nat × Forest σ
  | 0, _, reached => reached
  | fuel + 1, version, (furthest, forest) =>
    if version < forest.versions.size then
      advanceAll table lexer steps fuel (version + 1)
        (advanceVersion table lexer version steps (furthest, forest))
    else (furthest, forest)

/-- Places a version among others: merged with an equal one, else ordered by preference. -/
def place (forest : Forest σ) (weight : Int) :
    List (Version σ) → Version σ → Forest σ × List (Version σ)
  | [], version => (forest, [version])
  | other :: others, version =>
    if forest.canMerge other version then (forest.mergeTops other version, other :: others)
    else if weight > (forest.node other.top).weight then
      let (forest, rest) := place forest weight others other
      (forest, version :: rest)
    else
      let (forest, rest) := place forest weight others version
      (forest, other :: rest)

/-- Drops the versions that cannot go on, merges equal ones, and keeps the most preferred. -/
def condense (forest : Forest σ) : Forest σ :=
  let active := forest.versions.toList.filter (·.active)
  let (forest, versions) := active.foldl (fun (forest, versions) version =>
    place forest (forest.node version.top).weight versions version)
      (forest, ([] : List (Version σ)))
  { forest with versions := (versions.take maxVersions).toArray }

/-- Reads on in all versions until none is left. -/
def run (table : Table) (lexer : Lexer σ) (steps : Nat) : Nat → Nat → Forest σ → Forest σ
  | 0, _, forest => forest
  | fuel + 1, furthest, forest =>
    if forest.versions.isEmpty then forest else
    let (furthest, forest) := advanceAll table lexer steps steps 0 (furthest, forest)
    run table lexer steps fuel furthest forest.condense

end Forest

/-- The tree of a text: the children of the start rule with the extras around them, or the place of
failure. -/
def parse {σ : Type} [BEq σ] (table : Table) (lexer : Lexer σ) (text : String) :
    Except Position (List Tree) :=
  let start : StackNode :=
    { state := State.initial table, cursor := Cursor.start text, links := [], weight := 0 }
  let forest : Forest σ :=
    { nodes := #[start], versions := #[{ top := 0, memory := lexer.initial }] }
  let steps := 8 * text.length + 64
  match (Forest.run table lexer steps steps 0 forest) with
  | { result := some (_, children), .. } => .ok children
  | { failure, .. } => .error failure

end NotebookSlice.Grammar

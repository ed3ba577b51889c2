import NotebookSlice.Grammar.Table
import NotebookSlice.Text.Cursor

/-!
# Derivation trees

The trees that a parser builds: leaves are tokens of the text, inner nodes are productions. Tokens
that may stand anywhere appear among the children where they were read. A node knows the stretch of
text it covers and the preference it has gained from its productions.
-/

namespace NotebookSlice.Grammar

open Text (Position)

/-- A token as found in a text. -/
structure Lexeme where
  token : Nat
  /-- Whether the token may stand anywhere. -/
  extra : Bool := false
  start : Position
  stop : Position
  /-- The characters of the token. -/
  text : String
deriving Inhabited

/-- Derivation trees over the numbers of a table. -/
inductive Tree where
  | leaf (lexeme : Lexeme)
  | node (rule production : Nat) (weight : Int) (start stop : Position) (children : List Tree)
deriving Inhabited

namespace Tree

/-- The symbol that the tree derives from. -/
def symbol : Tree → Symbol
  | .leaf lexeme => .token lexeme.token
  | .node rule .. => .rule rule

/-- Whether the tree is a token that may stand anywhere. -/
def isExtra : Tree → Bool
  | .leaf lexeme => lexeme.extra
  | .node .. => false

/-- The preference gained by the productions of the tree. -/
def weight : Tree → Int
  | .leaf _ => 0
  | .node _ _ weight .. => weight

def start : Tree → Position
  | .leaf lexeme => lexeme.start
  | .node _ _ _ start .. => start

def stop : Tree → Position
  | .leaf lexeme => lexeme.stop
  | .node _ _ _ _ stop _ => stop

def children : Tree → List Tree
  | .leaf _ => []
  | .node _ _ _ _ _ children => children

/-- The node that a production makes of its children; one without children stands at the given
place. -/
def ofProduction (table : Table) (production : Nat) (place : Position) (children : List Tree) :
    Tree :=
  let rule := table.productions.getD production default
  .node rule.head production (children.foldl (fun total child => total + child.weight) rule.weight)
    ((children.head?.map start).getD place) ((children.getLast?.map stop).getD place) children

mutual

/-- The order in which one of two readings of a text is preferred: by symbol, number of children,
children. -/
def order (first second : Tree) : Ordering :=
  match first, second with
  | .leaf first, .leaf second => compare first.token second.token
  | .leaf _, .node .. => .lt
  | .node .., .leaf _ => .gt
  | .node rule _ _ _ _ children, .node rule' _ _ _ _ children' =>
    (compare rule rule').then
      ((compare children.length children'.length).then (orderAll children children'))

/-- The order of lists of children, the first difference deciding. -/
def orderAll : List Tree → List Tree → Ordering
  | first :: firsts, second :: seconds => (order first second).then (orderAll firsts seconds)
  | _, _ => .eq

end

/-- Whether the second of two readings takes the place of the first. -/
def replacedBy (first second : Tree) : Bool :=
  if second.weight > first.weight then true
  else if first.weight > second.weight then false
  else order first second == .gt

/-- Whether two trees may be taken for one another in the same place without a look at their
children. -/
def similar (first second : Tree) : Bool :=
  first.symbol == second.symbol && first.start.offset == second.start.offset &&
    first.stop.offset == second.stop.offset &&
    first.children.length == second.children.length && first.isExtra == second.isExtra

end Tree

end NotebookSlice.Grammar

import NotebookSlice.Grammar.Tree

/-!
# Syntax nodes

The syntax tree of a program as the analysis of names sees it. A node has a kind, the field of its
parent that it occupies, its spelling if it is a token, and its children in the order of the text.
Kinds that play the same part in the analysis share a constructor of `Kind`. A node of kind `sign`
is a keyword or an operator; all other nodes are called named.

`Node.ofTrees` makes nodes of the derivation trees of a parser: rules whose names start with an
underscore leave no node, their children taking their place, and labels override the names of rules
and tokens.
-/

namespace NotebookSlice.Syntax

open Text (Position)

/-- The fields of a node that the analysis of names distinguishes. -/
inductive Field where
  | name
  | renamed
  | left
  | right
  | value
  | typing
  | object
  | function
  | parameters
  | body
deriving DecidableEq, Repr, Inhabited

/-- The kinds of syntax nodes that the analysis of names distinguishes. -/
inductive Kind where
  /-- A keyword or operator. -/
  | sign
  | identifier
  | comment
  /-- A backslash at the end of a line. -/
  | continuation
  | attribute
  | subscript
  | call
  | keywordArgument
  /-- An expression with `:=`. -/
  | namedExpression
  | lambda
  /-- A comprehension of any type, or a generator expression. -/
  | comprehension
  | forInClause
  /-- A starred or parenthesised parameter. -/
  | parameterPattern
  /-- A parameter with a default or an annotation. -/
  | richParameter
  | assignment
  | augmentedAssignment
  | expressionStatement
  | importStatement
  | functionDefinition
  | classDefinition
  | decoratedDefinition
  | decorator
  | forStatement
  | globalStatement
  | nonlocalStatement
  /-- Any other statement. -/
  | statement
  | block
  | withItem
  | asPattern
  | asPatternTarget
  /-- A handler of exceptions, or of groups of them. -/
  | exceptClause
  /-- Any other clause of a statement. -/
  | clause
  | aliasedImport
  | dottedName
  /-- Any other node, its children being read. -/
  | other
deriving DecidableEq, Repr, Inhabited

namespace Kind

/-- Whether nodes of the kind are statements. -/
def isStatement : Kind → Bool
  | .expressionStatement | .importStatement | .functionDefinition | .classDefinition
  | .decoratedDefinition | .forStatement | .globalStatement | .nonlocalStatement | .statement =>
    true
  | _ => false

/-- The kind of nodes with a name in the grammar. -/
def ofName : String → Kind
  | "identifier" => .identifier
  | "comment" => .comment
  | "lineContinuation" => .continuation
  | "attribute" => .attribute
  | "subscript" => .subscript
  | "call" => .call
  | "keywordArgument" => .keywordArgument
  | "namedExpression" => .namedExpression
  | "lambda" => .lambda
  | "listComprehension" | "setComprehension" | "dictionaryComprehension"
  | "generatorExpression" => .comprehension
  | "forInClause" => .forInClause
  | "listSplatPattern" | "dictionarySplatPattern" | "tuplePattern" => .parameterPattern
  | "defaultParameter" | "typedParameter" | "typedDefaultParameter" => .richParameter
  | "assignment" => .assignment
  | "augmentedAssignment" => .augmentedAssignment
  | "expressionStatement" => .expressionStatement
  | "importStatement" | "importFromStatement" | "futureImportStatement" => .importStatement
  | "functionDefinition" => .functionDefinition
  | "classDefinition" => .classDefinition
  | "decoratedDefinition" => .decoratedDefinition
  | "decorator" => .decorator
  | "forStatement" => .forStatement
  | "globalStatement" => .globalStatement
  | "nonlocalStatement" => .nonlocalStatement
  | "block" => .block
  | "withItem" => .withItem
  | "asPattern" => .asPattern
  | "asPatternTarget" => .asPatternTarget
  | "exceptClause" | "exceptGroupClause" => .exceptClause
  | "aliasedImport" => .aliasedImport
  | "dottedName" => .dottedName
  | name =>
    if name.endsWith "Statement" then .statement
    else if name.endsWith "Clause" then .clause
    else .other

end Kind

namespace Field

/-- The field with a name in the grammar. -/
def ofName : String → Option Field
  | "name" => some .name
  | "alias" => some .renamed
  | "left" => some .left
  | "right" => some .right
  | "value" => some .value
  | "type" => some .typing
  | "object" => some .object
  | "function" => some .function
  | "parameters" => some .parameters
  | "body" => some .body
  | _ => none

end Field

/-- Nodes of a syntax tree. -/
inductive Node where
  | mk (kind : Kind) (field : Option Field) (text : String) (children : List Node)
deriving Inhabited

namespace Node

def kind : Node → Kind
  | .mk kind _ _ _ => kind

/-- The field of the parent that the node occupies. -/
def field : Node → Option Field
  | .mk _ field _ _ => field

/-- The spelling of a node without children. -/
def text : Node → String
  | .mk _ _ text _ => text

def children : Node → List Node
  | .mk _ _ _ children => children

/-- Whether the node is more than a keyword or an operator. -/
def isNamed (node : Node) : Bool := node.kind != .sign

/-- The first child in a field. -/
def childIn (node : Node) (field : Field) : Option Node :=
  node.children.find? (·.field == some field)

mutual

/-- The nodes that a derivation tree leaves in the tree above it, where it appears under a label and
in a field, if any: one node, or, if it leaves none of its own, those of its children.
-/
def ofTree (table : Grammar.Table) (label : Option Grammar.Label) (field : Option String) :
    Grammar.Tree → List Node
  | .leaf lexeme =>
    let field := if lexeme.extra then none else field.bind Field.ofName
    match label, table.tokens.getD lexeme.token default with
    | some label, _ =>
      if label.named then [.mk (Kind.ofName label.name) field lexeme.text []]
      else [.mk .sign field label.name []]
    | none, .token name =>
      if name.startsWith "_" then [] else [.mk (Kind.ofName name) field lexeme.text []]
    | none, .literal text => [.mk .sign field text []]
    | none, .rule _ => []
  | .node rule production _ _ _ trees =>
    let name := (table.rules.getD rule default).name
    let steps := table.productions.getD production default
    match label with
    | some label => [.mk (Kind.ofName label.name) (field.bind Field.ofName) ""
        (ofChildren table steps 0 none trees)]
    | none =>
      if name.startsWith "_" then ofChildren table steps 0 field trees
      else [.mk (Kind.ofName name) (field.bind Field.ofName) ""
        (ofChildren table steps 0 none trees)]

/-- The nodes of the children of a production, from a step on; extras are no steps. -/
def ofChildren (table : Grammar.Table) (production : Grammar.Production) (step : Nat)
    (inherited : Option String) : List Grammar.Tree → List Node
  | [] => []
  | tree :: trees =>
    if tree.isExtra then
      ofTree table none none tree ++ ofChildren table production step inherited trees
    else
      ofTree table (production.labels.getD step none)
        ((production.fields.getD step none).or inherited) tree
        ++ ofChildren table production (step + 1) inherited trees

end

end Node

/-- A node with the stretch of text it covers. -/
structure Placed where
  node : Node
  start : Position
  stop : Position
deriving Inhabited

namespace Placed

mutual

/-- The topmost nodes of a derivation tree with their places. -/
def ofTree (table : Grammar.Table) : Grammar.Tree → List Placed
  | .leaf lexeme =>
    (Node.ofTree table none none (.leaf lexeme)).map fun node => ⟨node, lexeme.start, lexeme.stop⟩
  | .node rule production weight start stop trees =>
    if ((table.rules.getD rule default).name).startsWith "_" then ofTrees table trees
    else
      (Node.ofTree table none none (.node rule production weight start stop trees)).map fun node =>
        ⟨node, start, stop⟩

/-- The topmost nodes of some derivation trees with their places, in order. -/
def ofTrees (table : Grammar.Table) : List Grammar.Tree → List Placed
  | [] => []
  | tree :: trees => ofTree table tree ++ ofTrees table trees

end

end Placed

end NotebookSlice.Syntax

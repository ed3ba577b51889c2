import NotebookSlice.Syntax.Node

/-!
# The names that a statement defines and uses

`Node.usage` walks a syntax tree and collects names: those that are defined, those that are used,
and, of the defined ones, those that are bound as plain names and so become local to a function or
class. Storing into a member or an element of a container, or calling one of its methods, defines
and uses the name of the container without binding it.

What a node contributes depends on the part that it plays (`Role`). A role and the kind of the node
give its reading (`Reading`), and the reading settles what the node contributes itself and which
roles its children play (`Reading.plan`). So the walk is one recursion over the tree that passes
roles down and joins names on the way up; the names of a node are the union of what its parts
contribute.
-/

namespace NotebookSlice.Syntax

/-- Collected names, in no particular order. -/
structure Usage where
  defs : List String := []
  uses : List String := []
  /-- The names bound as plain names. -/
  bound : List String := []
deriving Inhabited, Repr

namespace Usage

/-- All names of both. -/
def union (first second : Usage) : Usage where
  defs := first.defs ++ second.defs
  uses := first.uses ++ second.uses
  bound := first.bound ++ second.bound

instance : EmptyCollection Usage := ⟨{}⟩

instance : Union Usage := ⟨union⟩

/-- A plain name that is bound. -/
def binding (name : String) : Usage := { defs := [name], bound := [name] }

/-- A container that is changed in place. -/
def mutation (name : String) : Usage := { defs := [name], uses := [name] }

/-- What the body of a function or class contributes around it: the used names that it does not bind
itself. -/
def enclose (locals : List String) (body : Usage) : Usage where
  uses := body.uses.filter fun name => !(locals.contains name || body.bound.contains name)

end Usage

namespace Node

/-- The children that are more than keywords and operators. -/
def namedChildren (node : Node) : List Node := node.children.filter isNamed

mutual

/-- The identifiers in a pattern. -/
def patternNames : Node → List String
  | .mk .identifier _ text _ => [text]
  | .mk _ _ _ children => patternNamesOfAll children

/-- The identifiers in some patterns. -/
def patternNamesOfAll : List Node → List String
  | [] => []
  | child :: children =>
    (if child.isNamed then patternNames child else []) ++ patternNamesOfAll children

end

mutual

/-- The name at the root of a chain of attributes and subscripts. -/
def baseName : Node → Option String
  | .mk .identifier _ text _ => some text
  | .mk .attribute _ _ children => baseNameIn .object children
  | .mk .subscript _ _ children => baseNameIn .value children
  | _ => none

/-- The name at the root of the first child in a field. -/
def baseNameIn (field : Field) : List Node → Option String
  | [] => none
  | child :: children =>
    if child.field == some field then baseName child else baseNameIn field children

end

/-- The names of one parameter. -/
def parameterNames (parameter : Node) : List String :=
  match parameter.kind with
  | .identifier => [parameter.text]
  | .parameterPattern => parameter.patternNames
  | .richParameter =>
    parameter.namedChildren.flatMap fun child =>
      if child.field == some .typing || child.field == some .value then [] else child.patternNames
  | _ => []

/-- The names of the parameters in a list. -/
def parameterListNames (parameters : Node) : List String :=
  parameters.namedChildren.flatMap parameterNames

/-- The name that an imported item is bound to: its alias, or the first part of a dotted name. -/
def importedName (item : Node) : Option String :=
  match item.kind with
  | .aliasedImport => (item.childIn .renamed).map text
  | .dottedName => item.namedChildren.head?.map text
  | _ => none

end Node

/-- The part that a node plays in the node above it. -/
inductive Role where
  /-- A statement. -/
  | statement
  /-- A part of a compound statement: a block, a clause, or an expression in a heading. -/
  | part
  /-- A target that is assigned to. -/
  | target
  /-- An expression, under the names that are local to enclosing lambdas and comprehensions. -/
  | expression (locals : List String)
  /-- The `for` clause of a comprehension. -/
  | generator (locals : List String)
  /-- A list of parameters. -/
  | parameters
  /-- One parameter. -/
  | parameter
  | assignment
  | augmentedAssignment
deriving DecidableEq, Repr, Inhabited

/-- How a child is used: its role, and, for the body of a definition, the names local to it besides
those it binds. -/
structure Use where
  role : Role
  scope : Option (List String) := none
deriving DecidableEq, Repr, Inhabited

/-- What a node of some kind means in some role. -/
inductive Reading where
  /-- The node contributes nothing. -/
  | nothing
  /-- The node is a use of its own spelling. -/
  | name (locals : List String)
  /-- The node binds its own spelling. -/
  | boundName
  /-- All children play one role. -/
  | all (role : Role)
  /-- All children are parts, but the child in the alias field is a target. -/
  | compound
  /-- A statement made of assignments and expressions. -/
  | expressions
  | imports
  | function
  | classBody
  | decorated
  /-- A loop over a target. -/
  | loop
  /-- An exception handler. -/
  | handler
  | assignment
  | augmentedAssignment
  /-- A member or element that is assigned to. -/
  | memberTarget
  | elementTarget
  /-- An attribute that is read. -/
  | member (locals : List String)
  | call (locals : List String)
  | argument (locals : List String)
  | namedExpression (locals : List String)
  | lambda (locals : List String)
  | comprehension (locals : List String)
  | generator (locals : List String)
  | parameter
deriving DecidableEq, Repr, Inhabited

namespace Reading

/-- The reading of an expression. -/
def ofExpression (locals : List String) : Kind → Reading
  | .identifier => .name locals
  | .comment => .nothing
  | .attribute => .member locals
  | .call => .call locals
  | .keywordArgument => .argument locals
  | .namedExpression => .namedExpression locals
  | .lambda => .lambda locals
  | .comprehension => .comprehension locals
  | _ => .all (.expression locals)

/-- The reading of a statement. -/
def ofStatement : Kind → Reading
  | .expressionStatement => .expressions
  | .importStatement => .imports
  | .functionDefinition => .function
  | .classDefinition => .classBody
  | .decoratedDefinition => .decorated
  | .forStatement => .loop
  | .globalStatement | .nonlocalStatement | .comment => .nothing
  | _ => .compound

/-- The reading of a part of a compound statement. -/
def ofPart (kind : Kind) : Reading :=
  match kind with
  | .comment => .nothing
  | .block => .all .statement
  | .withItem | .asPattern | .clause | .forInClause => .compound
  | .exceptClause => .handler
  | kind => if kind.isStatement then ofStatement kind else ofExpression [] kind

/-- The reading of a target; one without named children is a name if it is an identifier or follows
`as`. -/
def ofTarget (kind : Kind) (isLeaf : Bool) : Reading :=
  match kind with
  | .identifier => .boundName
  | .asPatternTarget => if isLeaf then .boundName else .all .target
  | .attribute => .memberTarget
  | .subscript => .elementTarget
  | _ => .all .target

/-- The reading of a node in a role. -/
def of (role : Role) (node : Node) : Reading :=
  match role with
  | .statement => ofStatement node.kind
  | .part => ofPart node.kind
  | .target => ofTarget node.kind node.namedChildren.isEmpty
  | .expression locals => ofExpression locals node.kind
  | .generator locals => .generator locals
  | .parameters => .all .parameter
  | .parameter => if node.kind = .richParameter then .parameter else .nothing
  | .assignment => .assignment
  | .augmentedAssignment => .augmentedAssignment

/-- Uses for each child, by a rule that looks at one child; keywords and operators are not used. -/
def each (rule : Node → List Use) (children : List Node) : List (List Use) :=
  children.map fun child => if child.isNamed then rule child else []

/-- Uses the first child in a field, and no other. -/
def onlyIn (field : Field) (use : Use) : List Node → List (List Use)
  | [] => []
  | child :: children =>
    if child.field == some field then [use] :: children.map fun _ => []
    else [] :: onlyIn field use children

/-- The uses of the children of an exception handler: what follows `as` or a comma is a target. -/
def handlerPlan (afterAs : Bool) : List Node → List (List Use)
  | [] => []
  | child :: children =>
    if !child.isNamed then [] :: handlerPlan (child.text == "as" || child.text == ",") children
    else if afterAs then [⟨.target, none⟩] :: handlerPlan false children
    else [⟨.part, none⟩] :: handlerPlan false children

/-- The uses of the children of a function definition, the parameters before a child being local to
it. What a body binds is not carried on to the children after it: it would matter to another body
only, and no definition has two. -/
def functionPlan (locals : List String) : List Node → List (List Use)
  | [] => []
  | child :: children =>
    if !child.isNamed then [] :: functionPlan locals children
    else match child.field with
      | some .name => [] :: functionPlan locals children
      | some .parameters =>
        [⟨.parameters, none⟩] :: functionPlan (locals ++ child.parameterListNames) children
      | some .body => [⟨.part, some locals⟩] :: functionPlan locals children
      | _ => [⟨.expression [], none⟩] :: functionPlan locals children

/-- The uses of the children of a lambda: its parameters and its body. -/
def lambdaPlan (locals : List String) (children : List Node) : List (List Use) :=
  let own := match children.find? (·.field == some .parameters) with
    | some parameters => parameters.parameterListNames
    | none => []
  List.zipWith (· ++ ·) (onlyIn .parameters ⟨.parameters, none⟩ children)
    (onlyIn .body ⟨.expression (locals ++ own), none⟩ children)

/-- The names that the `for` clauses of a comprehension bind. -/
def generatorNames (children : List Node) : List String :=
  children.flatMap fun child =>
    if child.kind == .forInClause then
      match child.childIn .left with
      | some target => target.patternNames
      | none => []
    else []

/-- The uses of the children of a node with a reading. -/
def plan (reading : Reading) (children : List Node) : List (List Use) :=
  match reading with
  | .nothing | .name _ | .boundName | .imports => []
  | .all role => each (fun _ => [⟨role, none⟩]) children
  | .compound => each (fun child =>
      if child.field == some .renamed then [⟨.target, none⟩] else [⟨.part, none⟩]) children
  | .expressions => each (fun child =>
      match child.kind with
      | .assignment => [⟨.assignment, none⟩]
      | .augmentedAssignment => [⟨.augmentedAssignment, none⟩]
      | _ => [⟨.expression [], none⟩]) children
  | .function => functionPlan [] children
  | .classBody => each (fun child =>
      match child.field with
      | some .name => []
      | some .body => [⟨.part, some []⟩]
      | _ => [⟨.expression [], none⟩]) children
  | .decorated => each (fun child =>
      if child.kind == .decorator then [⟨.expression [], none⟩] else [⟨.statement, none⟩]) children
  | .loop => each (fun child =>
      if child.field == some .left then [⟨.target, none⟩] else [⟨.part, none⟩]) children
  | .handler => handlerPlan false children
  | .assignment => each (fun child =>
      match child.field with
      | some .left => [⟨.target, none⟩]
      | some .right =>
        if child.kind == .assignment then [⟨.assignment, none⟩] else [⟨.expression [], none⟩]
      | _ => [⟨.expression [], none⟩]) children
  | .augmentedAssignment => each (fun child =>
      if child.field == some .left then [⟨.expression [], none⟩, ⟨.target, none⟩]
      else [⟨.expression [], none⟩]) children
  | .memberTarget => onlyIn .object ⟨.expression [], none⟩ children
  | .elementTarget => each (fun _ => [⟨.expression [], none⟩]) children
  | .member locals => onlyIn .object ⟨.expression locals, none⟩ children
  | .call locals => each (fun _ => [⟨.expression locals, none⟩]) children
  | .argument locals => onlyIn .value ⟨.expression locals, none⟩ children
  | .namedExpression locals => onlyIn .value ⟨.expression locals, none⟩ children
  | .lambda locals => lambdaPlan locals children
  | .comprehension locals =>
    let inner := locals ++ generatorNames children
    each (fun child =>
      if child.kind == .forInClause then [⟨.generator inner, none⟩]
      else [⟨.expression inner, none⟩]) children
  | .generator locals => each (fun child =>
      if child.field == some .left then [] else [⟨.expression locals, none⟩]) children
  | .parameter => each (fun child =>
      if child.field == some .typing || child.field == some .value then [⟨.expression [], none⟩]
      else []) children

/-- A name in a field, as a binding. -/
def bindingIn (node : Node) (field : Field) : Usage :=
  match node.childIn field with
  | some child => Usage.binding child.text
  | none => ∅

/-- A container that a node changes in place, unless it is local. -/
def mutationOf (locals : List String) (base : Option String) : Usage :=
  match base with
  | some container => if locals.contains container then ∅ else Usage.mutation container
  | none => ∅

/-- What a node with a reading contributes itself. -/
def own (reading : Reading) (node : Node) : Usage :=
  match reading with
  | .name locals => if locals.contains node.text then ∅ else { uses := [node.text] }
  | .boundName => Usage.binding node.text
  | .imports =>
    (node.namedChildren.filterMap fun child =>
      if child.field == some .name then child.importedName else none).foldr
        (fun imported usage => Usage.binding imported ∪ usage) ∅
  | .function | .classBody | .namedExpression _ => bindingIn node .name
  | .memberTarget | .elementTarget => mutationOf [] node.baseName
  | .call locals =>
    match node.childIn .function with
    | some callee => if callee.kind == .attribute then mutationOf locals callee.baseName else ∅
    | none => ∅
  | _ => ∅

end Reading

namespace Use

/-- What a use makes of the names of a child. -/
def apply (use : Use) (usage : Usage) : Usage :=
  match use.scope with
  | none => usage
  | some locals => usage.enclose locals

end Use

namespace Node

mutual

/-- The names that a node contributes in a role. -/
def usage (role : Role) : Node → Usage
  | .mk kind field text children =>
    let node := Node.mk kind field text children
    let reading := Reading.of role node
    reading.own node ∪ usageOfAll (reading.plan children) children

/-- The names that children contribute, each by its uses. -/
def usageOfAll : List (List Use) → List Node → Usage
  | uses :: plan, child :: children =>
    uses.foldr (fun use usage => use.apply (Node.usage use.role child) ∪ usage)
      (usageOfAll plan children)
  | _, _ => ∅

end

end Node

end NotebookSlice.Syntax

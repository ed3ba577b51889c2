import Mathlib.Data.List.Induction
import NotebookSlice.Facts.Usage

/-!
# Parts of syntax trees

What the analysis takes the parts of a construct for: `Part` has one rule for each kind of part that
a construct has in its own scope, and `Body` says what is the body of a function or of a class,
which has a scope of its own. The walk that collects names visits exactly these parts. It is an
algorithm on lists of children, so this file follows each of the ways in which it assigns roles to
them and compares the outcome with the rules.

The rules are those of the analysis, and not in every case those of the language. So all iterables
of a comprehension are read with its targets as local names, although the language evaluates the
first one outside, and the defaults of a lambda are read without the local names around it, although
the language evaluates them among these.
-/

namespace NotebookSlice.Syntax

namespace Kind

/-- A part of a compound statement that is neither a statement nor an expression. -/
def isClause : Kind → Bool
  | .block | .withItem | .asPattern | .clause | .forInClause | .exceptClause => true
  | _ => false

/-- What a part of a compound statement is taken as if it is no clause. -/
def partRole (kind : Kind) : Role := if kind.isStatement then .statement else .expression []

theorem partRole_ne_part (kind : Kind) : kind.partRole ≠ .part := by
  rw [partRole]
  split <;> simp

/-- Nodes of the kind are statements with parts of any number; only what follows `as` is a
target. -/
def isCompound : Kind → Bool
  | .expressionStatement | .importStatement | .functionDefinition | .classDefinition
  | .decoratedDefinition | .forStatement | .globalStatement | .nonlocalStatement | .comment => false
  | _ => true

/-- Nodes of the kind, taken as expressions, have all of their children as operands. -/
def isOperation : Kind → Bool
  | .identifier | .comment | .attribute | .keywordArgument | .namedExpression | .lambda
  | .comprehension => false
  | _ => true

end Kind

namespace Role

/-- Nodes that play the role are evaluated, and not assigned to. -/
def isEvaluated : Role → Bool
  | .expression _ | .generator _ | .parameters | .parameter => true
  | _ => false

end Role

namespace Node

theorem induction {motive : Node → Prop}
    (step : ∀ node : Node, (∀ child ∈ node.children, motive child) → motive node) :
    ∀ node, motive node
  | .mk kind field text children => step (.mk kind field text children) fun child member =>
      have smaller : sizeOf child < sizeOf (Node.mk kind field text children) :=
        Nat.lt_of_lt_of_le (List.sizeOf_lt_of_mem (show child ∈ children from member)) (by simp)
      induction step child
termination_by node => sizeOf node
decreasing_by exact smaller

theorem mem_namedChildren {node child : Node} :
    child ∈ node.namedChildren ↔ child ∈ node.children ∧ child.isNamed = true := by
  simp [namedChildren]

/-- The parameters that stand in some lists of parameters. -/
def parametersAmong (nodes : List Node) : List String :=
  (nodes.filter fun child => child.isNamed && child.field == some .parameters).flatMap
    parameterListNames

theorem parametersAmong_cons (first : Node) (nodes : List Node) :
    parametersAmong (first :: nodes) = parametersAmong [first] ++ parametersAmong nodes := by
  rw [parametersAmong, parametersAmong, parametersAmong, ← List.flatMap_append,
    ← List.filter_append]
  rfl

/-- The parameters of a lambda. -/
def lambdaParameters (node : Node) : List String :=
  match node.childIn .parameters with
  | some parameters => parameters.parameterListNames
  | none => []

end Node

/-- The last of the siblings before a child is the word `as`, or a comma. -/
def FollowsAs (siblings : List Node) : Prop :=
  ∃ sign ∈ siblings.getLast?, sign.isNamed = false ∧ (sign.text = "as" ∨ sign.text = ",")

/-- `Part role node partRole part`: a node that plays a role evaluates a part in its own scope, as
what the role of the part says. -/
inductive Part : Role → Node → Role → Node → Prop
  -- Statements
  | assignment {node part : Node} (kind : node.kind = .expressionStatement)
      (member : part ∈ node.namedChildren) (isAssignment : part.kind = .assignment) :
      Part .statement node .assignment part
  | update {node part : Node} (kind : node.kind = .expressionStatement)
      (member : part ∈ node.namedChildren) (isUpdate : part.kind = .augmentedAssignment) :
      Part .statement node .augmentedAssignment part
  | evaluated {node part : Node} (kind : node.kind = .expressionStatement)
      (member : part ∈ node.namedChildren) (noAssignment : part.kind ≠ .assignment)
      (noUpdate : part.kind ≠ .augmentedAssignment) :
      Part .statement node (.expression []) part
  | parameters {node part : Node} (kind : node.kind = .functionDefinition)
      (member : part ∈ node.namedChildren) (field : part.field = some .parameters) :
      Part .statement node .parameters part
  | heading {node part : Node} (kind : node.kind = .functionDefinition)
      (member : part ∈ node.namedChildren) (noName : part.field ≠ some .name)
      (noParameters : part.field ≠ some .parameters) (noBody : part.field ≠ some .body) :
      Part .statement node (.expression []) part
  | base {node part : Node} (kind : node.kind = .classDefinition)
      (member : part ∈ node.namedChildren) (noName : part.field ≠ some .name)
      (noBody : part.field ≠ some .body) :
      Part .statement node (.expression []) part
  | decorator {node part : Node} (kind : node.kind = .decoratedDefinition)
      (member : part ∈ node.namedChildren) (isDecorator : part.kind = .decorator) :
      Part .statement node (.expression []) part
  | decorated {node part : Node} (kind : node.kind = .decoratedDefinition)
      (member : part ∈ node.namedChildren) (noDecorator : part.kind ≠ .decorator) :
      Part .statement node .statement part
  | loopTarget {node part : Node} (kind : node.kind = .forStatement)
      (member : part ∈ node.namedChildren) (field : part.field = some .left) :
      Part .statement node .target part
  | loopPart {node part : Node} (kind : node.kind = .forStatement)
      (member : part ∈ node.namedChildren) (noTarget : part.field ≠ some .left) :
      Part .statement node .part part
  | compoundTarget {node part : Node} (kind : node.kind.isCompound = true)
      (member : part ∈ node.namedChildren) (field : part.field = some .renamed) :
      Part .statement node .target part
  | compoundPart {node part : Node} (kind : node.kind.isCompound = true)
      (member : part ∈ node.namedChildren) (noTarget : part.field ≠ some .renamed) :
      Part .statement node .part part
  -- Parts of compound statements
  | itself {node : Node} (noClause : node.kind.isClause = false) :
      Part .part node node.kind.partRole node
  | inBlock {node part : Node} (kind : node.kind = .block) (member : part ∈ node.namedChildren) :
      Part .part node .statement part
  | caught {node part : Node} {before after : List Node} (kind : node.kind = .exceptClause)
      (children : node.children = before ++ part :: after) (named : part.isNamed = true)
      (follows : FollowsAs before) : Part .part node .target part
  | handlerPart {node part : Node} {before after : List Node} (kind : node.kind = .exceptClause)
      (children : node.children = before ++ part :: after) (named : part.isNamed = true)
      (noTarget : ¬FollowsAs before) : Part .part node .part part
  | clauseTarget {node part : Node}
      (kind : node.kind ∈ [.withItem, .asPattern, .clause, .forInClause])
      (member : part ∈ node.namedChildren) (field : part.field = some .renamed) :
      Part .part node .target part
  | clausePart {node part : Node}
      (kind : node.kind ∈ [.withItem, .asPattern, .clause, .forInClause])
      (member : part ∈ node.namedChildren) (noTarget : part.field ≠ some .renamed) :
      Part .part node .part part
  -- Assignments
  | assignmentTarget {node part : Node} (member : part ∈ node.namedChildren)
      (field : part.field = some .left) :
      Part .assignment node .target part
  | assignmentChain {node part : Node} (member : part ∈ node.namedChildren)
      (field : part.field = some .right) (isAssignment : part.kind = .assignment) :
      Part .assignment node .assignment part
  | assignmentValue {node part : Node} (member : part ∈ node.namedChildren)
      (noTarget : part.field ≠ some .left)
      (noChain : part.field = some .right → part.kind ≠ .assignment) :
      Part .assignment node (.expression []) part
  | updateTarget {node part : Node} (member : part ∈ node.namedChildren)
      (field : part.field = some .left) :
      Part .augmentedAssignment node .target part
  | updateValue {node part : Node} (member : part ∈ node.namedChildren) :
      Part .augmentedAssignment node (.expression []) part
  -- Targets
  | memberObject {node part : Node} (kind : node.kind = .attribute)
      (found : node.childIn .object = some part) :
      Part .target node (.expression []) part
  | elementPart {node part : Node} (kind : node.kind = .subscript)
      (member : part ∈ node.namedChildren) :
      Part .target node (.expression []) part
  | targetPart {node part : Node} (noName : node.kind ≠ .identifier)
      (noMember : node.kind ≠ .attribute) (noElement : node.kind ≠ .subscript)
      (member : part ∈ node.namedChildren) : Part .target node .target part
  -- Expressions
  | operand {node part : Node} {locals : List String} (kind : node.kind.isOperation = true)
      (member : part ∈ node.namedChildren) :
      Part (.expression locals) node (.expression locals) part
  | object {node part : Node} {locals : List String} (kind : node.kind = .attribute)
      (found : node.childIn .object = some part) :
      Part (.expression locals) node (.expression locals) part
  | value {node part : Node} {locals : List String}
      (kind : node.kind = .keywordArgument ∨ node.kind = .namedExpression)
      (found : node.childIn .value = some part) :
      Part (.expression locals) node (.expression locals) part
  | lambdaParameters {node part : Node} {locals : List String} (kind : node.kind = .lambda)
      (found : node.childIn .parameters = some part) :
      Part (.expression locals) node .parameters part
  | lambdaBody {node part : Node} {locals : List String} (kind : node.kind = .lambda)
      (found : node.childIn .body = some part) :
      Part (.expression locals) node (.expression (locals ++ node.lambdaParameters)) part
  | generator {node part : Node} {locals : List String} (kind : node.kind = .comprehension)
      (member : part ∈ node.namedChildren) (isGenerator : part.kind = .forInClause) :
      Part (.expression locals) node
        (.generator (locals ++ Reading.generatorNames node.children)) part
  | element {node part : Node} {locals : List String} (kind : node.kind = .comprehension)
      (member : part ∈ node.namedChildren) (noGenerator : part.kind ≠ .forInClause) :
      Part (.expression locals) node
        (.expression (locals ++ Reading.generatorNames node.children)) part
  | iterable {node part : Node} {locals : List String} (member : part ∈ node.namedChildren)
      (noTarget : part.field ≠ some .left) : Part (.generator locals) node (.expression locals) part
  -- Parameters
  | parameter {node part : Node} (member : part ∈ node.namedChildren) :
      Part .parameters node .parameter part
  | default {node part : Node} (kind : node.kind = .richParameter)
      (member : part ∈ node.namedChildren)
      (field : part.field = some .typing ∨ part.field = some .value) :
      Part .parameter node (.expression []) part

theorem Part.isEvaluated {role partRole : Role} {node part : Node}
    (isPart : Part role node partRole part) (evaluated : role.isEvaluated = true) :
    partRole.isEvaluated = true := by
  cases isPart <;> first | rfl | simp [Role.isEvaluated] at evaluated

/-- `Body node locals body`: the statement is the definition of a function or of a class with the
given body, in which some names are local besides those that it binds. -/
inductive Body : Node → List String → Node → Prop
  | function {node body : Node} {before after : List Node} (kind : node.kind = .functionDefinition)
      (children : node.children = before ++ body :: after) (named : body.isNamed = true)
      (field : body.field = some .body) : Body node (Node.parametersAmong before) body
  | inClass {node body : Node} (kind : node.kind = .classDefinition)
      (member : body ∈ node.namedChildren) (field : body.field = some .body) : Body node [] body

/-! ### Planned uses -/

/-- Some plan for the uses of children provides for the use of a child. -/
def Planned (plan : List (List Use)) (children : List Node) (use : Use) (child : Node) : Prop :=
  ∃ uses, (uses, child) ∈ plan.zip children ∧ use ∈ uses

namespace Planned

variable {plan other : List (List Use)} {children : List Node} {uses : List Use} {use : Use}
  {first child : Node}

theorem mem (planned : Planned plan children use child) : child ∈ children := by
  rcases planned with ⟨_, member, _⟩
  exact (List.of_mem_zip member).2

@[simp] theorem nil_left : ¬Planned [] children use child := by simp [Planned]

@[simp] theorem nil_right : ¬Planned plan [] use child := by simp [Planned]

@[simp] theorem cons : Planned (uses :: plan) (first :: children) use child ↔
    (use ∈ uses ∧ child = first) ∨ Planned plan children use child := by
  simp only [Planned, List.zip_cons_cons, List.mem_cons, Prod.mk.injEq]
  constructor
  · rintro ⟨_, ⟨rfl, rfl⟩ | member, isUsed⟩
    · exact Or.inl ⟨isUsed, rfl⟩
    · exact Or.inr ⟨_, member, isUsed⟩
  · rintro (⟨isUsed, rfl⟩ | ⟨_, member, isUsed⟩)
    · exact ⟨_, Or.inl ⟨rfl, rfl⟩, isUsed⟩
    · exact ⟨_, Or.inr member, isUsed⟩

theorem each_iff (rule : Node → List Use) :
    Planned (Reading.each rule children) children use child ↔
      child ∈ children ∧ child.isNamed = true ∧ use ∈ rule child := by
  induction children with
  | nil => simp [Reading.each]
  | cons first children ih =>
      have tail : Planned (children.map fun child => if child.isNamed then rule child else [])
          children use child ↔
        child ∈ children ∧ child.isNamed = true ∧ use ∈ rule child := ih
      simp only [Reading.each, List.map_cons, cons, tail, List.mem_cons]
      cases named : first.isNamed <;> grind

theorem map_nil : ¬Planned (children.map fun _ => []) children use child := by
  induction children with
  | nil => simp
  | cons first children ih => simpa using ih

theorem onlyIn_iff (field : Field) (single : Use) :
    Planned (Reading.onlyIn field single children) children use child ↔
      use = single ∧ children.find? (·.field == some field) = some child := by
  induction children with
  | nil => simp
  | cons first children ih =>
      rw [Reading.onlyIn, List.find?_cons]
      cases first.field == some field
      · simp [ih]
      · simp only [if_true, cons, map_nil, or_false, List.mem_singleton, Option.some.injEq, eq_comm]

theorem zipWith_append (sameLength : plan.length = children.length)
    (otherLength : other.length = children.length) :
    Planned (List.zipWith (· ++ ·) plan other) children use child ↔
      Planned plan children use child ∨ Planned other children use child := by
  induction children generalizing plan other with
  | nil => simp
  | cons first children ih =>
      cases plan with
      | nil => simp at sameLength
      | cons uses plan =>
          cases other with
          | nil => simp at otherLength
          | cons others other =>
              simp only [List.length_cons, Nat.add_right_cancel_iff] at sameLength otherLength
              simp only [List.zipWith_cons_cons, cons, ih sameLength otherLength, List.mem_append]
              grind

/-- A plan that carries a state along from left to right. -/
def carry {σ : Type} (rule : σ → Node → List Use) (next : σ → Node → σ) (state : σ) :
    List Node → List (List Use)
  | [] => []
  | child :: children => rule state child :: carry rule next (next state child) children

theorem carry_iff {σ : Type} (rule : σ → Node → List Use) (next : σ → Node → σ) (state : σ) :
    Planned (carry rule next state children) children use child ↔
      ∃ before after, children = before ++ child :: after ∧
        use ∈ rule (before.foldl next state) child := by
  induction children generalizing state with
  | nil => simp
  | cons first children ih =>
      rw [carry, cons, ih]
      constructor
      · rintro (⟨isUsed, rfl⟩ | ⟨before, after, rfl, isUsed⟩)
        · exact ⟨[], children, rfl, isUsed⟩
        · exact ⟨first :: before, after, rfl, isUsed⟩
      · rintro ⟨before, after, split, isUsed⟩
        cases before with
        | nil =>
            simp only [List.nil_append, List.cons.injEq] at split
            rcases split with ⟨rfl, rfl⟩
            exact Or.inl ⟨isUsed, rfl⟩
        | cons head before =>
            simp only [List.cons_append, List.cons.injEq] at split
            rcases split with ⟨rfl, split⟩
            exact Or.inr ⟨before, after, split, isUsed⟩

end Planned

namespace Reading

/-- What a child of an exception handler is used as. -/
def handlerUses (afterAs : Bool) (child : Node) : List Use :=
  if child.isNamed then [⟨if afterAs then .target else .part, none⟩] else []

/-- Whether a target may follow a child of an exception handler. -/
def isAs (child : Node) : Bool := !child.isNamed && (child.text == "as" || child.text == ",")

theorem handlerPlan_eq_carry (afterAs : Bool) (children : List Node) :
    handlerPlan afterAs children =
      Planned.carry handlerUses (fun _ child => isAs child) afterAs children := by
  induction children generalizing afterAs with
  | nil => rfl
  | cons child children ih =>
      cases named : child.isNamed <;> cases afterAs <;>
        simp [handlerPlan, Planned.carry, handlerUses, isAs, named, ih]

theorem foldl_isAs (before : List Node) :
    before.foldl (fun _ child => isAs child) false = true ↔ FollowsAs before := by
  cases before using List.reverseRecOn with
  | nil => simp [FollowsAs]
  | append_singleton before last => simp [FollowsAs, isAs]

/-- What a child of a function definition is used as, if some parameters stand before it. -/
def functionUses (locals : List String) (child : Node) : List Use :=
  if child.isNamed then
    match child.field with
    | some .name => []
    | some .parameters => [⟨.parameters, none⟩]
    | some .body => [⟨.part, some locals⟩]
    | _ => [⟨.expression [], none⟩]
  else []

theorem functionPlan_eq_carry (locals : List String) (children : List Node) :
    functionPlan locals children =
      Planned.carry functionUses (fun locals child => locals ++ Node.parametersAmong [child]) locals
        children := by
  induction children generalizing locals with
  | nil => rfl
  | cons child children ih =>
      rw [functionPlan, Planned.carry, functionUses, ← ih]
      cases named : child.isNamed with
      | false => simp [Node.parametersAmong, named]
      | true =>
          cases found : child.field with
          | none => simp [Node.parametersAmong, named, found]
          | some field => cases field <;> simp [Node.parametersAmong, named, found]

theorem foldl_parametersAmong (locals : List String) (before : List Node) :
    before.foldl (fun locals child => locals ++ Node.parametersAmong [child]) locals =
      locals ++ Node.parametersAmong before := by
  induction before generalizing locals with
  | nil => simp [Node.parametersAmong]
  | cons first before ih => simp [ih, Node.parametersAmong_cons first before]

theorem ofStatement_of_isCompound {kind : Kind} (compound : kind.isCompound = true) :
    ofStatement kind = .compound := by
  cases kind <;> first | rfl | simp [Kind.isCompound] at compound

theorem plan_ofExpression_of_isOperation {kind : Kind} (operation : kind.isOperation = true)
    (locals : List String) (children : List Node) :
    (ofExpression locals kind).plan children =
      each (fun _ => [⟨.expression locals, none⟩]) children := by
  cases kind <;> first | rfl | simp [Kind.isOperation] at operation

theorem of_part_of_not_isClause {node : Node} (noClause : node.kind.isClause = false) :
    of .part node = of node.kind.partRole node := by
  simp only [of, ofPart, Kind.partRole]
  cases kind : node.kind <;> simp_all [Kind.isStatement, Kind.isClause, ofExpression]

theorem of_part_of_mem {node : Node}
    (kind : node.kind ∈ [Kind.withItem, .asPattern, .clause, .forInClause]) :
    of .part node = .compound := by
  simp only [List.mem_cons, List.not_mem_nil, or_false] at kind
  rcases kind with kind | kind | kind | kind <;> rw [of, kind] <;> rfl

theorem of_target {node : Node} (noName : node.kind ≠ .identifier)
    (noMember : node.kind ≠ .attribute) (noElement : node.kind ≠ .subscript)
    (noLeaf : ¬(node.kind = .asPatternTarget ∧ node.namedChildren.isEmpty = true)) :
    of .target node = .all .target := by
  simp only [of]
  cases kind : node.kind <;> first | rfl | contradiction | simp_all [ofTarget]

theorem length_onlyIn (field : Field) (use : Use) (children : List Node) :
    (onlyIn field use children).length = children.length := by
  induction children with
  | nil => rfl
  | cons child children ih =>
      rw [onlyIn]
      split <;> simp [ih]

end Reading

/-! ### The rules and the walk -/

/-- The walk uses a child of a node that plays a role. -/
def Visits (role : Role) (node : Node) (use : Use) (child : Node) : Prop :=
  Planned ((Reading.of role node).plan node.children) node.children use child

namespace Visits

variable {role partRole : Role} {node part : Node} {use : Use}

theorem each {reading : Reading} {rule : Node → List Use} (visits : Visits role node use part)
    (reads : Reading.of role node = reading)
    (plan : reading.plan node.children = Reading.each rule node.children) :
    part ∈ node.namedChildren ∧ use ∈ rule part := by
  rw [Visits, reads, plan, Planned.each_iff] at visits
  exact ⟨Node.mem_namedChildren.mpr ⟨visits.1, visits.2.1⟩, visits.2.2⟩

theorem of_each {reading : Reading} {rule : Node → List Use} (member : part ∈ node.namedChildren)
    (reads : Reading.of role node = reading)
    (plan : reading.plan node.children = Reading.each rule node.children)
    (isUsed : use ∈ rule part) : Visits role node use part := by
  rw [Visits, reads, plan, Planned.each_iff]
  exact ⟨(Node.mem_namedChildren.mp member).1, (Node.mem_namedChildren.mp member).2, isUsed⟩

theorem onlyIn {reading : Reading} {field : Field} {single : Use}
    (visits : Visits role node use part) (reads : Reading.of role node = reading)
    (plan : reading.plan node.children = Reading.onlyIn field single node.children) :
    use = single ∧ node.childIn field = some part := by
  rw [Visits, reads, plan, Planned.onlyIn_iff] at visits
  exact visits

theorem of_onlyIn {reading : Reading} {field : Field} (found : node.childIn field = some part)
    (reads : Reading.of role node = reading)
    (plan : reading.plan node.children = Reading.onlyIn field use node.children) :
    Visits role node use part := by
  rw [Visits, reads, plan, Planned.onlyIn_iff]
  exact ⟨rfl, found⟩

theorem not_of_plan_eq_nil {reading : Reading} (reads : Reading.of role node = reading)
    (plan : reading.plan node.children = []) : ¬Visits role node use part := by
  rw [Visits, reads, plan]
  exact Planned.nil_left

theorem function_iff (kind : node.kind = .functionDefinition) :
    Visits .statement node use part ↔ ∃ before after, node.children = before ++ part :: after ∧
      use ∈ Reading.functionUses (Node.parametersAmong before) part := by
  rw [Visits, Reading.of, kind, Reading.ofStatement, Reading.plan, Reading.functionPlan_eq_carry,
    Planned.carry_iff]
  simp only [Reading.foldl_parametersAmong, List.nil_append]

theorem of_function {before after : List Node} (kind : node.kind = .functionDefinition)
    (children : node.children = before ++ part :: after)
    (isUsed : use ∈ Reading.functionUses (Node.parametersAmong before) part) :
    Visits .statement node use part :=
  (function_iff kind).mpr ⟨before, after, children, isUsed⟩

theorem handler_iff (kind : node.kind = .exceptClause) :
    Visits .part node use part ↔ ∃ before after, node.children = before ++ part :: after ∧
      use ∈ Reading.handlerUses (before.foldl (fun _ child => Reading.isAs child) false) part := by
  rw [Visits, Reading.of, kind, Reading.ofPart, Reading.plan, Reading.handlerPlan_eq_carry,
    Planned.carry_iff]

theorem of_handler {before after : List Node} (kind : node.kind = .exceptClause)
    (children : node.children = before ++ part :: after)
    (isUsed : use ∈
      Reading.handlerUses (before.foldl (fun _ child => Reading.isAs child) false) part) :
    Visits .part node use part :=
  (handler_iff kind).mpr ⟨before, after, children, isUsed⟩

theorem lambda_iff {locals : List String} (kind : node.kind = .lambda) :
    Visits (.expression locals) node use part ↔
      use = ⟨.parameters, none⟩ ∧ node.childIn .parameters = some part ∨
        use = ⟨.expression (locals ++ node.lambdaParameters), none⟩ ∧
          node.childIn .body = some part := by
  rw [Visits, Reading.of, kind, Reading.ofExpression, Reading.plan, Reading.lambdaPlan,
    Planned.zipWith_append (Reading.length_onlyIn _ _ _) (Reading.length_onlyIn _ _ _),
    Planned.onlyIn_iff, Planned.onlyIn_iff]
  rfl

end Visits

/-- The walk visits each part, except that a statement or an expression in a compound statement is
visited in its place. -/
theorem Part.visits {role partRole : Role} {node part : Node}
    (isPart : Part role node partRole part) (direct : role = .part → node.kind.isClause = true) :
    Visits role node ⟨partRole, none⟩ part := by
  cases isPart with
  | assignment kind member isAssignment =>
      exact .of_each member (by rw [Reading.of, kind]) rfl (by simp [isAssignment])
  | update kind member isUpdate =>
      exact .of_each member (by rw [Reading.of, kind]) rfl (by simp [isUpdate])
  | evaluated kind member noAssignment noUpdate =>
      refine .of_each member (by rw [Reading.of, kind]) rfl ?_
      split <;> simp_all
  | parameters kind member field =>
      have named := (Node.mem_namedChildren.mp member).2
      rcases List.append_of_mem (Node.mem_namedChildren.mp member).1 with ⟨before, after, children⟩
      exact .of_function kind children (by simp [Reading.functionUses, named, field])
  | heading kind member noName noParameters noBody =>
      have named := (Node.mem_namedChildren.mp member).2
      rcases List.append_of_mem (Node.mem_namedChildren.mp member).1 with ⟨before, after, children⟩
      exact .of_function kind children (by simp [Reading.functionUses, named])
  | base kind member noName noBody =>
      refine .of_each member (by rw [Reading.of, kind]) rfl ?_
      split <;> simp_all
  | decorator kind member isDecorator =>
      exact .of_each member (by rw [Reading.of, kind]) rfl (by simp [isDecorator])
  | decorated kind member noDecorator =>
      exact .of_each member (by rw [Reading.of, kind]) rfl (by simp [noDecorator])
  | loopTarget kind member field =>
      exact .of_each member (by rw [Reading.of, kind]) rfl (by simp [field])
  | loopPart kind member noTarget =>
      exact .of_each member (by rw [Reading.of, kind]) rfl (by simp [noTarget])
  | compoundTarget kind member field =>
      exact .of_each member (Reading.ofStatement_of_isCompound kind) rfl (by simp [field])
  | compoundPart kind member noTarget =>
      exact .of_each member (Reading.ofStatement_of_isCompound kind) rfl (by simp [noTarget])
  | itself noClause => simp [noClause] at direct
  | inBlock kind member =>
      exact .of_each member (by rw [Reading.of, kind]) rfl (by simp)
  | caught kind children named follows =>
      exact .of_handler kind children
        (by simp [Reading.handlerUses, named, Reading.foldl_isAs, follows])
  | handlerPart kind children named noTarget =>
      exact .of_handler kind children
        (by simp [Reading.handlerUses, named, Reading.foldl_isAs, noTarget])
  | clauseTarget kind member field =>
      exact .of_each member (Reading.of_part_of_mem kind) rfl (by simp [field])
  | clausePart kind member noTarget =>
      exact .of_each member (Reading.of_part_of_mem kind) rfl (by simp [noTarget])
  | assignmentTarget member field => exact .of_each member rfl rfl (by simp [field])
  | assignmentChain member field isAssignment =>
      exact .of_each member rfl rfl (by simp [field, isAssignment])
  | assignmentValue member noTarget noChain =>
      refine .of_each member rfl rfl ?_
      split <;> simp_all
  | updateTarget member field => exact .of_each member rfl rfl (by simp [field])
  | updateValue member =>
      refine .of_each member rfl rfl ?_
      split <;> simp
  | memberObject kind found => exact .of_onlyIn found (by rw [Reading.of, kind]) rfl
  | elementPart kind member => exact .of_each member (by rw [Reading.of, kind]) rfl (by simp)
  | targetPart noName noMember noElement member =>
      have noLeaf : ¬(node.kind = .asPatternTarget ∧ node.namedChildren.isEmpty = true) := by
        rintro ⟨_, leaf⟩
        simp [List.isEmpty_iff.mp leaf] at member
      exact .of_each member (Reading.of_target noName noMember noElement noLeaf) rfl (by simp)
  | operand kind member =>
      exact .of_each member rfl (Reading.plan_ofExpression_of_isOperation kind _ _) (by simp)
  | object kind found => exact .of_onlyIn found (by rw [Reading.of, kind]) rfl
  | value kind found =>
      rcases kind with kind | kind
      · exact .of_onlyIn found (by rw [Reading.of, kind]) rfl
      · exact .of_onlyIn found (by rw [Reading.of, kind]) rfl
  | lambdaParameters kind found => exact (Visits.lambda_iff kind).mpr (Or.inl ⟨rfl, found⟩)
  | lambdaBody kind found => exact (Visits.lambda_iff kind).mpr (Or.inr ⟨rfl, found⟩)
  | generator kind member isGenerator =>
      exact .of_each member (by rw [Reading.of, kind]) rfl (by simp [isGenerator])
  | element kind member noGenerator =>
      exact .of_each member (by rw [Reading.of, kind]) rfl (by simp [noGenerator])
  | iterable member noTarget => exact .of_each member rfl rfl (by simp [noTarget])
  | parameter member => exact .of_each member rfl rfl (by simp)
  | default kind member field =>
      exact .of_each member (by rw [Reading.of, kind]) rfl (by simpa using field)

theorem Body.visits {node body : Node} {locals : List String} (isBody : Body node locals body) :
    Visits .statement node ⟨.part, some locals⟩ body := by
  cases isBody with
  | function kind children named field =>
      exact .of_function kind children (by simp [Reading.functionUses, named, field])
  | inClass kind member field =>
      exact .of_each member (by rw [Reading.of, kind]) rfl (by simp [field])

namespace Visits

variable {node part : Node} {use : Use}

/-- What the walk visits for a node in a role is a part, or else the body of a definition. -/
def Sound (role : Role) (node : Node) (use : Use) (part : Node) : Prop :=
  use.scope = none ∧ Part role node use.role part ∨
    role = .statement ∧ ∃ locals, use = ⟨.part, some locals⟩ ∧ Body node locals part

theorem sound_of_part {role partRole : Role} (isUsed : use ∈ [⟨partRole, none⟩])
    (isPart : Part role node partRole part) : Sound role node use part := by
  rcases List.mem_singleton.mp isUsed with rfl
  exact Or.inl ⟨rfl, isPart⟩

theorem statement_sound (visits : Visits .statement node use part) :
    Sound .statement node use part := by
  cases compound : node.kind.isCompound with
  | true =>
      rcases visits.each (Reading.ofStatement_of_isCompound compound) rfl with ⟨member, isUsed⟩
      split at isUsed
      · next field =>
        exact sound_of_part isUsed (.compoundTarget compound member (by simpa using field))
      · next field =>
        exact sound_of_part isUsed (.compoundPart compound member (by simpa using field))
  | false =>
      cases kind : node.kind with
      | expressionStatement =>
          rcases visits.each (by rw [Reading.of, kind]) rfl with ⟨member, isUsed⟩
          split at isUsed
          · next isAssignment => exact sound_of_part isUsed (.assignment kind member isAssignment)
          · next isUpdate => exact sound_of_part isUsed (.update kind member isUpdate)
          · next noAssignment noUpdate =>
            exact sound_of_part isUsed (.evaluated kind member noAssignment noUpdate)
      | functionDefinition =>
          rcases (function_iff kind).mp visits with ⟨before, after, children, isUsed⟩
          rw [Reading.functionUses] at isUsed
          split at isUsed
          · next named =>
            have member : part ∈ node.namedChildren :=
              Node.mem_namedChildren.mpr ⟨by simp [children], named⟩
            split at isUsed
            · simp at isUsed
            · next field => exact sound_of_part isUsed (.parameters kind member field)
            · next field =>
              exact Or.inr
                ⟨rfl, _, List.mem_singleton.mp isUsed, .function kind children named field⟩
            · next noName noParameters noBody =>
              exact sound_of_part isUsed (.heading kind member noName noParameters noBody)
          · simp at isUsed
      | classDefinition =>
          rcases visits.each (by rw [Reading.of, kind]) rfl with ⟨member, isUsed⟩
          split at isUsed
          · simp at isUsed
          · next field =>
            exact Or.inr ⟨rfl, _, List.mem_singleton.mp isUsed, .inClass kind member field⟩
          · next noName noBody => exact sound_of_part isUsed (.base kind member noName noBody)
      | decoratedDefinition =>
          rcases visits.each (by rw [Reading.of, kind]) rfl with ⟨member, isUsed⟩
          split at isUsed
          · next isDecorator =>
            exact sound_of_part isUsed (.decorator kind member (by simpa using isDecorator))
          · next noDecorator =>
            exact sound_of_part isUsed (.decorated kind member (by simpa using noDecorator))
      | forStatement =>
          rcases visits.each (by rw [Reading.of, kind]) rfl with ⟨member, isUsed⟩
          split at isUsed
          · next field =>
            exact sound_of_part isUsed (.loopTarget kind member (by simpa using field))
          · next noTarget =>
            exact sound_of_part isUsed (.loopPart kind member (by simpa using noTarget))
      | importStatement | globalStatement | nonlocalStatement | comment =>
          exact absurd visits (not_of_plan_eq_nil (by rw [Reading.of, kind]) rfl)
      | _ => simp [kind, Kind.isCompound] at compound

theorem part_sound (visits : Visits .part node use part) (clause : node.kind.isClause = true) :
    Sound .part node use part := by
  cases kind : node.kind with
  | block =>
      rcases visits.each (by rw [Reading.of, kind]) rfl with ⟨member, isUsed⟩
      exact sound_of_part isUsed (.inBlock kind member)
  | exceptClause =>
      rcases (handler_iff kind).mp visits with ⟨before, after, children, isUsed⟩
      rw [Reading.handlerUses] at isUsed
      split at isUsed
      · next named =>
        split at isUsed
        · next follows =>
          exact sound_of_part isUsed
            (.caught kind children named ((Reading.foldl_isAs before).mp follows))
        · next noTarget =>
          exact sound_of_part isUsed
            (.handlerPart kind children named (mt (Reading.foldl_isAs before).mpr noTarget))
      · simp at isUsed
  | withItem | asPattern | clause | forInClause =>
      have kind : node.kind ∈ [Kind.withItem, .asPattern, .clause, .forInClause] := by simp [kind]
      rcases visits.each (Reading.of_part_of_mem kind) rfl with ⟨member, isUsed⟩
      split at isUsed
      · next field => exact sound_of_part isUsed (.clauseTarget kind member (by simpa using field))
      · next noTarget =>
        exact sound_of_part isUsed (.clausePart kind member (by simpa using noTarget))
  | _ => simp [kind, Kind.isClause] at clause

theorem target_sound (visits : Visits .target node use part) : Sound .target node use part := by
  by_cases name : node.kind = .identifier
  · exact absurd visits (not_of_plan_eq_nil (by rw [Reading.of, name]) rfl)
  by_cases isMember : node.kind = .attribute
  · rcases visits.onlyIn (by rw [Reading.of, isMember]) rfl with ⟨rfl, found⟩
    exact Or.inl ⟨rfl, .memberObject isMember found⟩
  by_cases element : node.kind = .subscript
  · rcases visits.each (by rw [Reading.of, element]) rfl with ⟨member, isUsed⟩
    exact sound_of_part isUsed (.elementPart element member)
  by_cases leaf : node.kind = .asPatternTarget ∧ node.namedChildren.isEmpty = true
  · exact absurd visits (not_of_plan_eq_nil (by rw [Reading.of, leaf.1, leaf.2]) rfl)
  · rcases visits.each (Reading.of_target name isMember element leaf) rfl with ⟨member, isUsed⟩
    exact sound_of_part isUsed (.targetPart name isMember element member)

theorem expression_sound {locals : List String}
    (visits : Visits (.expression locals) node use part) :
    Sound (.expression locals) node use part := by
  cases operation : node.kind.isOperation with
  | true =>
      rcases visits.each rfl (Reading.plan_ofExpression_of_isOperation operation _ _) with
        ⟨member, isUsed⟩
      exact sound_of_part isUsed (.operand operation member)
  | false =>
      cases kind : node.kind with
      | identifier | comment =>
          exact absurd visits (not_of_plan_eq_nil (by rw [Reading.of, kind]) rfl)
      | «attribute» =>
          rcases visits.onlyIn (by rw [Reading.of, kind]) rfl with ⟨rfl, found⟩
          exact Or.inl ⟨rfl, .object kind found⟩
      | keywordArgument =>
          rcases visits.onlyIn (by rw [Reading.of, kind]) rfl with ⟨rfl, found⟩
          exact Or.inl ⟨rfl, .value (Or.inl kind) found⟩
      | namedExpression =>
          rcases visits.onlyIn (by rw [Reading.of, kind]) rfl with ⟨rfl, found⟩
          exact Or.inl ⟨rfl, .value (Or.inr kind) found⟩
      | lambda =>
          rcases (lambda_iff kind).mp visits with ⟨rfl, found⟩ | ⟨rfl, found⟩
          · exact Or.inl ⟨rfl, .lambdaParameters kind found⟩
          · exact Or.inl ⟨rfl, .lambdaBody kind found⟩
      | comprehension =>
          rcases visits.each (by rw [Reading.of, kind]) rfl with ⟨member, isUsed⟩
          split at isUsed
          · next isGenerator =>
            exact sound_of_part isUsed (.generator kind member (by simpa using isGenerator))
          · next noGenerator =>
            exact sound_of_part isUsed (.element kind member (by simpa using noGenerator))
      | _ => simp [kind, Kind.isOperation] at operation

/-- The walk visits only parts and bodies. -/
theorem sound {role : Role} (visits : Visits role node use part)
    (direct : role = .part → node.kind.isClause = true) : Sound role node use part := by
  cases role with
  | statement => exact visits.statement_sound
  | part => exact visits.part_sound (direct rfl)
  | target => exact visits.target_sound
  | expression locals => exact visits.expression_sound
  | generator locals =>
      rcases visits.each rfl rfl with ⟨member, isUsed⟩
      split at isUsed
      · simp at isUsed
      · next noTarget => exact sound_of_part isUsed (.iterable member (by simpa using noTarget))
  | parameters =>
      rcases visits.each rfl rfl with ⟨member, isUsed⟩
      exact sound_of_part isUsed (.parameter member)
  | parameter =>
      by_cases kind : node.kind = .richParameter
      · rcases visits.each (by rw [Reading.of, kind]) rfl with ⟨member, isUsed⟩
        split at isUsed
        · next field => exact sound_of_part isUsed (.default kind member (by simpa using field))
        · simp at isUsed
      · exact absurd visits (not_of_plan_eq_nil (by rw [Reading.of, if_neg kind]) rfl)
  | assignment =>
      rcases visits.each rfl rfl with ⟨member, isUsed⟩
      split at isUsed
      · next field => exact sound_of_part isUsed (.assignmentTarget member field)
      · next field =>
        split at isUsed
        · next isAssignment =>
          exact sound_of_part isUsed (.assignmentChain member field (by simpa using isAssignment))
        · next noChain =>
          exact sound_of_part isUsed
            (.assignmentValue member (by simp [field]) fun _ => by simpa using noChain)
      · next noTarget noChain =>
        exact sound_of_part isUsed
          (.assignmentValue member noTarget fun field => absurd field noChain)
  | augmentedAssignment =>
      rcases visits.each rfl rfl with ⟨member, isUsed⟩
      split at isUsed
      · next field =>
        rcases List.mem_cons.mp isUsed with rfl | isUsed
        · exact Or.inl ⟨rfl, .updateValue member⟩
        · exact sound_of_part isUsed (.updateTarget member (by simpa using field))
      · exact sound_of_part isUsed (.updateValue member)

end Visits

end NotebookSlice.Syntax

import Mathlib.Data.List.Forall2
import Mathlib.Logic.Relation
import NotebookSlice.Facts.Cell
import NotebookSlice.Proofs.Facts.Accumulation
import NotebookSlice.Proofs.Facts.Functions
import NotebookSlice.Proofs.Facts.Locals

/-!
# Order of statements

The facts about a statement do not depend on the order of the statements in the blocks within it,
nor on how often a statement is repeated there. For the block itself this is so because its names
are the union of those of its statements. Further out, the nodes around the block look at their
children in many ways: they take names from patterns and parameters, follow chains of attributes,
and make the names of one child local to another. `Alike` lists all that is looked at, and it is
kept from the children to the node.
-/

namespace NotebookSlice

open Syntax

namespace Syntax

/-- One block within the tree has its statements in another order, or some of them more or fewer
times, none of them being new or lost. -/
inductive Rearranged : Node → Node → Prop
  | block {field : Option Field} {text : String} {children others : List Node}
      (same : ∀ statement : Node, statement.isNamed = true →
        (statement ∈ children ↔ statement ∈ others)) :
      Rearranged (.mk .block field text children) (.mk .block field text others)
  | inside {kind : Kind} {field : Option Field} {text : String} {before after : List Node}
      {child other : Node} (rearranged : Rearranged child other) :
      Rearranged (.mk kind field text (before ++ child :: after))
        (.mk kind field text (before ++ other :: after))

namespace Findings

variable {first second : Usage}

theorem ofUsage_eq_iff :
    ofUsage first = ofUsage second ↔ (∀ name, name ∈ first.defs ↔ name ∈ second.defs) ∧
    (∀ name, name ∈ first.uses ↔ name ∈ second.uses) ∧
      (∀ name, name ∈ first.bound ↔ name ∈ second.bound) := by
  simp [ofUsage, NameSet.ext_iff]

theorem ofUsage_enclose_congr {locals others : List String}
    (same : ∀ name, name ∈ locals ↔ name ∈ others) (equal : ofUsage first = ofUsage second) :
    ofUsage (first.enclose locals) = ofUsage (second.enclose others) := by
  rcases ofUsage_eq_iff.mp equal with ⟨_, uses, bound⟩
  simp [ofUsage_eq_iff, same, uses, bound, Usage.enclose]

end Findings

open Findings

/-! ### What is looked at -/

/-- Nothing that a walk looks at tells the nodes apart. -/
structure Alike (node other : Node) : Prop where
  kind : node.kind = other.kind
  field : node.field = other.field
  text : node.text = other.text
  baseName : node.baseName = other.baseName
  importedName : node.importedName = other.importedName
  patternNames : ∀ name, name ∈ node.patternNames ↔ name ∈ other.patternNames
  parameterNames : ∀ name, name ∈ node.parameterNames ↔ name ∈ other.parameterNames
  parameterListNames : ∀ name, name ∈ node.parameterListNames ↔ name ∈ other.parameterListNames
  /-- What the node binds as a `for` clause of a comprehension. -/
  generatorNames : ∀ name, name ∈ Reading.generatorNames [node] ↔
    name ∈ Reading.generatorNames [other]
  usage : ∀ role, ofUsage (node.usage role) = ofUsage (other.usage role)

/-- The uses give a child the same role, up to the order in which local names are listed. -/
inductive Use.Agrees : Use → Use → Prop
  | inside {role other : Role} (agrees : role.AgreesOn (fun _ => True) other) :
      Agrees ⟨role, none⟩ ⟨other, none⟩
  | body {role : Role} {locals others : List String}
      (same : ∀ name, name ∈ locals ↔ name ∈ others) :
      Agrees ⟨role, some locals⟩ ⟨role, some others⟩

variable {name : String} {role other : Role} {node node' : Node} {children others : List Node}
variable {use use' : Use}

theorem Use.Agrees.refl (use : Use) : use.Agrees use := by
  rcases use with ⟨role, _ | locals⟩
  · exact .inside (.same role)
  · exact .body fun _ => Iff.rfl

theorem Role.AgreesOn.usage (agrees : role.AgreesOn (fun _ => True) other) (node : Node) :
    ofUsage (node.usage role) = ofUsage (node.usage other) := by
  have agrees (name : String) : role.AgreesOn (· = name) other := by
    cases agrees with
    | same => exact .same role
    | expression agree => exact .expression fun name _ => agree name trivial
    | generator agree => exact .generator fun name _ => agree name trivial
  exact ofUsage_eq_iff.mpr ⟨fun name => mem_defs_iff_of_agrees (agrees name) node,
    fun name => mem_uses_iff_of_agrees (agrees name) node, fun name =>
      mem_bound_iff_of_agrees (agrees name) node⟩

theorem Use.Agrees.apply (agrees : use.Agrees use') (alike : Alike node node') :
    ofUsage (use.apply (node.usage use.role)) = ofUsage (use'.apply (node'.usage use'.role)) := by
  cases agrees with
  | inside agrees => exact (agrees.usage node).trans (alike.usage _)
  | body same => exact ofUsage_enclose_congr same (alike.usage _)

namespace Alike

theorem refl (node : Node) : Alike node node := by constructor <;> simp

theorem isNamed (alike : Alike node node') : node.isNamed = node'.isNamed := by
  rw [Node.isNamed, Node.isNamed, alike.kind]

/-! ### Lists of children -/

theorem exists_mem_iff (alike : List.Forall₂ Alike children others) {holds : Node → Prop}
    (same : ∀ {node node' : Node}, Alike node node' → (holds node ↔ holds node')) :
    (∃ child ∈ children, holds child) ↔ ∃ child ∈ others, holds child := by
  induction alike with
  | nil => simp
  | cons first _ ih => simp [same first, ih]

theorem namedChildren (alike : List.Forall₂ Alike children others) :
    List.Forall₂ Alike (children.filter Node.isNamed) (others.filter Node.isNamed) := by
  induction alike with
  | nil => exact .nil
  | @cons child other _ _ first _ ih =>
      cases named : other.isNamed with
      | false => simpa [first.isNamed, named] using ih
      | true => simpa [first.isNamed, named] using ⟨first, ih⟩

theorem map_text (alike : List.Forall₂ Alike children others) :
    children.map Node.text = others.map Node.text := by
  induction alike with
  | nil => rfl
  | cons first _ ih => simp [first.text, ih]

/-- The first children in a field are alike, or there is none in either list. -/
theorem find?_cases (alike : List.Forall₂ Alike children others) (field : Field) :
    children.find? (·.field == some field) = none ∧ others.find? (·.field == some field) = none ∨
      ∃ child other, children.find? (·.field == some field) = some child ∧
        others.find? (·.field == some field) = some other ∧ Alike child other := by
  induction alike with
  | nil => simp
  | @cons child other _ _ first _ ih =>
      cases found : other.field == some field with
      | false => simpa [first.field, found] using ih
      | true => simpa [first.field, found] using first

/-! ### Roles of children -/

theorem each {rule rule' : Node → List Use} (alike : List.Forall₂ Alike children others)
    (same : ∀ {node node' : Node}, Alike node node' →
      List.Forall₂ Use.Agrees (rule node) (rule' node')) :
    List.Forall₂ (List.Forall₂ Use.Agrees) (Reading.each rule children)
      (Reading.each rule' others) := by
  induction alike with
  | nil => exact .nil
  | cons first _ ih =>
      refine .cons ?_ ih
      simp only [first.isNamed]
      split
      · exact same first
      · exact .nil

theorem onlyIn (alike : List.Forall₂ Alike children others) (field : Field)
    (agrees : use.Agrees use') :
    List.Forall₂ (List.Forall₂ Use.Agrees) (Reading.onlyIn field use children)
      (Reading.onlyIn field use' others) := by
  induction alike with
  | nil => exact .nil
  | cons first rest ih =>
      simp only [Reading.onlyIn, first.field]
      split
      · refine .cons (.cons agrees .nil) ?_
        rw [List.forall₂_map_left_iff, List.forall₂_map_right_iff]
        exact rest.imp fun _ _ _ => .nil
      · exact .cons .nil ih

theorem handlerPlan (alike : List.Forall₂ Alike children others) (afterAs : Bool) :
    Reading.handlerPlan afterAs children = Reading.handlerPlan afterAs others := by
  induction alike generalizing afterAs with
  | nil => rfl
  | cons first _ ih => simp only [Reading.handlerPlan, first.isNamed, first.text, ih]

theorem functionPlan {locals locals' : List String} (alike : List.Forall₂ Alike children others)
    (same : ∀ name, name ∈ locals ↔ name ∈ locals') :
    List.Forall₂ (List.Forall₂ Use.Agrees) (Reading.functionPlan locals children)
      (Reading.functionPlan locals' others) := by
  induction alike generalizing locals locals' with
  | nil => exact .nil
  | cons first _ ih =>
      simp only [Reading.functionPlan, first.isNamed, first.field]
      split
      · exact .cons .nil (ih same)
      · split
        · exact .cons .nil (ih same)
        · refine .cons (.cons (.refl _) .nil) (ih ?_)
          simp [same, first.parameterListNames]
        · exact .cons (.cons (.body same) .nil) (ih same)
        · exact .cons (.cons (.refl _) .nil) (ih same)

theorem zipWith_append {first first' second second' : List (List Use)}
    (firstAgrees : List.Forall₂ (List.Forall₂ Use.Agrees) first first')
    (secondAgrees : List.Forall₂ (List.Forall₂ Use.Agrees) second second') :
    List.Forall₂ (List.Forall₂ Use.Agrees) (List.zipWith (· ++ ·) first second)
      (List.zipWith (· ++ ·) first' second') := by
  induction firstAgrees generalizing second second' with
  | nil => exact .nil
  | cons head _ ih =>
      cases secondAgrees with
      | nil => exact .nil
      | cons head' rest => exact .cons (List.rel_append head head') (ih rest)

theorem mem_generatorNames_iff (alike : List.Forall₂ Alike children others) :
    name ∈ Reading.generatorNames children ↔ name ∈ Reading.generatorNames others := by
  have single (children : List Node) : name ∈ Reading.generatorNames children ↔
      ∃ child ∈ children, name ∈ Reading.generatorNames [child] := by
    simp [Reading.generatorNames]
  rw [single, single others]
  exact exists_mem_iff alike fun first => first.generatorNames name

theorem lambdaPlan (alike : List.Forall₂ Alike children others) (locals : List String) :
    List.Forall₂ (List.Forall₂ Use.Agrees) (Reading.lambdaPlan locals children)
      (Reading.lambdaPlan locals others) := by
  refine zipWith_append (onlyIn alike .parameters (.refl _))
    (onlyIn alike .body (.inside (.expression ?_)))
  intro name _
  rcases find?_cases alike .parameters with ⟨found, found'⟩ | ⟨_, _, found, found', first⟩
  · simp [found, found']
  · simp [found, found', first.parameterListNames]

/-- Children that are alike get the same roles. -/
theorem plan (alike : List.Forall₂ Alike children others) (reading : Reading) :
    List.Forall₂ (List.Forall₂ Use.Agrees) (reading.plan children) (reading.plan others) := by
  have refl (uses : List Use) : List.Forall₂ Use.Agrees uses uses :=
    List.forall₂_same.mpr fun use _ => .refl use
  cases reading with
  | nothing | name | boundName | imports => exact .nil
  | function => exact functionPlan alike fun _ => Iff.rfl
  | handler =>
      rw [Reading.plan, Reading.plan, handlerPlan alike]
      exact List.forall₂_same.mpr fun uses _ => refl uses
  | memberTarget | member | argument | namedExpression => exact onlyIn alike _ (.refl _)
  | lambda locals => exact lambdaPlan alike locals
  | comprehension locals =>
      have same : ∀ name, True → (name ∈ locals ++ Reading.generatorNames children ↔
          name ∈ locals ++ Reading.generatorNames others) := by
        intro name _
        simp [mem_generatorNames_iff alike]
      refine each alike fun first => ?_
      rw [first.kind]
      split
      · exact .cons (.inside (.generator same)) .nil
      · exact .cons (.inside (.expression same)) .nil
  | all | elementTarget | call => exact each alike fun _ => refl _
  | _ =>
      refine each alike fun first => ?_
      simp only [first.kind, first.field]
      exact refl _

theorem usageOfAll (alike : List.Forall₂ Alike children others) {plan plan' : List (List Use)}
    (agrees : List.Forall₂ (List.Forall₂ Use.Agrees) plan plan') :
    ofUsage (Node.usageOfAll plan children) = ofUsage (Node.usageOfAll plan' others) := by
  induction alike generalizing plan plan' with
  | nil => cases agrees <;> rfl
  | cons first _ ih =>
      cases agrees with
      | nil => rfl
      | cons uses rest =>
          rw [Node.usageOfAll, Node.usageOfAll]
          induction uses with
          | nil => exact ih rest
          | cons use _ ihUses =>
              rw [List.foldr_cons, List.foldr_cons, ofUsage_union, ofUsage_union,
                use.apply first, ihUses]

/-! ### From the children to the node -/

variable {kind : Kind} {field : Option Field} {text : String}

theorem baseName_mk (alike : List.Forall₂ Alike children others) :
    (Node.mk kind field text children).baseName = (Node.mk kind field text others).baseName := by
  have root (inside : Field) : Node.baseNameIn inside children = Node.baseNameIn inside others := by
    rw [Node.baseNameIn_eq, Node.baseNameIn_eq]
    rcases find?_cases alike inside with ⟨found, found'⟩ | ⟨_, _, found, found', first⟩
    · simp [found, found']
    · simp [found, found', first.baseName]
  cases kind with
  | «attribute» => exact root .object
  | subscript => exact root .value
  | _ => rfl

theorem importedName_mk (alike : List.Forall₂ Alike children others) :
    (Node.mk kind field text children).importedName =
      (Node.mk kind field text others).importedName := by
  cases kind with
  | aliasedImport =>
      simp only [Node.importedName, Node.kind, Node.childIn, Node.children]
      rcases find?_cases alike .renamed with ⟨found, found'⟩ | ⟨_, _, found, found', first⟩
      · simp [found, found']
      · simp [found, found', first.text]
  | dottedName =>
      simp only [Node.importedName, Node.kind, Node.namedChildren, Node.children]
      rw [← List.head?_map, ← List.head?_map, map_text (namedChildren alike)]
  | _ => rfl

theorem mem_patternNames_mk (alike : List.Forall₂ Alike children others) :
    name ∈ (Node.mk kind field text children).patternNames ↔
      name ∈ (Node.mk kind field text others).patternNames := by
  have inside : name ∈ Node.patternNamesOfAll children ↔ name ∈ Node.patternNamesOfAll others := by
    rw [Node.mem_patternNamesOfAll_iff, Node.mem_patternNamesOfAll_iff]
    apply exists_mem_iff alike
    intro node node' first
    rw [first.isNamed, first.patternNames]
  cases kind with
  | identifier => rfl
  | _ => exact inside

theorem mem_parameterNames_mk (alike : List.Forall₂ Alike children others) :
    name ∈ (Node.mk kind field text children).parameterNames ↔
      name ∈ (Node.mk kind field text others).parameterNames := by
  cases kind with
  | parameterPattern =>
      simp only [Node.parameterNames, Node.kind]
      exact mem_patternNames_mk alike
  | richParameter =>
      simp only [Node.parameterNames, Node.kind, Node.namedChildren, Node.children,
        List.mem_flatMap]
      apply exists_mem_iff (namedChildren alike)
      intro node node' first
      rw [first.field]
      split
      · rfl
      · exact first.patternNames name
  | _ => rfl

theorem mem_parameterListNames_mk (alike : List.Forall₂ Alike children others) :
    name ∈ (Node.mk kind field text children).parameterListNames ↔
      name ∈ (Node.mk kind field text others).parameterListNames := by
  simp only [Node.parameterListNames, Node.namedChildren, Node.children, List.mem_flatMap]
  apply exists_mem_iff (namedChildren alike)
  intro node node' first
  exact first.parameterNames name

theorem mem_generatorNames_mk (alike : List.Forall₂ Alike children others) :
    name ∈ Reading.generatorNames [Node.mk kind field text children] ↔
      name ∈ Reading.generatorNames [Node.mk kind field text others] := by
  cases kind with
  | forInClause =>
      simp only [Reading.generatorNames, List.flatMap_singleton, Node.kind, Node.childIn,
        Node.children]
      rcases find?_cases alike .left with ⟨found, found'⟩ | ⟨_, _, found, found', first⟩
      · simp [found, found']
      · simp [found, found', first.patternNames]
  | _ => rfl

theorem of_mk (alike : List.Forall₂ Alike children others) (role : Role) :
    Reading.of role (.mk kind field text children) =
      Reading.of role (.mk kind field text others) := by
  cases role with
  | target =>
      have leaf : (children.filter Node.isNamed).isEmpty =
          (others.filter Node.isNamed).isEmpty := by
        simpa only [List.isEmpty_map] using congrArg List.isEmpty (map_text (namedChildren alike))
      simp only [Reading.of, Node.kind, Node.namedChildren, Node.children, leaf]
  | _ => rfl

theorem own_mk (alike : List.Forall₂ Alike children others) (reading : Reading) :
    ofUsage (reading.own (.mk kind field text children)) =
      ofUsage (reading.own (.mk kind field text others)) := by
  have binding : Reading.bindingIn (.mk kind field text children) .name =
      Reading.bindingIn (.mk kind field text others) .name := by
    simp only [Reading.bindingIn, Node.childIn, Node.children]
    rcases find?_cases alike .name with ⟨found, found'⟩ | ⟨_, _, found, found', first⟩
    · simp [found, found']
    · simp [found, found', first.text]
  cases reading with
  | imports =>
      have imported (name : String) :
          name ∈ (children.filter Node.isNamed).filterMap (fun child =>
            if child.field == some .name then child.importedName else none) ↔
          name ∈ (others.filter Node.isNamed).filterMap (fun child =>
            if child.field == some .name then child.importedName else none) := by
        rw [List.mem_filterMap, List.mem_filterMap]
        apply exists_mem_iff (namedChildren alike)
        intro node node' first
        rw [first.field, first.importedName]
      rw [Reading.own_imports, Reading.own_imports]
      exact ofUsage_eq_iff.mpr ⟨imported, fun _ => Iff.rfl, imported⟩
  | function | classBody | namedExpression => exact congrArg ofUsage binding
  | memberTarget | elementTarget =>
      exact congrArg (fun base => ofUsage (Reading.mutationOf [] base)) (baseName_mk alike)
  | call locals =>
      simp only [Reading.own, Node.childIn, Node.children]
      rcases find?_cases alike .function with ⟨found, found'⟩ | ⟨_, _, found, found', first⟩
      · simp [found, found']
      · simp [found, found', first.kind, first.baseName]
  | _ => rfl

/-- Nodes of one kind are alike if their children are. -/
theorem mk_children (alike : List.Forall₂ Alike children others) :
    Alike (.mk kind field text children) (.mk kind field text others) where
  kind := rfl
  field := rfl
  text := rfl
  baseName := baseName_mk alike
  importedName := importedName_mk alike
  patternNames _ := mem_patternNames_mk alike
  parameterNames _ := mem_parameterNames_mk alike
  parameterListNames _ := mem_parameterListNames_mk alike
  generatorNames _ := mem_generatorNames_mk alike
  usage role := by
    rw [Node.usage, Node.usage, ofUsage_union, ofUsage_union, of_mk alike, own_mk alike,
      usageOfAll alike (plan alike _)]

theorem inside {before after : List Node} (alike : Alike node node') :
    Alike (.mk kind field text (before ++ node :: after))
      (.mk kind field text (before ++ node' :: after)) := by
  have refl (nodes : List Node) : List.Forall₂ Alike nodes nodes :=
    List.forall₂_same.mpr fun node _ => .refl node
  exact .mk_children (List.rel_append (refl _) (.cons alike (refl _)))

/-! ### Blocks -/

/-- In every role, a block uses each of its statements by itself. -/
theorem exists_visits_block_iff (role : Role) :
    ∃ rule : Node → List Use,
      ∀ (field : Option Field) (text : String) (children : List Node) (use : Use)
        (child : Node),
      Visits role (.mk .block field text children) use child ↔
        child ∈ children ∧ child.isNamed = true ∧ use ∈ rule child := by
  cases role with
  | parameter =>
      exact ⟨fun _ => [], fun _ _ _ _ _ => by simp [Visits, Reading.of, Node.kind, Reading.plan]⟩
  | _ => exact ⟨_, fun _ _ _ _ _ => Planned.each_iff _⟩

theorem block (same : ∀ statement : Node, statement.isNamed = true →
    (statement ∈ children ↔ statement ∈ others)) :
    Alike (.mk .block field text children) (.mk .block field text others) where
  kind := rfl
  field := rfl
  text := rfl
  baseName := rfl
  importedName := rfl
  patternNames name := by
    simp only [Node.patternNames, Node.mem_patternNamesOfAll_iff]
    grind
  parameterNames _ := Iff.rfl
  parameterListNames name := by
    simp only [Node.parameterListNames, List.mem_flatMap, Node.mem_namedChildren, Node.children]
    grind
  generatorNames _ := Iff.rfl
  usage role := by
    rcases exists_visits_block_iff role with ⟨rule, visits⟩
    have own (children : List Node) : (Reading.of role (.mk .block field text children)).own
        (.mk .block field text children) = ∅ := by
      cases role <;> rfl
    have view {view : Usage → List String} (collects : Usage.Collects view) (name : String) :
        name ∈ view ((Node.mk .block field text children).usage role) ↔
          name ∈ view ((Node.mk .block field text others).usage role) := by
      rw [Node.mem_usage_iff_visits collects, Node.mem_usage_iff_visits collects, own, own]
      simp only [visits]
      grind
    exact ofUsage_eq_iff.mpr
      ⟨view Usage.collects_defs, view Usage.collects_uses, view Usage.collects_bound⟩

end Alike

theorem Rearranged.alike (rearranged : Rearranged node node') : Alike node node' := by
  induction rearranged with
  | block same => exact .block same
  | inside _ ih => exact ih.inside

end Syntax

/-- Changes that leave nodes alike do not change the facts about a statement. -/
theorem Placed.facts_eq_of_alike {change : Node → Node → Prop}
    (alike : ∀ node node', change node node' → Alike node node') {placed : Placed} {node : Node}
    (changed : Relation.ReflTransGen change placed.node node) (index : Nat) :
    { placed with node := node : Placed }.facts index = placed.facts index := by
  have equal : Findings.ofUsage (placed.node.usage .statement) =
      Findings.ofUsage (node.usage .statement) := by
    induction changed with
    | refl => rfl
    | tail _ step ih => exact ih.trans ((alike _ _ step).usage .statement)
  have defs : NameSet.ofList (placed.node.usage .statement).defs =
      NameSet.ofList (node.usage .statement).defs :=
    congrArg Findings.defs equal
  have uses : NameSet.ofList (placed.node.usage .statement).uses =
      NameSet.ofList (node.usage .statement).uses :=
    congrArg Findings.uses equal
  simp only [Placed.facts, Placed.lastLine, defs, uses]

/-- Each operation of the walk adds to what has been found what it finds from nothing, which are the
names of the node. So a block contributes the union of what its statements contribute, and the facts
about a statement stay the same if statements in the blocks within it change places or are
repeated. -/
theorem facts_are_unions :
    (∀ (reading : Reading) (node : Node) (found : Findings),
      reading.walk node found = found ∪ reading.walk node ∅) ∧
    (∀ (role : Role) (node : Node) (found : Findings),
      node.walk role found = found ∪ node.walk role ∅ ∧
      node.walk role ∅ = Findings.ofUsage (node.usage role)) ∧
    (∀ block : Node, block.kind = .block → ∀ found : Findings,
      block.walk .part found =
        (block.namedChildren.map (·.walk .statement ∅)).foldl (· ∪ ·) found) ∧
    (∀ (placed : Placed) (index : Nat),
      (placed.facts index).defs = (placed.node.walk .statement ∅).defs ∧
      (placed.facts index).uses = (placed.node.walk .statement ∅).uses) ∧
    ∀ (placed : Placed) (node : Node), Relation.ReflTransGen Rearranged placed.node node →
      ∀ index : Nat, { placed with node := node : Placed }.facts index = placed.facts index := by
  refine ⟨Reading.walk_eq_union, ?_, fun _ => Node.walk_block, ?_, ?_⟩
  · intro role node found
    exact ⟨by rw [Node.walk_eq_union, Node.walk_empty], node.walk_empty role⟩
  · intro placed index
    rw [Node.walk_empty]
    exact ⟨rfl, rfl⟩
  · intro placed node rearranged index
    exact Placed.facts_eq_of_alike (fun _ _ => Rearranged.alike) rearranged index

namespace Syntax.Sample

/-- The block with some statements. -/
def block (statements : List Node) : Node := .mk .block none "" statements

/-- The statement `if flag:` with some statements. -/
def conditional (statements : List Node) : Node :=
  .mk .statement none ""
    [.mk .sign none "if" [], .mk .identifier none "flag" [], .mk .sign none ":" [],
     block statements]

/-- The statements `x = a` and `y = b`. -/
def statements : List Node :=
  [assigning "x" [.mk .identifier none "a" []], assigning "y" [.mk .identifier none "b" []]]

theorem rearranged_conditional {statements others : List Node}
    (same : ∀ statement, statement ∈ statements ↔ statement ∈ others) :
    Rearranged (conditional statements) (conditional others) := by
  let before : List Node :=
    [.mk .sign none "if" [], .mk .identifier none "flag" [], .mk .sign none ":" []]
  show Rearranged (.mk .statement none "" (before ++ block statements :: []))
    (.mk .statement none "" (before ++ block others :: []))
  exact .inside (.block fun statement _ => same statement)

end Syntax.Sample

theorem facts_are_unions_sample :
    (Sample.block Sample.statements).kind = .block ∧
      (Sample.block Sample.statements).walk .part ∅ =
        ((Sample.block Sample.statements).namedChildren.map (·.walk .statement ∅)).foldl (· ∪ ·) ∅ ∧
      Relation.ReflTransGen Rearranged (Sample.conditional Sample.statements)
        (Sample.conditional (Sample.statements.reverse ++ Sample.statements)) ∧
      Placed.facts ⟨Sample.conditional (Sample.statements.reverse ++ Sample.statements), ⟨0, 0, 0⟩,
        ⟨30, 2, 9⟩⟩ 0 =
        Placed.facts ⟨Sample.conditional Sample.statements, ⟨0, 0, 0⟩, ⟨30, 2, 9⟩⟩ 0 := by
  have rearranged : Relation.ReflTransGen Rearranged (Sample.conditional Sample.statements)
      (Sample.conditional (Sample.statements.reverse ++ Sample.statements)) :=
    .single (Sample.rearranged_conditional (by simp))
  rcases facts_are_unions with ⟨_, _, blocks, _, unchanged⟩
  exact ⟨rfl, blocks _ rfl ∅, rearranged,
    unchanged ⟨Sample.conditional Sample.statements, ⟨0, 0, 0⟩, ⟨30, 2, 9⟩⟩ _ rearranged 0⟩

end NotebookSlice

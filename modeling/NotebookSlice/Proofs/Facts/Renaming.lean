import Mathlib.Data.List.Basic
import Mathlib.Logic.Equiv.Basic
import NotebookSlice.Proofs.Facts.Functions
import NotebookSlice.Proofs.Facts.Locals

/-!
# Renaming locals

What a function definition defines and uses does not depend on how its locals are called. If a
parameter, or a name that the body binds, is replaced by a fresh name in the parameters and in the
body, then the names of the definition stay the same. Defaults and annotations are evaluated outside
of the function, so they are left alone, whatever they mention.

A replacement is not one-to-one on all names, and the walk over the body compares names: those that
are read with those that are local, in the function itself, in definitions within it, in lambdas and
in comprehensions. Swapping two names is one-to-one, and it does the same to a tree in which the
fresh name does not occur. So the proof shows that the walk commutes with one-to-one renamings, and
then looks at the swap.
-/

namespace NotebookSlice.Syntax

variable {change other : String → String} {name fresh : String}

/-! ### Trees with other names -/

namespace Node

/-- The node spells a name: it is an identifier, or a target after `as` without parts. -/
def spellsName (node : Node) : Bool :=
  node.kind == .identifier || node.kind == .asPatternTarget && node.namedChildren.isEmpty

mutual

/-- The tree with the names changed that are spelled in it. -/
def rename (change : String → String) : Node → Node
  | .mk kind field text children =>
    let text := if (Node.mk kind field text children).spellsName then change text else text
    .mk kind field text (renameAll change children)

def renameAll (change : String → String) : List Node → List Node
  | [] => []
  | child :: children => rename change child :: renameAll change children

end

mutual

/-- Each node of the tree passes the test. -/
def everywhere (test : Node → Bool) : Node → Bool
  | .mk kind field text children =>
    test (.mk kind field text children) && everywhereIn test children

def everywhereIn (test : Node → Bool) : List Node → Bool
  | [] => true
  | child :: children => everywhere test child && everywhereIn test children

end

/-- The name is not spelled anywhere in the tree. -/
def Lacks (name : String) (node : Node) : Prop :=
  node.everywhere (fun inner => !(inner.spellsName && inner.text == name)) = true

instance (name : String) (node : Node) : Decidable (node.Lacks name) :=
  inferInstanceAs (Decidable (_ = true))

/-- If the node takes a name from one of its children, then the child is an identifier. -/
def takesIdentifier (node : Node) : Bool :=
  match node.kind with
  | .functionDefinition | .classDefinition | .namedExpression =>
    (node.childIn .name).all (·.kind == .identifier)
  | .aliasedImport => (node.childIn .renamed).all (·.kind == .identifier)
  | .dottedName => node.namedChildren.head?.all (·.kind == .identifier)
  | _ => true

/-- Definitions, imports and walruses in the tree have identifiers for names, as the grammar has
it. -/
def HasIdentifiers (node : Node) : Prop := node.everywhere takesIdentifier = true

instance (node : Node) : Decidable node.HasIdentifiers := inferInstanceAs (Decidable (_ = true))

theorem everywhere_iff {test : Node → Bool} {node : Node} :
    node.everywhere test = true ↔
      test node = true ∧ ∀ child ∈ node.children, child.everywhere test = true := by
  have inAll (children : List Node) : everywhereIn test children = true ↔
      ∀ child ∈ children, child.everywhere test = true := by
    induction children with
    | nil => simp [everywhereIn]
    | cons child children ih => simp [everywhereIn, ih]
  rcases node with ⟨kind, field, text, children⟩
  simp [everywhere, inAll, Node.children]

theorem renameAll_eq_map (change : String → String) (nodes : List Node) :
    renameAll change nodes = nodes.map (rename change) := by
  induction nodes with
  | nil => rfl
  | cons node nodes ih => simp [renameAll, ih]

theorem rename_mk (kind : Kind) (field : Option Field) (text : String) (children : List Node) :
    (Node.mk kind field text children).rename change =
      .mk kind field (if (Node.mk kind field text children).spellsName then change text else text)
        (children.map (rename change)) := by
  rw [rename, renameAll_eq_map]

variable (change) in
@[simp] theorem kind_rename (node : Node) : (node.rename change).kind = node.kind := by
  rcases node with ⟨kind, field, text, children⟩
  rfl

variable (change) in
@[simp] theorem field_rename (node : Node) : (node.rename change).field = node.field := by
  rcases node with ⟨kind, field, text, children⟩
  rfl

variable (change) in
@[simp] theorem children_rename (node : Node) :
    (node.rename change).children = node.children.map (rename change) := by
  rcases node with ⟨kind, field, text, children⟩
  simp only [rename_mk, Node.children]

theorem text_rename (node : Node) :
    (node.rename change).text = if node.spellsName then change node.text else node.text := by
  rcases node with ⟨kind, field, text, children⟩
  rfl

theorem text_rename_of_identifier {node : Node} (kind : node.kind = .identifier) :
    (node.rename change).text = change node.text := by
  simp [text_rename, spellsName, kind]

@[simp] theorem isNamed_rename (node : Node) : (node.rename change).isNamed = node.isNamed := by
  simp [isNamed]

theorem filter_isNamed_map (nodes : List Node) :
    (nodes.map (rename change)).filter isNamed = (nodes.filter isNamed).map (rename change) := by
  simp [List.filter_map, Function.comp_def]

@[simp] theorem namedChildren_rename (node : Node) :
    (node.rename change).namedChildren = node.namedChildren.map (rename change) := by
  simp [namedChildren, filter_isNamed_map]

theorem find?_field_map (nodes : List Node) (field : Field) :
    (nodes.map (rename change)).find? (·.field == some field) =
      (nodes.find? (·.field == some field)).map (rename change) := by
  rw [List.find?_map]
  simp only [Function.comp_def, field_rename]

@[simp] theorem childIn_rename (node : Node) (field : Field) :
    (node.rename change).childIn field = (node.childIn field).map (rename change) := by
  rw [childIn, childIn, children_rename, find?_field_map]

/-! ### Names taken from trees -/

theorem patternNamesOfAll_eq_flatMap (nodes : List Node) :
    patternNamesOfAll nodes = (nodes.filter isNamed).flatMap patternNames := by
  induction nodes with
  | nil => rfl
  | cons node nodes ih => cases named : node.isNamed <;> simp [patternNamesOfAll, ih, named]

theorem flatMap_map_eq {f : Node → Node} {names : Node → List String} {nodes : List Node}
    (same : ∀ node ∈ nodes, names (f node) = (names node).map change) :
    (nodes.map f).flatMap names = (nodes.flatMap names).map change := by
  induction nodes with
  | nil => rfl
  | cons node nodes ih =>
      simp only [List.forall_mem_cons] at same
      simp [same.1, ih same.2]

theorem patternNames_rename (node : Node) :
    (node.rename change).patternNames = node.patternNames.map change := by
  induction node using Node.induction with
  | step node ih =>
      rcases node with ⟨kind, field, text, children⟩
      have inChildren : patternNamesOfAll (children.map (rename change)) =
          (patternNamesOfAll children).map change := by
        rw [patternNamesOfAll_eq_flatMap, patternNamesOfAll_eq_flatMap, filter_isNamed_map]
        apply flatMap_map_eq
        intro child member
        exact ih child (List.mem_filter.mp member).1
      rw [rename_mk]
      cases kind with
      | identifier => rfl
      | _ => exact inChildren

theorem baseName_rename (node : Node) :
    (node.rename change).baseName = node.baseName.map change := by
  induction node using Node.induction with
  | step node ih =>
      rcases node with ⟨kind, field, text, children⟩
      have inside (field : Field) :
          baseNameIn field (children.map (rename change)) =
            (baseNameIn field children).map change := by
        rw [baseNameIn_eq, baseNameIn_eq, find?_field_map]
        cases found : children.find? (·.field == some field) with
        | none => rfl
        | some child => exact ih child (List.mem_of_find?_eq_some found)
      rw [rename_mk]
      cases kind with
      | identifier => rfl
      | «attribute» => exact inside .object
      | subscript => exact inside .value
      | _ => rfl

theorem parameterNames_rename (node : Node) :
    (node.rename change).parameterNames = node.parameterNames.map change := by
  simp only [parameterNames, kind_rename, namedChildren_rename]
  split
  · next kind => simp [text_rename_of_identifier kind]
  · exact patternNames_rename node
  · apply flatMap_map_eq
    intro child _
    rw [field_rename]
    split
    · rfl
    · exact patternNames_rename child
  · rfl

theorem parameterListNames_rename (node : Node) :
    (node.rename change).parameterListNames = node.parameterListNames.map change := by
  rw [parameterListNames, parameterListNames, namedChildren_rename]
  apply flatMap_map_eq
  intro parameter _
  exact parameterNames_rename parameter

theorem map_text_rename {child : Option Node}
    (identifier : child.all (·.kind == .identifier) = true) :
    (child.map (rename change)).map text = (child.map text).map change := by
  cases child with
  | none => rfl
  | some child =>
      have kind : child.kind = .identifier := by simpa using identifier
      simp [text_rename_of_identifier kind]

theorem importedName_rename {item : Node} (takes : item.takesIdentifier = true) :
    (item.rename change).importedName = item.importedName.map change := by
  simp only [importedName, kind_rename]
  rw [takesIdentifier] at takes
  split
  · next kind =>
    simp only [kind] at takes
    rw [childIn_rename]
    exact map_text_rename takes
  · next kind =>
    simp only [kind] at takes
    rw [namedChildren_rename, List.head?_map]
    exact map_text_rename takes
  · rfl

end Node

/-! ### Roles and readings -/

def Usage.rename (change : String → String) (usage : Usage) : Usage where
  defs := usage.defs.map change
  uses := usage.uses.map change
  bound := usage.bound.map change

def Role.rename (change : String → String) : Role → Role
  | .expression locals => .expression (locals.map change)
  | .generator locals => .generator (locals.map change)
  | role => role

def Use.rename (change : String → String) (use : Use) : Use where
  role := use.role.rename change
  scope := use.scope.map (List.map change)

def Reading.rename (change : String → String) : Reading → Reading
  | .name locals => .name (locals.map change)
  | .all role => .all (role.rename change)
  | .member locals => .member (locals.map change)
  | .call locals => .call (locals.map change)
  | .argument locals => .argument (locals.map change)
  | .namedExpression locals => .namedExpression (locals.map change)
  | .lambda locals => .lambda (locals.map change)
  | .comprehension locals => .comprehension (locals.map change)
  | .generator locals => .generator (locals.map change)
  | reading => reading

namespace Reading

open Node

theorem of_rename (change : String → String) (role : Role) (node : Node) :
    of (role.rename change) (node.rename change) = (of role node).rename change := by
  cases role with
  | target =>
      simp only [of, Role.rename, kind_rename, namedChildren_rename, List.isEmpty_map]
      cases node.kind with
      | asPatternTarget => cases node.namedChildren.isEmpty <;> rfl
      | _ => rfl
  | parameter =>
      simp only [of, Role.rename, kind_rename]
      split <;> rfl
  | generator locals => rfl
  | parameters => rfl
  | assignment => rfl
  | augmentedAssignment => rfl
  | _ =>
      simp only [of, Role.rename, kind_rename]
      cases node.kind <;> rfl

theorem generatorNames_map (children : List Node) :
    generatorNames (children.map (Node.rename change)) = (generatorNames children).map change := by
  apply flatMap_map_eq
  intro child _
  rw [kind_rename, childIn_rename]
  split
  · cases child.childIn .left with
    | none => rfl
    | some target => exact patternNames_rename target
  · rfl

theorem each_map {rule ruleOther : Node → List Use}
    (same : ∀ child, ruleOther (child.rename change) = (rule child).map (Use.rename change))
    (children : List Node) :
    each ruleOther (children.map (Node.rename change)) =
      (each rule children).map (List.map (Use.rename change)) := by
  simp only [each, List.map_map]
  apply List.map_congr_left
  intro child _
  simp only [Function.comp_apply, isNamed_rename, same]
  split <;> rfl

theorem onlyIn_map (change : String → String) (field : Field) (use : Use) (children : List Node) :
    onlyIn field (use.rename change) (children.map (Node.rename change)) =
      (onlyIn field use children).map (List.map (Use.rename change)) := by
  induction children with
  | nil => rfl
  | cons child children ih =>
      simp only [List.map_cons, onlyIn, field_rename, ih]
      split
      · simp only [List.map_cons, List.map_nil, List.map_map]
        rfl
      · rfl

theorem handlerPlan_map (afterAs : Bool) (children : List Node) :
    handlerPlan afterAs (children.map (Node.rename change)) =
      (handlerPlan afterAs children).map (List.map (Use.rename change)) := by
  induction children generalizing afterAs with
  | nil => rfl
  | cons child children ih =>
      have sameText (unnamed : child.isNamed = false) : (child.rename change).text =
          child.text := by
        have sign : child.kind = .sign := by simpa [isNamed] using unnamed
        simp [text_rename, spellsName, sign]
      cases named : child.isNamed with
      | false => simp [handlerPlan, named, sameText, ih]
      | true => cases afterAs <;> simp [handlerPlan, named, ih, Use.rename, Role.rename]

theorem functionPlan_map (locals : List String) (children : List Node) :
    functionPlan (locals.map change) (children.map (Node.rename change)) =
      (functionPlan locals children).map (List.map (Use.rename change)) := by
  induction children generalizing locals with
  | nil => rfl
  | cons child children ih =>
      simp only [List.map_cons, functionPlan, isNamed_rename, field_rename,
        parameterListNames_rename, ← List.map_append, ih]
      split
      · rfl
      · split <;> rfl

theorem lambdaPlan_map (locals : List String) (children : List Node) :
    lambdaPlan (locals.map change) (children.map (Node.rename change)) =
      (lambdaPlan locals children).map (List.map (Use.rename change)) := by
  have zipped (own : List String) :
      List.zipWith (· ++ ·)
          (onlyIn .parameters ⟨.parameters, none⟩ (children.map (Node.rename change)))
          (onlyIn .body ⟨.expression (locals.map change ++ own.map change), none⟩
            (children.map (Node.rename change))) =
        (List.zipWith (· ++ ·) (onlyIn .parameters ⟨.parameters, none⟩ children)
          (onlyIn .body ⟨.expression (locals ++ own), none⟩ children)).map
            (List.map (Use.rename change)) := by
    have parameters := onlyIn_map change .parameters ⟨.parameters, none⟩ children
    have body := onlyIn_map change .body ⟨.expression (locals ++ own), none⟩ children
    simp only [Use.rename, Role.rename, Option.map_none, List.map_append] at parameters body
    rw [parameters, body]
    simp [List.zipWith_map, List.map_zipWith]
  simp only [lambdaPlan, find?_field_map]
  cases children.find? (fun child => child.field == some .parameters) with
  | none => exact zipped []
  | some parameters =>
      simp only [Option.map_some, parameterListNames_rename]
      exact zipped parameters.parameterListNames

theorem plan_rename (reading : Reading) (children : List Node) :
    (reading.rename change).plan (children.map (Node.rename change)) =
      (reading.plan children).map (List.map (Use.rename change)) := by
  cases reading with
  | nothing | name | boundName | imports => rfl
  | function => exact functionPlan_map [] children
  | handler => exact handlerPlan_map false children
  | memberTarget => exact onlyIn_map change .object ⟨.expression [], none⟩ children
  | member locals => exact onlyIn_map change .object ⟨.expression locals, none⟩ children
  | argument locals | namedExpression locals =>
      exact onlyIn_map change .value ⟨.expression locals, none⟩ children
  | lambda locals => exact lambdaPlan_map locals children
  | comprehension locals =>
      simp only [rename, plan, generatorNames_map, ← List.map_append]
      apply each_map
      intro child
      rw [kind_rename]
      split <;> rfl
  | all | elementTarget | call => exact each_map (fun _ => rfl) children
  | _ =>
      apply each_map
      intro child
      simp only [kind_rename, field_rename]
      repeat' split
      all_goals rfl

/-- The node is of a kind that the reading is meant for, and what it takes for names are
identifiers. -/
def Fits (node : Node) : Reading → Prop
  | .name _ => node.kind = .identifier
  | .boundName => node.spellsName = true
  | .imports => ∀ item ∈ node.namedChildren, item.takesIdentifier = true
  | .function | .classBody | .namedExpression _ =>
    ∀ child ∈ node.childIn .name, child.kind = .identifier
  | _ => True

theorem fits_of_statement {node : Node} (spelled : node.HasIdentifiers) :
    (of .statement node).Fits node := by
  rcases everywhere_iff.mp spelled with ⟨takes, inChildren⟩
  simp only [takesIdentifier] at takes
  simp only [of]
  cases kind : node.kind with
  | importStatement =>
      intro item member
      exact (everywhere_iff.mp (inChildren item (mem_namedChildren.mp member).1)).1
  | functionDefinition | classDefinition =>
      simpa [kind, Option.all_eq_true, ofStatement, Fits] using takes
  | _ => trivial

theorem fits_of_expression {node : Node} (spelled : node.HasIdentifiers) (locals : List String) :
    (of (.expression locals) node).Fits node := by
  have takes := (everywhere_iff.mp spelled).1
  simp only [takesIdentifier] at takes
  simp only [of]
  cases kind : node.kind with
  | identifier => exact kind
  | namedExpression => simpa [kind, Option.all_eq_true, ofExpression, Fits] using takes
  | _ => trivial

theorem fits_of {node : Node} (spelled : node.HasIdentifiers) (role : Role) :
    (of role node).Fits node := by
  cases role with
  | statement => exact fits_of_statement spelled
  | expression locals => exact fits_of_expression spelled locals
  | part =>
      cases clause : node.kind.isClause with
      | true =>
          simp only [of]
          cases kind : node.kind <;> first | trivial | simp [kind, Kind.isClause] at clause
      | false =>
          rw [of_part_of_not_isClause clause, Kind.partRole]
          split
          · exact fits_of_statement spelled
          · exact fits_of_expression spelled []
  | target =>
      simp only [of]
      cases kind : node.kind with
      | identifier => simp [ofTarget, Fits, spellsName, kind]
      | asPatternTarget =>
          cases leaf : node.namedChildren.isEmpty with
          | true => simp [ofTarget, Fits, spellsName, kind, leaf]
          | false => trivial
      | _ => trivial
  | parameter =>
      simp only [of]
      split <;> trivial
  | _ => trivial

end Reading

/-! ### The walk over a renamed tree -/

namespace Usage

theorem rename_union (first second : Usage) :
    (first ∪ second).rename change = first.rename change ∪ second.rename change := by
  simp [Union.union, union, rename]

theorem enclose_rename (injective : Function.Injective change) (locals : List String)
    (body : Usage) :
    (body.rename change).enclose (locals.map change) = (body.enclose locals).rename change := by
  simp [enclose, rename, List.filter_map, Function.comp_def, injective.eq_iff]

end Usage

theorem Use.apply_rename (injective : Function.Injective change) (use : Use) (usage : Usage) :
    (use.rename change).apply (usage.rename change) = (use.apply usage).rename change := by
  rcases use with ⟨role, _ | locals⟩
  · rfl
  · exact Usage.enclose_rename injective locals usage

namespace Reading

open Node

theorem bindingIn_rename {node : Node} {field : Field}
    (identifier : ∀ child ∈ node.childIn field, child.kind = .identifier) :
    bindingIn (node.rename change) field = (bindingIn node field).rename change := by
  simp only [bindingIn, childIn_rename]
  cases found : node.childIn field with
  | none => rfl
  | some child =>
      simp only [Option.map_some, text_rename_of_identifier (identifier child found)]
      rfl

theorem mutationOf_rename (injective : Function.Injective change) (locals : List String)
    (base : Option String) :
    mutationOf (locals.map change) (base.map change) = (mutationOf locals base).rename change := by
  cases base with
  | none => rfl
  | some container =>
      simp only [mutationOf, Option.map_some, List.contains_eq_mem,
        List.mem_map_of_injective injective]
      split <;> rfl

theorem own_rename (injective : Function.Injective change) {reading : Reading} {node : Node}
    (fits : reading.Fits node) :
    (reading.rename change).own (node.rename change) = (reading.own node).rename change := by
  cases reading with
  | name locals =>
      simp only [rename, own, text_rename_of_identifier fits, List.contains_eq_mem,
        List.mem_map_of_injective injective]
      split <;> rfl
  | boundName =>
      have spells : node.spellsName = true := fits
      simp [rename, own, text_rename, spells, Usage.binding, Usage.rename]
  | imports =>
      have imported : ((node.rename change).namedChildren.filterMap fun child =>
          if child.field == some .name then child.importedName else none) =
          (node.namedChildren.filterMap fun child =>
            if child.field == some .name then child.importedName else none).map change := by
        rw [namedChildren_rename, List.filterMap_map, List.map_filterMap]
        apply List.filterMap_congr
        intro item member
        simp only [Function.comp_apply, field_rename, importedName_rename (fits item member)]
        split <;> rfl
      rw [rename, own_imports, own_imports, imported]
      · rfl
      all_goals simp
  | function | classBody | namedExpression locals => exact bindingIn_rename fits
  | memberTarget | elementTarget =>
      simp only [rename, own, baseName_rename]
      exact mutationOf_rename injective [] node.baseName
  | call locals =>
      simp only [rename, own, childIn_rename]
      cases node.childIn .function with
      | none => rfl
      | some callee =>
          simp only [Option.map_some, kind_rename, baseName_rename, mutationOf_rename injective]
          split <;> rfl
  | _ => rfl

end Reading

namespace Node

theorem usageOfAll_rename (injective : Function.Injective change) {children : List Node}
    (same : ∀ child ∈ children, ∀ role : Role,
      (child.rename change).usage (role.rename change) = (child.usage role).rename change)
    (plan : List (List Use)) :
    usageOfAll (plan.map (List.map (Use.rename change))) (children.map (rename change)) =
      (usageOfAll plan children).rename change := by
  induction children generalizing plan with
  | nil => cases plan <;> rfl
  | cons child children ih =>
      cases plan with
      | nil => rfl
      | cons uses plan =>
          simp only [List.forall_mem_cons] at same
          simp only [List.map_cons, usageOfAll, ih same.2]
          induction uses with
          | nil => rfl
          | cons use uses ihUses =>
              simp only [List.map_cons, List.foldr_cons, ihUses, Usage.rename_union]
              rw [← Use.apply_rename injective, ← same.1]
              rfl

/-- The walk commutes with one-to-one renamings. -/
theorem usage_rename (injective : Function.Injective change) {node : Node}
    (spelled : node.HasIdentifiers) (role : Role) :
    (node.rename change).usage (role.rename change) = (node.usage role).rename change := by
  induction node using Node.induction generalizing role with
  | step node ih =>
      have fits := Reading.fits_of spelled role
      have reads := Reading.of_rename change role node
      have own := Reading.own_rename injective fits
      have inChildren : ∀ child ∈ node.children, ∀ role : Role,
          (child.rename change).usage (role.rename change) = (child.usage role).rename change := by
        intro child member role
        exact ih child member ((everywhere_iff.mp spelled).2 child member) role
      rcases node with ⟨kind, field, text, children⟩
      rw [rename_mk] at reads own ⊢
      rw [usage, usage, reads, own, Reading.plan_rename, Usage.rename_union]
      exact congrArg _ (usageOfAll_rename injective inChildren _)

end Node

/-! ### Functions with other locals -/

namespace Node

def mapChildren (f : Node → Node) (node : Node) : Node :=
  .mk node.kind node.field node.text (node.children.map f)

/-- The part of a parameter with its names changed, unless it is the default or the annotation. -/
def renameUnlessOutside (change : String → String) (part : Node) : Node :=
  if part.field == some .typing || part.field == some .value then part else part.rename change

/-- The parameter with its names changed. Its default and its annotation stay as they are. -/
def renameParameter (change : String → String) (parameter : Node) : Node :=
  if parameter.kind = .richParameter then parameter.mapChildren (renameUnlessOutside change)
  else parameter.rename change

/-- The child of a function definition with names changed if it is the list of parameters or the
body. -/
def renameIfLocal (change : String → String) (child : Node) : Node :=
  match child.field with
  | some .parameters => child.mapChildren (renameParameter change)
  | some .body => child.rename change
  | _ => child

/-- The function definition with names changed in its parameters and in its body. -/
def renameLocals (change : String → String) (function : Node) : Node :=
  function.mapChildren (renameIfLocal change)

@[simp] theorem kind_renameUnlessOutside (part : Node) :
    (part.renameUnlessOutside change).kind = part.kind := by
  rw [renameUnlessOutside]
  split
  · rfl
  · simp

@[simp] theorem field_renameUnlessOutside (part : Node) :
    (part.renameUnlessOutside change).field = part.field := by
  rw [renameUnlessOutside]
  split
  · rfl
  · simp

@[simp] theorem kind_renameParameter (parameter : Node) :
    (parameter.renameParameter change).kind = parameter.kind := by
  rw [renameParameter]
  split
  · rfl
  · simp

@[simp] theorem kind_renameIfLocal (child : Node) :
    (child.renameIfLocal change).kind = child.kind := by
  rw [renameIfLocal]
  split
  · rfl
  · simp
  · rfl

@[simp] theorem field_renameIfLocal (child : Node) :
    (child.renameIfLocal change).field = child.field := by
  rw [renameIfLocal]
  split
  · rfl
  · simp
  · rfl

theorem rename_congr (agree : ∀ name, name ≠ fresh → change name = other name) {node : Node}
    (lacks : node.Lacks fresh) : node.rename change = node.rename other := by
  induction node using Node.induction with
  | step node ih =>
      rcases everywhere_iff.mp lacks with ⟨here, inChildren⟩
      rcases node with ⟨kind, field, text, children⟩
      have sameChildren : children.map (rename change) = children.map (rename other) := by
        apply List.map_congr_left
        intro child member
        exact ih child member (inChildren child member)
      rw [rename_mk, rename_mk, sameChildren]
      split
      · next spells =>
        have different : text ≠ fresh := by simpa [spells, Node.text] using here
        rw [agree text different]
      · rfl

theorem renameLocals_congr (agree : ∀ name, name ≠ fresh → change name = other name)
    {function : Node} (lacks : function.Lacks fresh) :
    function.renameLocals change = function.renameLocals other := by
  have inside {node child : Node} (lacks : node.Lacks fresh) (member : child ∈ node.children) :
      child.Lacks fresh :=
    (everywhere_iff.mp lacks).2 child member
  have parameters {parameter : Node} (lacks : parameter.Lacks fresh) :
      parameter.renameParameter change = parameter.renameParameter other := by
    simp only [renameParameter]
    split
    · simp only [mapChildren, Node.mk.injEq, true_and]
      apply List.map_congr_left
      intro part member
      rw [renameUnlessOutside, renameUnlessOutside, rename_congr agree (inside lacks member)]
    · exact rename_congr agree lacks
  simp only [renameLocals, mapChildren, Node.mk.injEq, true_and]
  apply List.map_congr_left
  intro child member
  simp only [renameIfLocal]
  split
  · simp only [mapChildren, Node.mk.injEq, true_and]
    apply List.map_congr_left
    intro parameter parameterMember
    exact parameters (inside (inside lacks member) parameterMember)
  · exact rename_congr agree (inside lacks member)
  · rfl

theorem namedChildren_mapChildren {f : Node → Node} (keeps : ∀ child, (f child).kind = child.kind)
    (node : Node) :
    (node.mapChildren f).namedChildren = node.namedChildren.map f := by
  have named : isNamed ∘ f = isNamed := by
    funext child
    simp [isNamed, keeps]
  simp only [mapChildren, namedChildren, Node.children, List.filter_map, named]

theorem parameterNames_renameParameter (parameter : Node) :
    (parameter.renameParameter change).parameterNames = parameter.parameterNames.map change := by
  rw [renameParameter]
  split
  · next rich =>
    have isRich (f : Node → Node) : (parameter.mapChildren f).kind = .richParameter := rich
    simp only [parameterNames, rich, isRich, namedChildren_mapChildren kind_renameUnlessOutside]
    apply flatMap_map_eq
    intro part _
    rw [field_renameUnlessOutside, renameUnlessOutside]
    split
    · rfl
    · exact patternNames_rename part
  · exact parameterNames_rename parameter

theorem parameterListNames_mapChildren (parameters : Node) :
    (parameters.mapChildren (renameParameter change)).parameterListNames =
      parameters.parameterListNames.map change := by
  rw [parameterListNames, parameterListNames, namedChildren_mapChildren kind_renameParameter]
  apply flatMap_map_eq
  intro parameter _
  exact parameterNames_renameParameter parameter

/-! ### What the heading reads -/

theorem usageOfAll_map {plan : List (List Use)} {f : Node → Node} {children : List Node}
    (same : ∀ use child, Planned plan children use child →
      (f child).usage use.role = child.usage use.role) :
    usageOfAll plan (children.map f) = usageOfAll plan children := by
  induction children generalizing plan with
  | nil => rfl
  | cons child children ih =>
      cases plan with
      | nil => rfl
      | cons uses plan =>
          simp only [Planned.cons] at same
          have rest : usageOfAll plan (children.map f) = usageOfAll plan children := by
            apply ih
            intro use other planned
            exact same use other (Or.inr planned)
          rw [List.map_cons, usageOfAll, usageOfAll, rest]
          apply List.foldr_ext
          intro use member usage
          rw [same use child (Or.inl ⟨member, rfl⟩)]

theorem each_map_of_same {rule : Node → List Use} {f : Node → Node}
    (keeps : ∀ child, (f child).kind = child.kind) (same : ∀ child, rule (f child) = rule child)
    (children : List Node) :
    Reading.each rule (children.map f) = Reading.each rule children := by
  simp [Reading.each, isNamed, keeps, same]

theorem usage_eq (node : Node) (role : Role) : node.usage role =
    (Reading.of role node).own node ∪
      usageOfAll ((Reading.of role node).plan node.children) node.children := by
  rcases node with ⟨kind, field, text, children⟩
  rw [usage]
  rfl

theorem usage_renameParameter (parameter : Node) :
    (parameter.renameParameter change).usage .parameter = parameter.usage .parameter := by
  rw [usage_eq, usage_eq, Reading.of, Reading.of, kind_renameParameter]
  by_cases rich : parameter.kind = .richParameter
  · have children : (parameter.renameParameter change).children =
        parameter.children.map (renameUnlessOutside change) := by
      rw [renameParameter, if_pos rich]
      rfl
    have samePlan : Reading.parameter.plan (parameter.children.map (renameUnlessOutside change)) =
        Reading.parameter.plan parameter.children := by
      apply each_map_of_same kind_renameUnlessOutside
      intro part
      rw [field_renameUnlessOutside]
    rw [if_pos rich, children, samePlan, usageOfAll_map]
    · rfl
    · intro use part planned
      rcases (Planned.each_iff _).mp planned with ⟨_, _, isUsed⟩
      split at isUsed
      · next outside => rw [renameUnlessOutside, if_pos outside]
      · simp at isUsed
  · rw [if_neg rich]
    cases (parameter.renameParameter change).children <;> cases parameter.children <;> rfl

theorem usage_mapChildren_renameParameter (parameters : Node) :
    (parameters.mapChildren (renameParameter change)).usage .parameters =
      parameters.usage .parameters := by
  rw [usage_eq, usage_eq]
  have samePlan (children : List Node) :
      (Reading.all .parameter).plan (children.map (renameParameter change)) =
      (Reading.all .parameter).plan children :=
    each_map_of_same kind_renameParameter (fun _ => rfl) children
  simp only [Reading.of, mapChildren, Node.children, samePlan]
  rw [usageOfAll_map]
  · rfl
  · intro use parameter planned
    rcases (Planned.each_iff _).mp planned with ⟨_, _, isUsed⟩
    rw [List.mem_singleton.mp isUsed]
    exact usage_renameParameter parameter

end Node

/-! ### What the body reads -/

theorem Part.mem_children_or_eq {role partRole : Role} {node part : Node}
    (isPart : Part role node partRole part) :
    part ∈ node.children ∨ part = node := by
  by_cases direct : role = .part → node.kind.isClause = true
  · exact Or.inl (isPart.mem_children direct)
  · simp only [Classical.not_imp, Bool.not_eq_true] at direct
    rcases direct with ⟨rfl, noClause⟩
    exact Or.inr (isPart.eq_of_not_isClause noClause).2

theorem Node.Lacks.not_reads {role : Role} {node : Node} (lacks : node.Lacks name) :
    ¬Reads name role node := by
  intro reads
  induction reads with
  | here isRead =>
      rcases isRead with ⟨kind, text, _⟩
      have here := (Node.everywhere_iff.mp lacks).1
      simp [Node.spellsName, kind, text] at here
  | part isPart _ ih =>
      rcases isPart.mem_children_or_eq with member | rfl
      · exact ih ((Node.everywhere_iff.mp lacks).2 _ member)
      · exact ih lacks
  | body isBody _ _ _ ih => exact ih ((Node.everywhere_iff.mp lacks).2 _ isBody.visits.mem)

/-- Swapping a local with a name that the body does not have changes nothing in what the body
contributes. -/
theorem enclose_rename_swap {body : Node} {locals : List String} (spelled : body.HasIdentifiers)
    (lacks : body.Lacks fresh) (isLocal : name ∈ locals ∨ Binds name .part body) :
    ((body.rename (Equiv.swap name fresh)).usage .part).enclose
      (locals.map (Equiv.swap name fresh)) =
      (body.usage .part).enclose locals := by
  have injective := (Equiv.swap name fresh).injective
  have renamed := Node.usage_rename injective spelled .part
  simp only [Role.rename] at renamed
  rw [renamed, Usage.enclose_rename injective]
  have unchanged : ((body.usage .part).enclose locals).uses.map (Equiv.swap name fresh) =
      ((body.usage .part).enclose locals).uses := by
    refine (List.map_congr_left ?_).trans (List.map_id _)
    intro used isUsed
    rw [Usage.mem_uses_enclose, mem_uses_usage_iff, mem_bound_usage_iff] at isUsed
    rcases isUsed with ⟨reads, free, unbound⟩
    apply Equiv.swap_apply_of_ne_of_ne
    · rintro rfl
      exact isLocal.elim free unbound
    · rintro rfl
      exact lacks.not_reads reads
  rw [Usage.rename, unchanged]
  rfl

/-! ### The definition -/

namespace Node

theorem parametersAmong_renameIfLocal (child : Node) :
    parametersAmong [child.renameIfLocal change] = (parametersAmong [child]).map change := by
  have named : (child.renameIfLocal change).isNamed = child.isNamed := by simp [isNamed]
  by_cases isList : child.isNamed = true ∧ child.field = some .parameters
  · have renamed : child.renameIfLocal change = child.mapChildren (renameParameter change) := by
      simp [renameIfLocal, isList.2]
    simp only [parametersAmong, List.filter_cons, named, field_renameIfLocal, isList,
      beq_self_eq_true, Bool.and_self, if_true, List.filter_nil, List.flatMap_singleton]
    rw [renamed, parameterListNames_mapChildren]
  · simp [parametersAmong, named, isList]

/-- The use of one child of a function definition contributes the same, given the parameters before
it. -/
theorem foldr_functionUses_swap {child : Node} {locals : List String}
    (spelled : child.HasIdentifiers) (lacks : child.Lacks fresh)
    (isLocal : child.isNamed = true → child.field = some .body →
      name ∈ locals ∨ Binds name .part child)
    (rest : Usage) :
    (Reading.functionUses (locals.map (Equiv.swap name fresh))
      (child.renameIfLocal (Equiv.swap name fresh))).foldr
        (fun use usage => use.apply ((child.renameIfLocal (Equiv.swap name fresh)).usage use.role) ∪
          usage) rest =
      (Reading.functionUses locals child).foldr
        (fun use usage => use.apply (child.usage use.role) ∪ usage) rest := by
  have named : (child.renameIfLocal (Equiv.swap name fresh)).isNamed = child.isNamed := by
    simp [isNamed]
  simp only [Reading.functionUses, named, field_renameIfLocal]
  split
  · next isNamed =>
    cases found : child.field with
    | none => simp [renameIfLocal, found]
    | some field =>
        cases field with
        | parameters =>
            simp only [renameIfLocal, found, List.foldr_cons, List.foldr_nil, Use.apply]
            rw [usage_mapChildren_renameParameter]
        | body =>
            simp only [renameIfLocal, found, List.foldr_cons, List.foldr_nil, Use.apply]
            rw [enclose_rename_swap spelled lacks (isLocal isNamed found)]
        | _ => simp [renameIfLocal, found]
  · rfl

theorem usageOfAll_functionPlan_swap {children : List Node} {locals : List String}
    (spelled : ∀ child ∈ children, child.HasIdentifiers)
    (lacks : ∀ child ∈ children, child.Lacks fresh)
    (isLocal : ∀ before body after, children = before ++ body :: after → body.isNamed = true →
      body.field = some .body → name ∈ locals ++ parametersAmong before ∨ Binds name .part body) :
    usageOfAll
        (Reading.functionPlan (locals.map (Equiv.swap name fresh))
          (children.map (renameIfLocal (Equiv.swap name fresh))))
        (children.map (renameIfLocal (Equiv.swap name fresh))) =
      usageOfAll (Reading.functionPlan locals children) children := by
  simp only [Reading.functionPlan_eq_carry]
  -- From left to right, the parameters before a child being local to it.
  induction children generalizing locals with
  | nil => rfl
  | cons child children ih =>
      simp only [List.forall_mem_cons] at spelled lacks
      have here : child.isNamed = true → child.field = some .body →
          name ∈ locals ∨ Binds name .part child := by
        intro named field
        simpa [parametersAmong] using isLocal [] child children rfl named field
      have later : ∀ before body after, children = before ++ body :: after → body.isNamed = true →
          body.field = some .body →
            name ∈ (locals ++ parametersAmong [child]) ++ parametersAmong before ∨
              Binds name .part body := by
        rintro before body after rfl named field
        rw [List.append_assoc, ← parametersAmong_cons]
        exact isLocal (child :: before) body after rfl named field
      have rest := ih spelled.2 lacks.2 later
      simp only [List.map_cons, Planned.carry, usageOfAll, parametersAmong_renameIfLocal,
        ← List.map_append, rest]
      exact foldr_functionUses_swap spelled.1 lacks.1 here _

theorem childIn_renameLocals (function : Node) :
    (function.renameLocals change).childIn .name = function.childIn .name := by
  have found : (function.renameLocals change).childIn .name =
      (function.childIn .name).map (renameIfLocal change) := by
    rw [renameLocals, childIn, mapChildren, Node.children, List.find?_map]
    simp only [Function.comp_def, field_renameIfLocal]
    rfl
  rw [found]
  cases first : function.childIn .name with
  | none => rfl
  | some child =>
      have field : child.field = some .name := by simpa using List.find?_some first
      simp [renameIfLocal, field]

theorem usage_function {function : Node} (isFunction : function.kind = .functionDefinition) :
    function.usage .statement = Reading.bindingIn function .name ∪
      usageOfAll (Reading.functionPlan [] function.children) function.children := by
  rw [usage_eq, Reading.of, isFunction]
  rfl

end Node

/-- The names of a function definition stay the same if a local is replaced by a name that does not
occur in the definition. Defaults and annotations, which are evaluated outside, may mention the name
of the local. -/
theorem renaming_locals_changes_nothing (node : Node) (isFunction : node.kind = .functionDefinition)
    (spelled : node.HasIdentifiers) (name fresh : String)
    (isLocal : ∀ before body, HasBody node before body →
      IsParameterAmong name before ∨ Binds name .part body)
    (lacks : node.Lacks fresh) :
    (node.renameLocals (Function.update id name fresh)).usage .statement =
      node.usage .statement := by
  have agree : ∀ other, other ≠ fresh →
      Function.update id name fresh other = Equiv.swap name fresh other := by
    intro other notFresh
    by_cases same : other = name
    · simp [same]
    · simp [same, Equiv.swap_apply_of_ne_of_ne same notFresh]
  have localOrBound : ∀ before body after, node.children = before ++ body :: after →
      body.isNamed = true → body.field = some .body →
      name ∈ [] ++ Node.parametersAmong before ∨ Binds name .part body := by
    intro before body after children named field
    rw [List.nil_append, Node.mem_parametersAmong_iff]
    exact isLocal before body ⟨⟨after, children⟩, named, field⟩
  have sameParts := Node.usageOfAll_functionPlan_swap (Node.everywhere_iff.mp spelled).2
    (Node.everywhere_iff.mp lacks).2 localOrBound
  have stillFunction : (node.renameLocals (Equiv.swap name fresh)).kind = .functionDefinition :=
    isFunction
  rw [Node.renameLocals_congr agree lacks, Node.usage_function isFunction,
    Node.usage_function stillFunction]
  simp only [Reading.bindingIn, Node.childIn_renameLocals]
  exact congrArg _ sameParts

namespace Sample

/-- The body `a = g(lambda y=a: y)`. -/
def capturedBody : Node :=
  .mk .block (some .body) ""
    [assigning "a"
      [.mk .call none ""
        [.mk .identifier (some .function) "g" [],
         .mk .other none ""
          [.mk .sign none "(" [], capturing (.mk .identifier (some .value) "a" []),
           .mk .sign none ")" []]]]]

/-- The definition of `f(a, *b, (c, d)=1)` with this body. -/
def captured : Node := function parameters capturedBody

end Sample

theorem renaming_locals_changes_nothing_sample :
    Sample.captured.kind = .functionDefinition ∧ Sample.captured.HasIdentifiers ∧
      (∀ before body, HasBody Sample.captured before body →
        IsParameterAmong "a" before ∨ Binds "a" .part body) ∧
      Sample.captured.Lacks "z" ∧
      (Sample.captured.renameLocals (Function.update id "a" "z")).usage .statement =
        Sample.captured.usage .statement ∧
      (Sample.captured.usage .statement).uses = ["g"] := by
  have checked : Sample.captured.HasIdentifiers ∧ Sample.captured.Lacks "z" ∧
      "a" ∈ (Sample.capturedBody.usage .part).bound ∧
        (Sample.captured.usage .statement).uses = ["g"] := by
    decide +kernel
  rcases checked with ⟨spelled, lacks, bound, uses⟩
  have isLocal : ∀ before body, HasBody Sample.captured before body →
      IsParameterAmong "a" before ∨ Binds "a" .part body := by
    intro before body hasBody
    rw [Sample.eq_of_hasBody_function hasBody, ← mem_bound_usage_iff]
    exact Or.inr bound
  exact ⟨rfl, spelled, isLocal, lacks,
    renaming_locals_changes_nothing _ rfl spelled "a" "z" isLocal lacks, uses⟩

end NotebookSlice.Syntax

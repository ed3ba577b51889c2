import NotebookSlice.Proofs.Facts.Parts

/-!
# Names in scopes

What it means that a statement binds a name, that it changes a container in place, and that it reads
a name from outside, by the rules of the analysis for the parts of constructs. The names collected
by the walk over the syntax tree are exactly these: what is defined is bound or changed, and what is
used is read.

Scopes follow the analysis too, where they differ from those of the language. What the body of a
class binds is local in the functions within it, which in the language do not see these names, and
declarations by `global` and `nonlocal` do not count: a name that a body binds is local to it.
-/

namespace NotebookSlice.Syntax

/-- Something holds of a node in its role, or of a part of it in the role of the part, and so on
inwards within the same scope. -/
inductive Within (holds : Role → Node → Prop) : Role → Node → Prop
  | here {role : Role} {node : Node} (isTrue : holds role node) : Within holds role node
  | part {role partRole : Role} {node part : Node} (isPart : Part role node partRole part)
      (within : Within holds partRole part) : Within holds role node

/-- The node itself binds a plain name. -/
inductive BindsHere (name : String) : Role → Node → Prop
  | target {node : Node} (kind : node.kind = .identifier) (text : node.text = name) :
      BindsHere name .target node
  | renamed {node : Node} (kind : node.kind = .asPatternTarget) (leaf : node.namedChildren = [])
      (text : node.text = name) : BindsHere name .target node
  | imported {node item : Node} (kind : node.kind = .importStatement)
      (member : item ∈ node.namedChildren) (field : item.field = some .name)
      (bound : item.importedName = some name) : BindsHere name .statement node
  | definition {node child : Node}
      (kind : node.kind = .functionDefinition ∨ node.kind = .classDefinition)
      (found : node.childIn .name = some child) (text : child.text = name) :
      BindsHere name .statement node
  | walrus {node child : Node} {locals : List String} (kind : node.kind = .namedExpression)
      (found : node.childIn .name = some child) (text : child.text = name) :
      BindsHere name (.expression locals) node

/-- The node itself changes a container in place: it stores into a member or an element, or calls a
method. -/
inductive MutatesHere (name : String) : Role → Node → Prop
  | store {node : Node} (kind : node.kind = .attribute ∨ node.kind = .subscript)
      (base : node.baseName = some name) : MutatesHere name .target node
  | method {node callee : Node} {locals : List String} (kind : node.kind = .call)
      (found : node.childIn .function = some callee) (isMember : callee.kind = .attribute)
      (base : callee.baseName = some name) (free : name ∉ locals) :
      MutatesHere name (.expression locals) node

/-- The node itself is a name that is read and not local. -/
inductive ReadsHere (name : String) : Role → Node → Prop
  | name {node : Node} {locals : List String} (kind : node.kind = .identifier)
      (text : node.text = name) (free : name ∉ locals) : ReadsHere name (.expression locals) node

/-- The name is bound as a plain name: it is a target of an assignment, a loop, a `with` item or an
exception handler, the name of an import or a definition, or the target of a walrus. -/
def Binds (name : String) : Role → Node → Prop := Within (BindsHere name)

/-- The name is that of a container that is changed in place. -/
def Mutates (name : String) : Role → Node → Prop := Within (MutatesHere name)

/-- The name is read from outside: by an expression in which it is not local, or by the body of a
definition, where it is neither a parameter nor bound. -/
inductive Reads (name : String) : Role → Node → Prop
  | here {role : Role} {node : Node} (isRead : ReadsHere name role node) : Reads name role node
  | part {role partRole : Role} {node part : Node} (isPart : Part role node partRole part)
      (reads : Reads name partRole part) : Reads name role node
  | body {node body : Node} {locals : List String} (isBody : Body node locals body)
      (reads : Reads name .part body) (free : name ∉ locals) (unbound : ¬Binds name .part body) :
      Reads name .statement node

/-! ### Collected names -/

namespace Usage

/-- A way to look at collected names that goes through unions. -/
structure Collects (view : Usage → List String) : Prop where
  empty : view ∅ = []
  union : ∀ first second, view (first ∪ second) = view first ++ view second

theorem collects_defs : Collects defs := ⟨rfl, fun _ _ => rfl⟩

theorem collects_uses : Collects uses := ⟨rfl, fun _ _ => rfl⟩

theorem collects_bound : Collects bound := ⟨rfl, fun _ _ => rfl⟩

theorem mem_uses_enclose {name : String} {locals : List String} {body : Usage} :
    name ∈ (body.enclose locals).uses ↔ name ∈ body.uses ∧ name ∉ locals ∧ name ∉ body.bound := by
  simp [enclose]

end Usage

namespace Node

variable {view : Usage → List String} {name : String} {role : Role} {node : Node}

theorem mem_usageOfAll_iff (collects : Usage.Collects view) (plan : List (List Use))
    (children : List Node) :
    name ∈ view (usageOfAll plan children) ↔
      ∃ use child, Planned plan children use child ∧
        name ∈ view (use.apply (child.usage use.role)) := by
  induction children generalizing plan with
  | nil => cases plan <;> simp [usageOfAll, collects.empty]
  | cons child children ih =>
      cases plan with
      | nil => simp [usageOfAll, collects.empty]
      | cons uses plan =>
          have folded : ∀ (rest : Usage), name ∈ view (uses.foldr
              (fun use usage => use.apply (child.usage use.role) ∪ usage) rest) ↔
                (∃ use ∈ uses, name ∈ view (use.apply (child.usage use.role))) ∨
                  name ∈ view rest := by
            intro rest
            induction uses with
            | nil => simp
            | cons use uses ih => simp [collects.union, ih, or_assoc]
          rw [usageOfAll, folded, ih]
          simp only [Planned.cons]
          grind

/-- The names of a node are its own, with those of what is visited. -/
theorem mem_usage_iff_visits (collects : Usage.Collects view) :
    name ∈ view (node.usage role) ↔ name ∈ view ((Reading.of role node).own node) ∨
      ∃ use child, Visits role node use child ∧ name ∈ view (use.apply (child.usage use.role)) := by
  rcases node with ⟨kind, field, text, children⟩
  rw [usage, collects.union, List.mem_append, mem_usageOfAll_iff collects]
  rfl

theorem usage_part_of_not_isClause (noClause : node.kind.isClause = false) :
    node.usage .part = node.usage node.kind.partRole := by
  have same := Reading.of_part_of_not_isClause noClause
  rcases node with ⟨kind, field, text, children⟩
  rw [usage, usage, same]

/-- The names of a node are its own, with those of its parts and, around a definition, those that
its body contributes. -/
theorem mem_usage_iff (collects : Usage.Collects view)
    (direct : role = .part → node.kind.isClause = true) :
    name ∈ view (node.usage role) ↔ name ∈ view ((Reading.of role node).own node) ∨
      (∃ partRole part, Part role node partRole part ∧ name ∈ view (part.usage partRole)) ∨
        role = .statement ∧ ∃ locals body, Body node locals body ∧
          name ∈ view ((body.usage .part).enclose locals) := by
  rw [mem_usage_iff_visits collects]
  refine or_congr_right ⟨?_, ?_⟩
  · rintro ⟨use, child, visits, member⟩
    rcases visits.sound direct with ⟨unscoped, isPart⟩ | ⟨isStatement, locals, rfl, isBody⟩
    · refine Or.inl ⟨use.role, child, isPart, ?_⟩
      rwa [Use.apply, unscoped] at member
    · exact Or.inr ⟨isStatement, locals, child, isBody, member⟩
  · rintro (⟨partRole, part, isPart, member⟩ | ⟨rfl, locals, body, isBody, member⟩)
    · exact ⟨_, part, isPart.visits direct, member⟩
    · exact ⟨_, body, isBody.visits, member⟩

end Node

/-! ### What a node contributes itself -/

namespace Usage

/-- The collected names consist of those with certain properties. -/
structure Consists (usage : Usage) (binds mutates reads : String → Prop) : Prop where
  bound : ∀ name, name ∈ usage.bound ↔ binds name
  defs : ∀ name, name ∈ usage.defs ↔ binds name ∨ mutates name
  uses : ∀ name, name ∈ usage.uses ↔ reads name ∨ mutates name

variable {usage : Usage} {binds mutates reads : String → Prop}

theorem consists_bindings {names : List String} (isBound : ∀ name, name ∈ names ↔ binds name)
    (noMutates : ∀ name, ¬mutates name) (noReads : ∀ name, ¬reads name) :
    Consists { defs := names, bound := names } binds mutates reads :=
  ⟨isBound, by simpa [noMutates] using isBound, by simp [noReads, noMutates]⟩

theorem consists_mutations {names : List String} (isMutated : ∀ name, name ∈ names ↔ mutates name)
    (noBinds : ∀ name, ¬binds name) (noReads : ∀ name, ¬reads name) :
    Consists { defs := names, uses := names } binds mutates reads :=
  ⟨by simpa using noBinds, by simpa [noBinds] using isMutated, by simpa [noReads] using isMutated⟩

theorem consists_readings {names : List String} (isRead : ∀ name, name ∈ names ↔ reads name)
    (noBinds : ∀ name, ¬binds name) (noMutates : ∀ name, ¬mutates name) :
    Consists { uses := names } binds mutates reads :=
  ⟨by simpa using noBinds, by simp [noBinds, noMutates], by simpa [noMutates] using isRead⟩

theorem consists_empty (noBinds : ∀ name, ¬binds name) (noMutates : ∀ name, ¬mutates name)
    (noReads : ∀ name, ¬reads name) : Consists ∅ binds mutates reads :=
  consists_readings (by simpa using noReads) noBinds noMutates

end Usage

namespace Reading

theorem own_imports (node : Node) :
    let names := node.namedChildren.filterMap fun child =>
      if child.field == some .name then child.importedName else none
    own .imports node = { defs := names, bound := names } := by
  simp only [own]
  induction node.namedChildren.filterMap fun child =>
      if child.field == some .name then child.importedName else none with
  | nil => rfl
  | cons name names ih =>
      rw [List.foldr_cons, ih]
      rfl

theorem bindingIn_eq (node : Node) (field : Field) :
    let names := ((node.childIn field).map Node.text).toList
    bindingIn node field = { defs := names, bound := names } := by
  rw [bindingIn.eq_def]
  cases node.childIn field <;> rfl

theorem mutationOf_eq (locals : List String) (base : Option String) :
    let names := base.toList.filter fun name => !locals.contains name
    mutationOf locals base = { defs := names, uses := names } := by
  rw [mutationOf.eq_def]
  cases base with
  | none => rfl
  | some container =>
      by_cases isLocal : container ∈ locals
      · simp [isLocal]
        rfl
      · simp [isLocal]
        rfl

variable {node : Node}

theorem own_name (kind : node.kind = .identifier) (locals : List String) :
    (of (.expression locals) node).own node =
      { uses := [node.text].filter fun name => !locals.contains name } := by
  rw [of, kind, ofExpression, own]
  by_cases isLocal : node.text ∈ locals
  · simp [isLocal]
    rfl
  · simp [isLocal]

theorem own_method {callee : Node} (kind : node.kind = .call)
    (found : node.childIn .function = some callee) (isMember : callee.kind = .attribute)
    (locals : List String) :
    (of (.expression locals) node).own node = mutationOf locals callee.baseName := by
  rw [of, kind]
  simp [ofExpression, own, found, isMember]

theorem own_expression_eq_empty (noName : node.kind ≠ .identifier)
    (noWalrus : node.kind ≠ .namedExpression)
    (noMethod : ¬(node.kind = .call ∧
      ∃ callee, node.childIn .function = some callee ∧ callee.kind = .attribute))
    (locals : List String) : (of (.expression locals) node).own node = ∅ := by
  rw [of]
  cases kind : node.kind with
  | identifier => exact absurd kind noName
  | namedExpression => exact absurd kind noWalrus
  | call =>
      cases found : node.childIn .function with
      | none => simp [ofExpression, own, found]
      | some callee =>
          have noMember : callee.kind ≠ .attribute :=
            fun isMember => noMethod ⟨kind, callee, found, isMember⟩
          simp [ofExpression, own, found, noMember]
  | _ => rfl

end Reading

theorem consists_own_statement (node : Node) :
    ((Reading.of .statement node).own node).Consists (BindsHere · .statement node)
    (MutatesHere · .statement node)
      (ReadsHere · .statement node) := by
  have noMutates : ∀ name, ¬MutatesHere name .statement node := by rintro name ⟨⟩
  have noReads : ∀ name, ¬ReadsHere name .statement node := by rintro name ⟨⟩
  by_cases imports : node.kind = .importStatement
  · rw [Reading.of, imports, Reading.ofStatement, Reading.own_imports]
    refine Usage.consists_bindings ?_ noMutates noReads
    intro name
    simp only [List.mem_filterMap, beq_iff_eq, Option.ite_none_right_eq_some]
    constructor
    · rintro ⟨item, member, field, bound⟩
      exact .imported imports member field bound
    · rintro (_ | _ | ⟨_, member, field, bound⟩ | ⟨kind, _, _⟩)
      · exact ⟨_, member, field, bound⟩
      · simp [imports] at kind
  by_cases definition : node.kind = .functionDefinition ∨ node.kind = .classDefinition
  · have own : (Reading.of .statement node).own node = Reading.bindingIn node .name := by
      rcases definition with kind | kind <;> rw [Reading.of, kind] <;> rfl
    rw [own, Reading.bindingIn_eq]
    refine Usage.consists_bindings ?_ noMutates noReads
    intro name
    simp only [Option.mem_toList, Option.map_eq_some_iff]
    constructor
    · rintro ⟨child, found, text⟩
      exact .definition definition found text
    · rintro (_ | _ | ⟨kind, _, _, _⟩ | ⟨_, found, text⟩)
      · exact absurd kind imports
      · exact ⟨_, found, text⟩
  · have nothing : (Reading.of .statement node).own node = ∅ := by
      rw [Reading.of]
      cases kind : node.kind <;> simp_all <;> rfl
    rw [nothing]
    refine Usage.consists_empty ?_ noMutates noReads
    rintro name ⟨⟩ <;> contradiction

theorem consists_own_target (node : Node) :
    ((Reading.of .target node).own node).Consists (BindsHere · .target node)
    (MutatesHere · .target node)
      (ReadsHere · .target node) := by
  have noReads : ∀ name, ¬ReadsHere name .target node := by rintro name ⟨⟩
  by_cases container : node.kind = .attribute ∨ node.kind = .subscript
  · have own : (Reading.of .target node).own node = Reading.mutationOf [] node.baseName := by
      rcases container with kind | kind <;> rw [Reading.of, kind] <;> rfl
    rw [own, Reading.mutationOf_eq]
    refine Usage.consists_mutations ?_ ?_ noReads
    · intro name
      simp only [List.contains_nil, Bool.not_false, List.mem_filter, Option.mem_toList, and_true]
      constructor
      · intro base
        exact .store container base
      · rintro ⟨_, base⟩
        exact base
    · rintro name (⟨kind, _⟩ | ⟨kind, _, _⟩) <;> simp [kind] at container
  have noMutates : ∀ name, ¬MutatesHere name .target node := by
    rintro name ⟨kind, _⟩
    exact container kind
  by_cases isName : node.kind = .identifier ∨ node.kind = .asPatternTarget ∧ node.namedChildren = []
  · have own : (Reading.of .target node).own node =
        { defs := [node.text], bound := [node.text] } := by
      rcases isName with kind | ⟨kind, leaf⟩
      · rw [Reading.of, kind]
        rfl
      · rw [Reading.of, kind, leaf]
        rfl
    rw [own]
    refine Usage.consists_bindings ?_ noMutates noReads
    intro name
    simp only [List.mem_singleton]
    constructor
    · rintro rfl
      rcases isName with kind | ⟨kind, leaf⟩
      · exact .target kind rfl
      · exact .renamed kind leaf rfl
    · rintro (⟨_, text⟩ | ⟨_, _, text⟩) <;> exact text.symm
  · have noLeaf : ¬(node.kind = .asPatternTarget ∧ node.namedChildren.isEmpty = true) := by
      simpa using fun kind leaf => isName (Or.inr ⟨kind, leaf⟩)
    rw [Reading.of_target (fun kind => isName (Or.inl kind)) (fun kind => container (Or.inl kind))
      (fun kind => container (Or.inr kind)) noLeaf]
    refine Usage.consists_empty ?_ noMutates noReads
    rintro name (⟨kind, _⟩ | ⟨kind, leaf, _⟩)
    · exact isName (Or.inl kind)
    · exact isName (Or.inr ⟨kind, leaf⟩)

theorem consists_own_expression (node : Node) (locals : List String) :
    ((Reading.of (.expression locals) node).own node).Consists
      (BindsHere · (.expression locals) node) (MutatesHere · (.expression locals) node)
      (ReadsHere · (.expression locals) node) := by
  by_cases isName : node.kind = .identifier
  · rw [Reading.own_name isName]
    refine Usage.consists_readings ?_ ?_ ?_
    · intro name
      simp only [List.mem_filter, List.mem_singleton, Bool.not_eq_true', List.contains_eq_mem,
        decide_eq_false_iff_not]
      constructor
      · rintro ⟨rfl, free⟩
        exact .name isName rfl free
      · rintro ⟨_, rfl, free⟩
        exact ⟨rfl, free⟩
    · rintro name (_ | _ | _ | _ | ⟨kind, _, _⟩)
      simp [isName] at kind
    · rintro name (_ | ⟨kind, _, _, _, _⟩)
      simp [isName] at kind
  have noReads : ∀ name, ¬ReadsHere name (.expression locals) node := by
    rintro name ⟨kind, _, _⟩
    exact isName kind
  by_cases walrus : node.kind = .namedExpression
  · rw [Reading.of, walrus, Reading.ofExpression, Reading.own, Reading.bindingIn_eq]
    refine Usage.consists_bindings ?_ ?_ noReads
    · intro name
      simp only [Option.mem_toList, Option.map_eq_some_iff]
      constructor
      · rintro ⟨child, found, text⟩
        exact .walrus walrus found text
      · rintro (_ | _ | _ | _ | ⟨_, found, text⟩)
        exact ⟨_, found, text⟩
    · rintro name (_ | ⟨kind, _, _, _, _⟩)
      simp [walrus] at kind
  have noBinds : ∀ name, ¬BindsHere name (.expression locals) node := by
    rintro name (_ | _ | _ | _ | ⟨kind, _, _⟩)
    exact walrus kind
  by_cases method : node.kind = .call ∧
    ∃ callee, node.childIn .function = some callee ∧ callee.kind = .attribute
  · rcases method with ⟨kind, callee, found, isMember⟩
    rw [Reading.own_method kind found isMember, Reading.mutationOf_eq]
    refine Usage.consists_mutations ?_ noBinds noReads
    intro name
    simp only [List.mem_filter, Option.mem_toList, Bool.not_eq_true', List.contains_eq_mem,
      decide_eq_false_iff_not]
    constructor
    · rintro ⟨base, free⟩
      exact .method kind found isMember base free
    · rintro (_ | ⟨_, otherFound, _, base, free⟩)
      rw [found, Option.some.injEq] at otherFound
      subst otherFound
      exact ⟨base, free⟩
  · rw [Reading.own_expression_eq_empty isName walrus method]
    refine Usage.consists_empty noBinds ?_ noReads
    rintro name (_ | ⟨kind, found, isMember, _, _⟩)
    exact method ⟨kind, _, found, isMember⟩

/-- What a node contributes itself is what it binds, changes and reads itself. -/
theorem consists_own {role : Role} {node : Node}
    (direct : role = .part → node.kind.isClause = true) :
    ((Reading.of role node).own node).Consists (BindsHere · role node) (MutatesHere · role node)
      (ReadsHere · role node) := by
  cases role with
  | statement => exact consists_own_statement node
  | target => exact consists_own_target node
  | expression locals => exact consists_own_expression node locals
  | part =>
      have nothing : (Reading.of .part node).own node = ∅ := by
        have clause := direct rfl
        rw [Reading.of]
        cases kind : node.kind <;> first | rfl | simp [kind, Kind.isClause] at clause
      rw [nothing]
      exact Usage.consists_empty (by rintro name ⟨⟩) (by rintro name ⟨⟩) (by rintro name ⟨⟩)
  | parameter =>
      have nothing : (Reading.of .parameter node).own node = ∅ := by
        rw [Reading.of]
        split <;> rfl
      rw [nothing]
      exact Usage.consists_empty (by rintro name ⟨⟩) (by rintro name ⟨⟩) (by rintro name ⟨⟩)
  | _ => exact Usage.consists_empty (by rintro name ⟨⟩) (by rintro name ⟨⟩) (by rintro name ⟨⟩)

/-! ### What a node contributes with its parts -/

section Within

variable {holds : Role → Node → Prop} {role partRole : Role} {node part : Node} {name : String}

/-- Parts other than the node itself are children. -/
theorem Part.mem_children (isPart : Part role node partRole part)
    (direct : role = .part → node.kind.isClause = true) :
    part ∈ node.children := (isPart.visits direct).mem

theorem Part.eq_of_not_isClause (isPart : Part .part node partRole part)
    (noClause : node.kind.isClause = false) :
    partRole = node.kind.partRole ∧ part = node := by
  cases isPart with
  | itself => exact ⟨rfl, rfl⟩
  | inBlock kind | caught kind | handlerPart kind => simp [kind, Kind.isClause] at noClause
  | clauseTarget kind | clausePart kind =>
      simp only [List.mem_cons, List.not_mem_nil, or_false] at kind
      rcases kind with kind | kind | kind | kind <;> simp [kind, Kind.isClause] at noClause

/-- Induction over nodes with roles. A part of a compound statement that is no clause is taken as
what it is. -/
theorem Node.roleInduction {motive : Role → Node → Prop}
    (direct : ∀ role node, (role = .part → node.kind.isClause = true) →
      (∀ child ∈ node.children, ∀ role, motive role child) → motive role node)
    (itself : ∀ node, node.kind.isClause = false → motive node.kind.partRole node →
      motive .part node)
    (role : Role) (node : Node) : motive role node := by
  induction node using Node.induction generalizing role with
  | step node ih =>
      by_cases isDirect : role = .part → node.kind.isClause = true
      · exact direct role node isDirect ih
      · simp only [Classical.not_imp, Bool.not_eq_true] at isDirect
        rcases isDirect with ⟨rfl, noClause⟩
        exact itself node noClause
          (direct _ node (fun isPart => absurd isPart (Kind.partRole_ne_part _)) ih)

/-- What a node contributes is what is contributed within it, if it is what the node itself
contributes, with what its parts contribute. -/
theorem within_iff (member : Role → Node → Prop)
    (step : ∀ role node, (role = .part → node.kind.isClause = true) →
      (member role node ↔ holds role node ∨
      ∃ partRole part, Part role node partRole part ∧ member partRole part))
    (same : ∀ node, node.kind.isClause = false →
      (member .part node ↔ member node.kind.partRole node))
    (notHere : ∀ node, ¬holds .part node) (role : Role) (node : Node) :
    member role node ↔ Within holds role node := by
  induction role, node using Node.roleInduction with
  | direct role node direct ih =>
      rw [step role node direct]
      constructor
      · rintro (isTrue | ⟨partRole, part, isPart, isMember⟩)
        · exact .here isTrue
        · exact .part isPart ((ih part (isPart.mem_children direct) partRole).mp isMember)
      · rintro (isTrue | ⟨isPart, within⟩)
        · exact Or.inl isTrue
        · exact Or.inr ⟨_, _, isPart, (ih _ (isPart.mem_children direct) _).mpr within⟩
  | itself node noClause ih =>
      rw [same node noClause, ih]
      constructor
      · exact .part (.itself noClause)
      · rintro (isTrue | ⟨isPart, within⟩)
        · exact absurd isTrue (notHere node)
        · rcases isPart.eq_of_not_isClause noClause with ⟨rfl, rfl⟩
          exact within

theorem within_or_iff {other : Role → Node → Prop} :
    Within (fun role node => holds role node ∨ other role node) role node ↔
      Within holds role node ∨ Within other role node := by
  constructor
  · intro within
    induction within with
    | here isTrue => exact isTrue.imp .here .here
    | part isPart _ ih => exact ih.imp (.part isPart) (.part isPart)
  · rintro (within | within)
    · induction within with
      | here isTrue => exact .here (Or.inl isTrue)
      | part isPart _ ih => exact .part isPart ih
    · induction within with
      | here isTrue => exact .here (Or.inr isTrue)
      | part isPart _ ih => exact .part isPart ih

/-- The names collected as bound are those that are bound. -/
theorem mem_bound_usage_iff (node : Node) (role : Role) :
    name ∈ (node.usage role).bound ↔ Binds name role node := by
  refine within_iff (fun role node => name ∈ (node.usage role).bound) ?_ ?_ ?_ role node
  · intro role node direct
    rw [Node.mem_usage_iff Usage.collects_bound direct, (consists_own direct).bound]
    simp [Usage.enclose]
  · intro node noClause
    rw [Node.usage_part_of_not_isClause noClause]
  · rintro node ⟨⟩

/-- The names collected as defined are those that are bound, with those of containers that are
changed. -/
theorem mem_defs_usage_iff (node : Node) (role : Role) :
    name ∈ (node.usage role).defs ↔ Binds name role node ∨ Mutates name role node := by
  rw [Binds, Mutates, ← within_or_iff]
  refine within_iff (fun role node => name ∈ (node.usage role).defs) ?_ ?_ ?_ role node
  · intro role node direct
    rw [Node.mem_usage_iff Usage.collects_defs direct, (consists_own direct).defs]
    simp [Usage.enclose]
  · intro node noClause
    rw [Node.usage_part_of_not_isClause noClause]
  · rintro node (binds | mutates)
    · cases binds
    · cases mutates

end Within

/-! ### Changed containers are read -/

section Bases

variable {name : String} {node : Node} {locals : List String}

theorem Node.baseNameIn_eq (field : Field) (children : List Node) :
    baseNameIn field children = (children.find? (·.field == some field)).bind baseName := by
  induction children with
  | nil => rfl
  | cons child children ih =>
      rw [baseNameIn, List.find?_cons]
      cases child.field == some field
      · simpa using ih
      · simp

/-- A chain of attributes and subscripts ends at the name, or goes on in a child. -/
theorem Node.baseName_cases (base : node.baseName = some name) :
    node.kind = .identifier ∧ node.text = name ∨
      ∃ child, child ∈ node.namedChildren ∧ child.baseName = some name ∧
        (node.kind = .attribute ∧ node.childIn .object = some child ∨ node.kind = .subscript) := by
  have named {child : Node} (base : child.baseName = some name) : child.isNamed = true := by
    rcases child with ⟨kind, field, text, children⟩
    cases kind <;> first | rfl | simp [baseName] at base
  rcases node with ⟨kind, field, text, children⟩
  cases kind with
  | identifier =>
      rw [baseName] at base
      exact Or.inl ⟨rfl, Option.some.inj base⟩
  | «attribute» =>
      rw [baseName, baseNameIn_eq] at base
      rcases Option.bind_eq_some_iff.mp base with ⟨child, found, childBase⟩
      exact Or.inr ⟨child,
        Node.mem_namedChildren.mpr ⟨List.mem_of_find?_eq_some found, named childBase⟩, childBase,
        Or.inl ⟨rfl, found⟩⟩
  | subscript =>
      rw [baseName, baseNameIn_eq] at base
      rcases Option.bind_eq_some_iff.mp base with ⟨child, found, childBase⟩
      exact Or.inr ⟨child,
        Node.mem_namedChildren.mpr ⟨List.mem_of_find?_eq_some found, named childBase⟩, childBase,
        Or.inr rfl⟩
  | _ => simp [baseName] at base

/-- The name at the root of a chain of attributes and subscripts is read with it. -/
theorem reads_of_baseName (base : node.baseName = some name) (free : name ∉ locals) :
    Reads name (.expression locals) node := by
  induction node using Node.induction with
  | step node ih =>
      rcases Node.baseName_cases base with
        ⟨kind, text⟩ | ⟨child, member, childBase, ⟨kind, found⟩ | kind⟩
      · exact .here (.name kind text free)
      · exact .part (.object kind found) (ih child (Node.mem_namedChildren.mp member).1 childBase)
      · exact .part (.operand (by rw [kind]; rfl) member)
          (ih child (Node.mem_namedChildren.mp member).1 childBase)

theorem MutatesHere.reads {role : Role} (mutates : MutatesHere name role node) :
    Reads name role node := by
  cases mutates with
  | store kind base =>
      rcases Node.baseName_cases base with
        ⟨isName, _⟩ | ⟨child, member, childBase, ⟨kind, found⟩ | kind⟩
      · simp [isName] at kind
      · exact .part (.memberObject kind found) (reads_of_baseName childBase (by simp))
      · exact .part (.elementPart kind member) (reads_of_baseName childBase (by simp))
  | method kind found isMember base free =>
      have member : _ ∈ node.namedChildren :=
        Node.mem_namedChildren.mpr
          ⟨List.mem_of_find?_eq_some found, by simp [Node.isNamed, isMember]⟩
      exact .part (.operand (by rw [kind]; rfl) member) (reads_of_baseName base free)

/-- A container is read wherever it is changed. -/
theorem Mutates.reads {role : Role} (mutates : Mutates name role node) : Reads name role node := by
  induction mutates with
  | here isTrue => exact isTrue.reads
  | part isPart _ ih => exact .part isPart ih

/-- The names collected as used are those that are read. -/
theorem mem_uses_usage_iff (node : Node) (role : Role) :
    name ∈ (node.usage role).uses ↔ Reads name role node := by
  induction role, node using Node.roleInduction with
  | direct role node direct ih =>
      rw [Node.mem_usage_iff Usage.collects_uses direct, (consists_own direct).uses]
      constructor
      · rintro ((isRead | mutates) | ⟨partRole, part, isPart, isMember⟩ |
          ⟨rfl, locals, body, isBody, isMember⟩)
        · exact .here isRead
        · exact mutates.reads
        · exact .part isPart ((ih part (isPart.mem_children direct) partRole).mp isMember)
        · rw [Usage.mem_uses_enclose, mem_bound_usage_iff] at isMember
          exact .body isBody ((ih body isBody.visits.mem .part).mp isMember.1)
            isMember.2.1 isMember.2.2
      · rintro (isRead | ⟨isPart, reads⟩ | ⟨isBody, reads, free, unbound⟩)
        · exact Or.inl (Or.inl isRead)
        · exact Or.inr (Or.inl ⟨_, _, isPart, (ih _ (isPart.mem_children direct) _).mpr reads⟩)
        · refine Or.inr (Or.inr ⟨rfl, _, _, isBody, ?_⟩)
          rw [Usage.mem_uses_enclose, mem_bound_usage_iff]
          exact ⟨(ih _ isBody.visits.mem .part).mpr reads, free, unbound⟩
  | itself node noClause ih =>
      rw [Node.usage_part_of_not_isClause noClause, ih]
      constructor
      · exact .part (.itself noClause)
      · rintro (isRead | ⟨isPart, reads⟩)
        · cases isRead
        · rcases isPart.eq_of_not_isClause noClause with ⟨rfl, rfl⟩
          exact reads

end Bases

end NotebookSlice.Syntax

import NotebookSlice.Proofs.Facts.Rearrangement

/-!
# Comments and broken lines

A comment, or a backslash at the end of a line, may stand between any two tokens. The parser leaves
it in the tree as one more child of some node. In whatever role such an extra is taken, it
contributes no names, and most nodes look at their children by fields and kinds, so that the other
children keep their roles.

An exception handler counts. What it binds is the child right after the word `as` or a comma, and an
extra at that place is taken for it: the name behind the extra is read and not bound. At all other
places extras change nothing.
-/

namespace NotebookSlice

open Syntax

namespace Syntax

/-- A comment, or a backslash at the end of a line. -/
inductive IsExtra : Node → Prop
  | comment (text : String) : IsExtra (.mk .comment none text [])
  | continuation (text : String) : IsExtra (.mk .continuation none text [])

/-- One extra more stands somewhere in the tree. Its place, given by the kind of the node around it
and by the children before and after it, is an allowed one. -/
inductive Inserted (allowed : Kind → List Node → List Node → Prop) : Node → Node → Prop
  | here {extra : Node} {kind : Kind} {field : Option Field} {text : String}
      {before after : List Node} (isExtra : IsExtra extra) (isAllowed : allowed kind before after) :
      Inserted allowed (.mk kind field text (before ++ after))
        (.mk kind field text (before ++ extra :: after))
  | inside {kind : Kind} {field : Option Field} {text : String} {before after : List Node}
      {child other : Node} (inserted : Inserted allowed child other) :
      Inserted allowed (.mk kind field text (before ++ child :: after))
        (.mk kind field text (before ++ other :: after))

/-- The place is between two children. -/
def Between (_ : Kind) (before after : List Node) : Prop := before ≠ [] ∧ after ≠ []

/-- The place is right before what an exception handler binds. -/
def BeforeCaught (kind : Kind) (before after : List Node) : Prop :=
  kind = .exceptClause ∧ FollowsAs before ∧ ∃ caught ∈ after.head?, caught.isNamed = true

/-- The place is not right before what an exception handler binds. The other conditions hold between
any two children in the trees of the grammar: a dotted name starts with a name, and a target after
`as` has a child that is named. -/
structure Harmless (kind : Kind) (before after : List Node) : Prop where
  notCaught : ¬BeforeCaught kind before after
  dotted : kind = .dottedName → ∃ part ∈ before, part.isNamed = true
  target : kind = .asPatternTarget → ∃ part ∈ before ++ after, part.isNamed = true

variable {name : String} {role : Role} {extra node other : Node} {before after : List Node}

/-! ### Extras contribute nothing -/

namespace IsExtra

theorem field_eq (isExtra : IsExtra extra) : extra.field = none := by
  cases isExtra <;> rfl

theorem isNamed_eq (isExtra : IsExtra extra) : extra.isNamed = true := by
  cases isExtra <;> rfl

theorem patternNames_eq (isExtra : IsExtra extra) : extra.patternNames = [] := by
  cases isExtra <;> rfl

theorem parameterNames_eq (isExtra : IsExtra extra) : extra.parameterNames = [] := by
  cases isExtra <;> rfl

theorem kind_ne_forInClause (isExtra : IsExtra extra) : extra.kind ≠ .forInClause := by
  cases isExtra <;> simp [Node.kind]

theorem usage_eq_empty (isExtra : IsExtra extra) (role : Role) : extra.usage role = ∅ := by
  cases isExtra <;> cases role <;> rfl

theorem apply_eq_empty (isExtra : IsExtra extra) (use : Use) :
    use.apply (extra.usage use.role) = ∅ := by
  rw [isExtra.usage_eq_empty]
  rcases use with ⟨role, _ | locals⟩ <;> rfl

theorem find?_insert (isExtra : IsExtra extra) (field : Field) :
    (before ++ extra :: after).find? (·.field == some field) =
      (before ++ after).find? (·.field == some field) := by
  simp [List.find?_append, isExtra.field_eq]

end IsExtra

/-! ### Plans with a place for an extra -/

namespace Planned

variable {σ : Type} (rule : σ → Node → List Use) (next : σ → Node → σ)

theorem length_carry (state : σ) (children : List Node) :
    (carry rule next state children).length = children.length := by
  induction children generalizing state with
  | nil => rfl
  | cons child children ih => simp [carry, ih]

theorem carry_append (state : σ) (before after : List Node) :
    carry rule next state (before ++ after) =
      carry rule next state before ++ carry rule next (before.foldl next state) after := by
  induction before generalizing state with
  | nil => rfl
  | cons child before ih => simp [carry, ih]

end Planned

theorem Usage.union_assoc (first second third : Usage) :
    first ∪ second ∪ third = first ∪ (second ∪ third) := by
  simp [Union.union, Usage.union]

namespace Node

variable {plan rest : List (List Use)} {uses : List Use}

theorem usageOfAll_append (sameLength : plan.length = before.length) :
    usageOfAll (plan ++ rest) (before ++ after) = usageOfAll plan before ∪
      usageOfAll rest after := by
  induction before generalizing plan with
  | nil =>
      cases plan with
      | nil => cases rest <;> cases after <;> rfl
      | cons => simp at sameLength
  | cons child before ih =>
      cases plan with
      | nil => simp at sameLength
      | cons uses plan =>
          have later := ih (Nat.succ.inj sameLength)
          simp only [List.cons_append, usageOfAll, later]
          clear sameLength
          induction uses with
          | nil => rfl
          | cons use uses ihUses => simp only [List.foldr_cons, ihUses, Usage.union_assoc]

theorem usageOfAll_cons_extra (isExtra : IsExtra extra) :
    usageOfAll (uses :: rest) (extra :: after) = usageOfAll rest after := by
  rw [usageOfAll]
  induction uses with
  | nil => rfl
  | cons use uses ih =>
      rw [List.foldr_cons, isExtra.apply_eq_empty, ih]
      rfl

end Node

namespace Reading

/-- The plan for the children has a place for an extra: with the extra it provides for one child
more, and for the others as before. -/
def Absorbs (plan : List Node → List (List Use)) (extra : Node) (before after : List Node) : Prop :=
  ∃ front uses rest, front.length = before.length ∧ plan (before ++ after) = front ++ rest ∧
    plan (before ++ extra :: after) = front ++ uses :: rest

theorem Absorbs.usageOfAll_eq {plan : List Node → List (List Use)}
    (absorbs : Absorbs plan extra before after) (isExtra : IsExtra extra) :
    Node.usageOfAll (plan (before ++ extra :: after)) (before ++ extra :: after) =
      Node.usageOfAll (plan (before ++ after)) (before ++ after) := by
  rcases absorbs with ⟨front, uses, rest, sameLength, without, within⟩
  rw [without, within, Node.usageOfAll_append sameLength, Node.usageOfAll_append sameLength,
    Node.usageOfAll_cons_extra isExtra]

theorem Absorbs.congr {plan plan' : List Node → List (List Use)}
    (absorbs : Absorbs plan extra before after)
    (without : plan' (before ++ after) = plan (before ++ after))
    (within : plan' (before ++ extra :: after) = plan (before ++ extra :: after)) :
    Absorbs plan' extra before after := by
  rwa [Absorbs, without, within]

theorem absorbs_each (rule : Node → List Use) : Absorbs (each rule) extra before after := by
  refine ⟨each rule before, if extra.isNamed then rule extra else [], each rule after, ?_, ?_, ?_⟩
  · simp [each]
  · simp [each]
  · simp [each]

theorem absorbs_carry {σ : Type} {rule : σ → Node → List Use} {next : σ → Node → σ} {state : σ}
    (same : Planned.carry rule next (next (before.foldl next state) extra) after =
      Planned.carry rule next (before.foldl next state) after) :
    Absorbs (Planned.carry rule next state) extra before after := by
  refine ⟨Planned.carry rule next state before, rule (before.foldl next state) extra,
    Planned.carry rule next (before.foldl next state) after, ?_, ?_, ?_⟩
  · exact Planned.length_carry rule next state before
  · exact Planned.carry_append rule next state before after
  · rw [Planned.carry_append, Planned.carry, same]

theorem absorbs_onlyIn (isExtra : IsExtra extra) (field : Field) (use : Use) :
    Absorbs (onlyIn field use) extra before after := by
  induction before with
  | nil => exact ⟨[], [], onlyIn field use after, rfl, rfl, by simp [onlyIn, isExtra.field_eq]⟩
  | cons child before ih =>
      rcases ih with ⟨front, uses, rest, sameLength, without, within⟩
      cases found : child.field == some field with
      | true =>
          refine ⟨[use] :: before.map fun _ => [], [], after.map fun _ => [], by simp, ?_, ?_⟩
          · simp only [List.cons_append, onlyIn, found, if_true, List.map_append]
          · simp only [List.cons_append, onlyIn, found, if_true, List.map_append, List.map_cons]
      | false =>
          refine ⟨[] :: front, uses, rest, by simp [sameLength], ?_, ?_⟩
          · simpa [onlyIn, found] using without
          · simpa [onlyIn, found] using within

theorem absorbs_handler (isExtra : IsExtra extra)
    (notCaught : ¬BeforeCaught .exceptClause before after) :
    Absorbs (handlerPlan false) extra before after := by
  have planned : handlerPlan false =
      Planned.carry handlerUses (fun _ child => isAs child) false := by
    funext children
    exact handlerPlan_eq_carry false children
  rw [planned]
  apply absorbs_carry
  have noAs : isAs extra = false := by simp [isAs, isExtra.isNamed_eq]
  rw [noAs]
  -- What stands before the place matters only to a child right behind it that is named.
  cases follows : before.foldl (fun _ child => isAs child) false with
  | false => rfl
  | true =>
      cases after with
      | nil => rfl
      | cons child after =>
          have unnamed : child.isNamed = false := by
            by_contra named
            exact notCaught ⟨rfl, (foldl_isAs before).mp follows, child, rfl, by simpa using named⟩
          simp [Planned.carry, handlerUses, unnamed]

theorem absorbs_function (isExtra : IsExtra extra) :
    Absorbs (functionPlan []) extra before after := by
  have planned : functionPlan [] =
      Planned.carry functionUses
        (fun locals child => locals ++ Node.parametersAmong [child]) [] := by
    funext children
    exact functionPlan_eq_carry [] children
  rw [planned]
  apply absorbs_carry
  simp [Node.parametersAmong, isExtra.field_eq]

theorem Absorbs.zipWith_append {plan plan' : List Node → List (List Use)}
    (absorbs : Absorbs plan extra before after) (absorbs' : Absorbs plan' extra before after) :
    Absorbs (fun children => List.zipWith (· ++ ·) (plan children) (plan' children)) extra
      before after := by
  rcases absorbs with ⟨front, uses, rest, sameLength, without, within⟩
  rcases absorbs' with ⟨front', uses', rest', sameLength', without', within'⟩
  have lengths : front.length = front'.length := by omega
  refine ⟨List.zipWith (· ++ ·) front front', uses ++ uses',
    List.zipWith (· ++ ·) rest rest', ?_, ?_, ?_⟩
  · simp [sameLength, sameLength']
  · simp only [without, without', List.zipWith_append lengths]
  · simp only [within, within', List.zipWith_append lengths, List.zipWith_cons_cons]

theorem absorbs_lambda (isExtra : IsExtra extra) (locals : List String) :
    Absorbs (lambdaPlan locals) extra before after := by
  let own := (Node.mk .lambda none "" (before ++ after)).lambdaParameters
  have parameters : Absorbs (onlyIn .parameters ⟨.parameters, none⟩) extra before after :=
    absorbs_onlyIn isExtra _ _
  have body : Absorbs (onlyIn .body ⟨.expression (locals ++ own), none⟩) extra before after :=
    absorbs_onlyIn isExtra _ _
  apply (parameters.zipWith_append body).congr
  · rfl
  · simp only [lambdaPlan, isExtra.find?_insert]
    rfl

theorem generatorNames_insert (isExtra : IsExtra extra) :
    generatorNames (before ++ extra :: after) = generatorNames (before ++ after) := by
  simp [generatorNames, isExtra.kind_ne_forInClause]

theorem kind_of_handler {kind : Kind} {field : Option Field} {text : String} {children : List Node}
    (handler : of role (.mk kind field text children) = .handler) : kind = .exceptClause := by
  cases role with
  | statement => cases kind <;> simp [of, ofStatement, Node.kind] at handler
  | part =>
      cases kind with
      | exceptClause => rfl
      | _ => simp [of, ofPart, Node.kind, Kind.isStatement, ofStatement, ofExpression] at handler
  | target =>
      cases kind with
      | asPatternTarget =>
          simp only [of, ofTarget, Node.kind] at handler
          split at handler <;> simp at handler
      | _ => simp [of, ofTarget, Node.kind] at handler
  | expression => cases kind <;> simp [of, ofExpression, Node.kind] at handler
  | parameter =>
      rw [of] at handler
      split at handler <;> simp at handler
  | _ => simp [of] at handler

/-- At a harmless place, every plan has a place for an extra, or provides for no children at all. -/
theorem absorbs_plan (isExtra : IsExtra extra) {reading : Reading}
    (notCaught : reading = .handler → ¬BeforeCaught .exceptClause before after) :
    (∀ children, reading.plan children = []) ∨ Absorbs reading.plan extra before after := by
  cases reading with
  | nothing | name | boundName | imports => exact Or.inl fun _ => rfl
  | handler => exact Or.inr (absorbs_handler isExtra (notCaught rfl))
  | function => exact Or.inr (absorbs_function isExtra)
  | lambda locals => exact Or.inr (absorbs_lambda isExtra locals)
  | memberTarget | member | argument | namedExpression => exact Or.inr (absorbs_onlyIn isExtra _ _)
  | comprehension locals =>
      right
      apply (absorbs_each _).congr
      · rfl
      · simp only [plan, generatorNames_insert isExtra]
  | _ => exact Or.inr (absorbs_each _)

end Reading

/-! ### What a node looks at -/

namespace IsExtra

variable {kind : Kind} {field : Option Field} {text : String}

theorem childIn_insert (isExtra : IsExtra extra) (inside : Field) :
    (Node.mk kind field text (before ++ extra :: after)).childIn inside =
      (Node.mk kind field text (before ++ after)).childIn inside := by
  exact isExtra.find?_insert inside

theorem baseName_insert (isExtra : IsExtra extra) :
    (Node.mk kind field text (before ++ extra :: after)).baseName =
      (Node.mk kind field text (before ++ after)).baseName := by
  have root (inside : Field) : Node.baseNameIn inside (before ++ extra :: after) =
      Node.baseNameIn inside (before ++ after) := by
    rw [Node.baseNameIn_eq, Node.baseNameIn_eq, isExtra.find?_insert]
  cases kind with
  | «attribute» => exact root .object
  | subscript => exact root .value
  | _ => rfl

theorem importedName_insert (isExtra : IsExtra extra)
    (dotted : kind = .dottedName → ∃ part ∈ before, part.isNamed = true) :
    (Node.mk kind field text (before ++ extra :: after)).importedName =
      (Node.mk kind field text (before ++ after)).importedName := by
  cases kind with
  | aliasedImport =>
      simp only [Node.importedName, Node.kind, isExtra.childIn_insert]
  | dottedName =>
      rcases dotted rfl with ⟨part, member, named⟩
      have nonempty : before.filter Node.isNamed ≠ [] :=
        List.ne_nil_of_mem (List.mem_filter.mpr ⟨member, named⟩)
      simp only [Node.importedName, Node.kind, Node.namedChildren, Node.children,
        List.filter_append]
      rw [List.head?_append_of_ne_nil _ nonempty, List.head?_append_of_ne_nil _ nonempty]
  | _ => rfl

theorem patternNames_insert (isExtra : IsExtra extra) :
    name ∈ (Node.mk kind field text (before ++ extra :: after)).patternNames ↔
      name ∈ (Node.mk kind field text (before ++ after)).patternNames := by
  have inside : name ∈ Node.patternNamesOfAll (before ++ extra :: after) ↔
      name ∈ Node.patternNamesOfAll (before ++ after) := by
    simp [Node.mem_patternNamesOfAll_iff, isExtra.patternNames_eq, or_and_right, exists_or]
  cases kind with
  | identifier => rfl
  | _ => exact inside

theorem parameterNames_insert (isExtra : IsExtra extra) :
    name ∈ (Node.mk kind field text (before ++ extra :: after)).parameterNames ↔
      name ∈ (Node.mk kind field text (before ++ after)).parameterNames := by
  cases kind with
  | parameterPattern =>
      simp only [Node.parameterNames, Node.kind]
      exact isExtra.patternNames_insert
  | richParameter =>
      simp [Node.parameterNames, Node.kind, Node.namedChildren, Node.children, isExtra.isNamed_eq,
        isExtra.patternNames_eq]
  | _ => rfl

theorem parameterListNames_insert (isExtra : IsExtra extra) :
    name ∈ (Node.mk kind field text (before ++ extra :: after)).parameterListNames ↔
      name ∈ (Node.mk kind field text (before ++ after)).parameterListNames := by
  simp [Node.parameterListNames, Node.namedChildren, Node.children, isExtra.isNamed_eq,
    isExtra.parameterNames_eq]

theorem generatorNames_singleton_insert (isExtra : IsExtra extra) :
    Reading.generatorNames [Node.mk kind field text (before ++ extra :: after)] =
      Reading.generatorNames [Node.mk kind field text (before ++ after)] := by
  simp only [Reading.generatorNames, List.flatMap_singleton, Node.kind, isExtra.childIn_insert]
  rfl

theorem of_insert (isExtra : IsExtra extra)
    (target : kind = .asPatternTarget → ∃ part ∈ before ++ after, part.isNamed = true)
    (role : Role) :
    Reading.of role (.mk kind field text (before ++ extra :: after)) =
      Reading.of role (.mk kind field text (before ++ after)) := by
  cases role with
  | target =>
      cases kind with
      | asPatternTarget =>
          rcases target rfl with ⟨part, member, named⟩
          have without : ((before ++ after).filter Node.isNamed).isEmpty = false := by
            rw [List.isEmpty_eq_false_iff]
            exact List.ne_nil_of_mem (List.mem_filter.mpr ⟨member, named⟩)
          have within : ((before ++ extra :: after).filter Node.isNamed).isEmpty = false := by
            simp [isExtra.isNamed_eq]
          simp only [Reading.of, Node.kind, Node.namedChildren, Node.children, without, within]
      | _ => rfl
  | _ => rfl

theorem own_insert (isExtra : IsExtra extra) (reading : Reading) :
    reading.own (.mk kind field text (before ++ extra :: after)) =
      reading.own (.mk kind field text (before ++ after)) := by
  cases reading with
  | imports =>
      simp only [Reading.own, Node.namedChildren, Node.children]
      simp [isExtra.isNamed_eq, isExtra.field_eq, List.filterMap_append, List.filter_append]
  | function | classBody | namedExpression =>
      simp only [Reading.own, Reading.bindingIn, isExtra.childIn_insert]
  | memberTarget | elementTarget => simp only [Reading.own, isExtra.baseName_insert]
  | call => simp only [Reading.own, isExtra.childIn_insert]
  | _ => rfl

theorem usage_insert (isExtra : IsExtra extra) (harmless : Harmless kind before after)
    (role : Role) :
    (Node.mk kind field text (before ++ extra :: after)).usage role =
      (Node.mk kind field text (before ++ after)).usage role := by
  have notCaught : Reading.of role (.mk kind field text (before ++ after)) = .handler →
      ¬BeforeCaught .exceptClause before after := by
    intro handler
    rw [← Reading.kind_of_handler handler]
    exact harmless.notCaught
  rw [Node.usage, Node.usage, isExtra.of_insert harmless.target, isExtra.own_insert]
  rcases Reading.absorbs_plan isExtra notCaught with none | absorbs
  · simp only [none, Node.usageOfAll]
  · rw [absorbs.usageOfAll_eq isExtra]

/-- With an extra at a harmless place, nothing that a walk looks at changes. -/
theorem alike_insert (isExtra : IsExtra extra) (harmless : Harmless kind before after) :
    Alike (.mk kind field text (before ++ after))
      (.mk kind field text (before ++ extra :: after)) where
  kind := rfl
  field := rfl
  text := rfl
  baseName := isExtra.baseName_insert.symm
  importedName := (isExtra.importedName_insert harmless.dotted).symm
  patternNames _ := isExtra.patternNames_insert.symm
  parameterNames _ := isExtra.parameterNames_insert.symm
  parameterListNames _ := isExtra.parameterListNames_insert.symm
  generatorNames name := by rw [isExtra.generatorNames_singleton_insert]
  usage role := by rw [isExtra.usage_insert harmless]

end IsExtra

theorem Inserted.alike (inserted : Inserted Harmless node other) : Alike node other := by
  induction inserted with
  | here isExtra harmless => exact isExtra.alike_insert harmless
  | inside _ ih => exact ih.inside

/-! ### The place before what a handler binds -/

namespace Node

variable {part : Node} {field : Option Field} {text : String}

theorem usage_handler (children : List Node) :
    (Node.mk .exceptClause field text children).usage .part =
      usageOfAll (Reading.handlerPlan false children) children := by
  rw [usage]
  rfl

/-- A child of a handler is taken for a target exactly if it follows `as` or a comma. -/
theorem usage_handler_append (named : part.isNamed = true) :
    (Node.mk .exceptClause field text (before ++ part :: after)).usage .part =
      usageOfAll (Reading.handlerPlan false before) before ∪
        (part.usage
          (if before.foldl (fun _ child => Reading.isAs child) false then .target else .part) ∪
          usageOfAll (Reading.handlerPlan false after) after) := by
  have noAs : Reading.isAs part = false := by simp [Reading.isAs, named]
  rw [usage_handler, Reading.handlerPlan_eq_carry, Planned.carry_append,
    usageOfAll_append (Planned.length_carry _ _ _ _), Planned.carry, noAs,
    Reading.handlerPlan_eq_carry, Reading.handlerPlan_eq_carry]
  simp only [Reading.handlerUses, named, if_true, usageOfAll, List.foldr_cons, List.foldr_nil]
  rfl

end Node

end Syntax

/-- The facts about a statement stay the same if extras are put into it, unless one of them stands
right before what an exception handler binds. There the extra is all that follows `as` or the comma,
and what was a target is read. -/
theorem extras_change_only_what_handlers_bind (placed : Placed) (node : Node) :
    (Relation.ReflTransGen (Inserted Harmless) placed.node node →
      ∀ index : Nat, { placed with node := node : Placed }.facts index = placed.facts index) ∧
    ∀ (field : Option Field) (text : String) (before after : List Node) (extra part : Node),
      IsExtra extra → FollowsAs before → part.isNamed = true →
      ∃ earlier later : Usage,
        (Node.mk .exceptClause field text (before ++ part :: after)).usage .part =
          earlier ∪ (part.usage .target ∪ later) ∧
        (Node.mk .exceptClause field text (before ++ extra :: part :: after)).usage .part =
          earlier ∪ (part.usage .part ∪ later) := by
  constructor
  · intro inserted index
    exact Placed.facts_eq_of_alike (fun _ _ => Inserted.alike) inserted index
  · intro field text before after extra part isExtra follows named
    refine ⟨Node.usageOfAll (Reading.handlerPlan false before) before,
      Node.usageOfAll (Reading.handlerPlan false after) after, ?_, ?_⟩
    · rw [Node.usage_handler_append named, (Reading.foldl_isAs before).mpr follows]
      rfl
    · have noAs : Reading.isAs extra = false := by simp [Reading.isAs, isExtra.isNamed_eq]
      -- The extra takes the role of a target, and the next child is a part like any other.
      have later : Node.usageOfAll (Reading.handlerPlan false (part :: after)) (part :: after) =
          part.usage .part ∪ Node.usageOfAll (Reading.handlerPlan false after) after := by
        simp only [Reading.handlerPlan, named]
        rfl
      rw [Node.usage_handler_append isExtra.isNamed_eq, isExtra.usage_eq_empty, later]
      rfl

namespace Syntax.Sample

/-- A backslash at the end of a line. -/
def brokenLine : Node := .mk .continuation none "\\" []

/-- The start `except E,` of a handler. -/
def caughtClass : List Node :=
  [.mk .sign none "except" [], .mk .identifier none "E" [], .mk .sign none "," []]

/-- The end of a handler: a colon and a block. -/
def handled : List Node := [.mk .sign none ":" [], block statements]

/-- The statement `try:` with a block and a handler. -/
def handling (handler : List Node) : Node :=
  .mk .statement none ""
    ([.mk .sign none "try" [], .mk .sign none ":" [], block statements] ++
      .mk .exceptClause none "" handler :: [])

theorem harmless_handled (before : List Node) : Harmless .exceptClause before handled where
  notCaught := by
    rintro ⟨_, _, caught, isFirst, named⟩
    cases isFirst
    simp [Node.isNamed, Node.kind] at named
  dotted := by simp
  target := by simp

end Syntax.Sample

theorem extras_change_only_what_handlers_bind_sample :
    let name : Node := .mk .identifier none "e" []
    let whole : Node := Sample.handling (Sample.caughtClass ++ [name] ++ Sample.handled)
    let broken : Node :=
      Sample.handling (Sample.caughtClass ++ [name] ++ Sample.brokenLine :: Sample.handled)
    Relation.ReflTransGen (Inserted Harmless) whole broken ∧
      Placed.facts ⟨broken, ⟨0, 0, 0⟩, ⟨50, 5, 9⟩⟩ 0 =
        Placed.facts ⟨whole, ⟨0, 0, 0⟩, ⟨50, 5, 9⟩⟩ 0 ∧
      IsExtra Sample.brokenLine ∧ FollowsAs Sample.caughtClass ∧ name.isNamed = true ∧
      ∃ earlier later : Usage,
        (Node.mk .exceptClause none "" (Sample.caughtClass ++ name :: Sample.handled)).usage .part =
          earlier ∪ (name.usage .target ∪ later) ∧
        (Node.mk .exceptClause none ""
          (Sample.caughtClass ++ Sample.brokenLine :: name :: Sample.handled)).usage .part =
          earlier ∪ (name.usage .part ∪ later) := by
  intro name whole broken
  have inserted : Relation.ReflTransGen (Inserted Harmless) whole broken :=
    .single (.inside (.here (.continuation _) (Sample.harmless_handled _)))
  have follows : FollowsAs Sample.caughtClass := ⟨.mk .sign none "," [], rfl, rfl, Or.inr rfl⟩
  rcases extras_change_only_what_handlers_bind ⟨whole, ⟨0, 0, 0⟩, ⟨50, 5, 9⟩⟩ broken with
    ⟨unchanged, caught⟩
  exact ⟨inserted, unchanged inserted 0, .continuation _, follows, rfl,
    caught none "" Sample.caughtClass Sample.handled Sample.brokenLine name
      (.continuation _) follows rfl⟩

/-- A broken line before the name that a handler binds makes it a name that is read. -/
theorem broken_line_before_caught_name :
    let name : Node := .mk .identifier none "e" []
    let whole : Node := Sample.handling (Sample.caughtClass ++ name :: Sample.handled)
    let broken : Node :=
      Sample.handling (Sample.caughtClass ++ Sample.brokenLine :: name :: Sample.handled)
    Inserted Between whole broken ∧
      "e" ∈ (Placed.facts ⟨whole, ⟨0, 0, 0⟩, ⟨50, 5, 9⟩⟩ 0).defs ∧
      "e" ∉ (Placed.facts ⟨whole, ⟨0, 0, 0⟩, ⟨50, 5, 9⟩⟩ 0).uses ∧
      "e" ∉ (Placed.facts ⟨broken, ⟨0, 0, 0⟩, ⟨50, 5, 9⟩⟩ 0).defs ∧
      "e" ∈ (Placed.facts ⟨broken, ⟨0, 0, 0⟩, ⟨50, 5, 9⟩⟩ 0).uses := by
  refine ⟨.inside (.here (.continuation _) ⟨by simp [Sample.caughtClass], by simp⟩), ?_⟩
  simp only [Placed.facts, NameSet.mem_ofList]
  decide +kernel

end NotebookSlice

import NotebookSlice.Proofs.Facts.Functions
import NotebookSlice.Proofs.Facts.Locals

/-!
# Names of comprehensions

A comprehension uses what its element, its conditions and its iterables use, without the names that
its `for` clauses bind. These are taken as local to all of its parts, also to the first iterable.
That one is evaluated outside, before anything is bound: if it reads a name that some clause binds,
the use is lost.
-/

namespace NotebookSlice.Syntax

variable {name : String} {node : Node} {locals : List String}

/-- The node is a part of a comprehension that is evaluated: its element, a condition, or an
iterable. -/
inductive ComprehensionPart (node : Node) : Node → Prop
  | element {part : Node} (member : part ∈ node.namedChildren)
      (noClause : part.kind ≠ .forInClause) :
      ComprehensionPart node part
  | iterable {clause part : Node} (member : clause ∈ node.namedChildren)
      (isClause : clause.kind = .forInClause) (inClause : part ∈ clause.namedChildren)
      (noTarget : part.field ≠ some .left) : ComprehensionPart node part

/-- The node is the iterable of the first `for` clause of a comprehension. -/
def FirstIterable (node iterable : Node) : Prop :=
  ∃ clause, node.namedChildren.find? (·.kind == .forInClause) = some clause ∧
    iterable ∈ clause.namedChildren ∧
    iterable.field = some .right

/-- Some `for` clause of a comprehension binds the name. -/
def IsClauseTarget (name : String) (node : Node) : Prop :=
  ∃ clause ∈ node.namedChildren, clause.kind = .forInClause ∧
    ∃ target, clause.childIn .left = some target ∧ InPattern name target

theorem mem_generatorNames_iff :
    name ∈ Reading.generatorNames node.children ↔ IsClauseTarget name node := by
  simp only [Reading.generatorNames, List.mem_flatMap, IsClauseTarget]
  constructor
  · rintro ⟨clause, member, isTarget⟩
    split at isTarget
    · next isClause =>
      have isClause : clause.kind = .forInClause := by simpa using isClause
      split at isTarget
      · next target found =>
        refine ⟨clause, Node.mem_namedChildren.mpr ⟨member, ?_⟩, isClause, target, found, ?_⟩
        · simp [Node.isNamed, isClause]
        · exact (Node.mem_patternNames_iff target).mp isTarget
      · simp at isTarget
    · simp at isTarget
  · rintro ⟨clause, member, isClause, target, found, inPattern⟩
    refine ⟨clause, (Node.mem_namedChildren.mp member).1, ?_⟩
    simpa [isClause, found] using (Node.mem_patternNames_iff target).mpr inPattern

theorem FirstIterable.isPart {iterable : Node} (first : FirstIterable node iterable) :
    ComprehensionPart node iterable := by
  rcases first with ⟨clause, found, member, field⟩
  have isClause : clause.kind = .forInClause := by simpa using List.find?_some found
  exact .iterable (List.mem_of_find?_eq_some found) isClause member (by simp [field])

theorem reads_comprehension_iff (isComprehension : node.kind = .comprehension) :
    Reads name (.expression locals) node ↔ ∃ part, ComprehensionPart node part ∧
      Reads name (.expression (locals ++ Reading.generatorNames node.children)) part := by
  constructor
  · intro reads
    cases reads with
    | here isRead =>
        rcases isRead with ⟨kind, _, _⟩
        simp [isComprehension] at kind
    | part isPart reads =>
        cases isPart with
        | element _ member noClause => exact ⟨_, .element member noClause, reads⟩
        | generator _ member isClause =>
            cases reads with
            | here isRead => cases isRead
            | part isPart reads =>
                cases isPart with
                | iterable inClause noTarget =>
                    exact ⟨_, .iterable member isClause inClause noTarget, reads⟩
        | operand kind => simp [isComprehension, Kind.isOperation] at kind
        | object kind | value kind | lambdaParameters kind | lambdaBody kind =>
            simp [isComprehension] at kind
  · rintro ⟨part, isPart, reads⟩
    cases isPart with
    | element member noClause => exact .part (.element isComprehension member noClause) reads
    | iterable member isClause inClause noTarget =>
        exact .part (.generator isComprehension member isClause)
          (.part (.iterable inClause noTarget) reads)

/-- Which defaults are evaluated does not depend on what is local. -/
theorem evaluatesDefault_iff {default : Node} {others : List String} :
    EvaluatesDefault default (.expression locals) node ↔
      EvaluatesDefault default (.expression others) node := by
  have agrees : (Role.expression locals).AgreesOn (fun _ => False) (.expression others) :=
    .expression fun _ isAmong => isAmong.elim
  refine within_iff_of_agrees agrees ?_
  rintro role other node agrees ⟨rfl, isDefault⟩
  cases agrees with
  | same => exact ⟨rfl, isDefault⟩

/-- A comprehension uses what its parts use, unless some `for` clause binds the name. The name is
then used only if the default of a lambda uses it, also where the first iterable reads it, which is
evaluated outside. -/
theorem comprehension_uses_parts (node : Node) (isComprehension : node.kind = .comprehension)
    (locals : List String) (name : String) :
    (¬IsClauseTarget name node → (name ∈ (node.usage (.expression locals)).uses ↔
      ∃ part, ComprehensionPart node part ∧ name ∈ (part.usage (.expression locals)).uses)) ∧
    (IsClauseTarget name node → (name ∈ (node.usage (.expression locals)).uses ↔
      ∃ part, ComprehensionPart node part ∧
        ∃ default, EvaluatesDefault default (.expression locals) part ∧
        name ∈ (default.usage (.expression [])).uses)) ∧
    ∀ iterable, FirstIterable node iterable → name ∈ (iterable.usage (.expression locals)).uses →
      ¬IsClauseTarget name node → name ∈ (node.usage (.expression locals)).uses := by
  have uses : name ∈ (node.usage (.expression locals)).uses ↔ ∃ part, ComprehensionPart node part ∧
      name ∈ (part.usage (.expression (locals ++ Reading.generatorNames node.children))).uses := by
    simp only [mem_uses_usage_iff]
    exact reads_comprehension_iff isComprehension
  have unbound : ¬IsClauseTarget name node → (name ∈ (node.usage (.expression locals)).uses ↔
      ∃ part, ComprehensionPart node part ∧ name ∈ (part.usage (.expression locals)).uses) := by
    intro noTarget
    rw [← mem_generatorNames_iff] at noTarget
    rw [uses]
    apply exists_congr
    intro part
    apply and_congr_right
    intro _
    apply mem_uses_iff_of_agrees
    apply Role.AgreesOn.expression
    rintro _ rfl
    simp [noTarget]
  refine ⟨unbound, ?_, ?_⟩
  · intro isTarget
    rw [uses]
    apply exists_congr
    intro part
    apply and_congr_right
    intro _
    have hides : (Role.expression (locals ++ Reading.generatorNames node.children)).Hides name :=
      List.mem_append_right _ (mem_generatorNames_iff.mpr isTarget)
    rw [mem_uses_iff_of_hides hides]
    apply exists_congr
    intro default
    apply and_congr_left
    intro _
    exact evaluatesDefault_iff
  · intro iterable first isUsed noTarget
    exact (unbound noTarget).mpr ⟨iterable, first.isPart, isUsed⟩

namespace Sample

/-- The comprehension `[target + 1 for target in iterable]`. -/
def mapping (target iterable : String) : Node :=
  .mk .comprehension none ""
    [.mk .sign none "[" [],
     .mk .other (some .body) ""
      [.mk .identifier (some .left) target [], .mk .sign none "+" [],
       .mk .other (some .right) "1" []],
     .mk .forInClause none ""
      [.mk .sign none "for" [], .mk .identifier (some .left) target [], .mk .sign none "in" [],
       .mk .identifier (some .right) iterable []],
     .mk .sign none "]" []]

theorem firstIterable_mapping (target iterable : String) :
    FirstIterable (mapping target iterable) (.mk .identifier (some .right) iterable []) :=
  ⟨_, rfl, by simp [Node.namedChildren, Node.children, Node.isNamed, Node.kind], rfl⟩

end Sample

theorem comprehension_uses_parts_sample :
    (Sample.mapping "x" "xs").kind = .comprehension ∧
      ¬IsClauseTarget "xs" (Sample.mapping "x" "xs") ∧
      IsClauseTarget "x" (Sample.mapping "x" "xs") ∧
      FirstIterable (Sample.mapping "x" "xs") (.mk .identifier (some .right) "xs" []) ∧
      "xs" ∈ ((Node.mk .identifier (some .right) "xs" []).usage (.expression ["w"])).uses ∧
      "xs" ∈ ((Sample.mapping "x" "xs").usage (.expression ["w"])).uses := by
  have noTarget : ¬IsClauseTarget "xs" (Sample.mapping "x" "xs") := by
    rw [← mem_generatorNames_iff]
    decide +kernel
  have isTarget : IsClauseTarget "x" (Sample.mapping "x" "xs") := by
    rw [← mem_generatorNames_iff]
    decide +kernel
  have isUsed : "xs" ∈
      ((Node.mk .identifier (some .right) "xs" []).usage (.expression ["w"])).uses := by
    decide +kernel
  have general := comprehension_uses_parts (Sample.mapping "x" "xs") rfl ["w"] "xs"
  exact ⟨rfl, noTarget, isTarget, Sample.firstIterable_mapping "x" "xs", isUsed,
    general.2.2 _ (Sample.firstIterable_mapping "x" "xs") isUsed noTarget⟩

/-- A name that the first iterable uses is lost if a `for` clause binds a name of the same
spelling. -/
theorem exists_iterable_not_used :
    ∃ node iterable : Node, node.kind = .comprehension ∧ FirstIterable node iterable ∧
      "x" ∈ (iterable.usage (.expression [])).uses ∧ "x" ∉ (node.usage (.expression [])).uses :=
  ⟨Sample.mapping "x" "x", _, rfl, Sample.firstIterable_mapping "x" "x", by decide +kernel,
    by decide +kernel⟩

end NotebookSlice.Syntax

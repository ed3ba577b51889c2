import NotebookSlice.Proofs.Facts.Scope

/-!
# Names local to expressions

Lambdas and comprehensions have names of their own, and an expression is read under the names that
are local around it. These hide what is read and changed in place, but not the target of a walrus,
which belongs to the scope around.

One rule of the language is missed. The defaults and annotations of a lambda's parameters are read
as if nothing were local there, so a local name that they read escapes.
-/

namespace NotebookSlice.Syntax

variable {name : String} {role other partRole : Role} {node part : Node} {locals : List String}
variable {holds : Role → Node → Prop} {among : String → Prop}

/-! ### Other names than the local ones -/

/-- The roles differ at most in what is local to them, and each of some names is local to both or to
none. -/
inductive Role.AgreesOn (among : String → Prop) : Role → Role → Prop
  | same (role : Role) : AgreesOn among role role
  | expression {locals others : List String}
      (agree : ∀ name, among name → (name ∈ locals ↔ name ∈ others)) :
      AgreesOn among (.expression locals) (.expression others)
  | generator {locals others : List String}
      (agree : ∀ name, among name → (name ∈ locals ↔ name ∈ others)) :
      AgreesOn among (.generator locals) (.generator others)

theorem Role.AgreesOn.symm (agrees : role.AgreesOn among other) : other.AgreesOn among role := by
  cases agrees with
  | same => exact .same role
  | expression agree => exact .expression fun name isAmong => (agree name isAmong).symm
  | generator agree => exact .generator fun name isAmong => (agree name isAmong).symm

theorem Part.exists_agrees (isPart : Part role node partRole part)
    (agrees : role.AgreesOn among other) :
    ∃ otherPart, Part other node otherPart part ∧ partRole.AgreesOn among otherPart := by
  cases agrees with
  | same => exact ⟨partRole, isPart, .same partRole⟩
  | @expression locals others agree =>
      -- A lambda or a comprehension makes the same names local on both sides.
      have extended (own : List String) : ∀ name, among name →
          (name ∈ locals ++ own ↔ name ∈ others ++ own) := by
        intro name isAmong
        simp [agree name isAmong]
      cases isPart with
      | operand kind member => exact ⟨_, .operand kind member, .expression agree⟩
      | object kind found => exact ⟨_, .object kind found, .expression agree⟩
      | value kind found => exact ⟨_, .value kind found, .expression agree⟩
      | lambdaParameters kind found => exact ⟨_, .lambdaParameters kind found, .same _⟩
      | lambdaBody kind found => exact ⟨_, .lambdaBody kind found, .expression (extended _)⟩
      | generator kind member isGenerator =>
          exact ⟨_, .generator kind member isGenerator, .generator (extended _)⟩
      | element kind member noGenerator =>
          exact ⟨_, .element kind member noGenerator, .expression (extended _)⟩
  | generator agree =>
      cases isPart with
      | iterable member noTarget => exact ⟨_, .iterable member noTarget, .expression agree⟩

theorem Within.of_agrees (within : Within holds role node) (agrees : role.AgreesOn among other)
    (stable : ∀ {role other : Role} {node : Node}, role.AgreesOn among other → holds role node →
      holds other node) :
    Within holds other node := by
  induction within generalizing other with
  | here isTrue => exact .here (stable agrees isTrue)
  | part isPart _ ih =>
      rcases isPart.exists_agrees agrees with ⟨otherPart, isOther, partAgrees⟩
      exact .part isOther (ih partAgrees)

theorem ReadsHere.of_agrees (agrees : role.AgreesOn (· = name) other)
    (reads : ReadsHere name role node) :
    ReadsHere name other node := by
  cases agrees with
  | same => exact reads
  | expression agree =>
      rcases reads with ⟨kind, text, free⟩
      exact .name kind text (mt (agree name rfl).mpr free)
  | generator => cases reads

theorem MutatesHere.of_agrees (agrees : role.AgreesOn (· = name) other)
    (mutates : MutatesHere name role node) :
    MutatesHere name other node := by
  cases agrees with
  | same => exact mutates
  | expression agree =>
      cases mutates with
      | method kind found isMember base free =>
          exact .method kind found isMember base (mt (agree name rfl).mpr free)
  | generator => cases mutates

theorem BindsHere.of_agrees (agrees : role.AgreesOn (· = name) other)
    (binds : BindsHere name role node) :
    BindsHere name other node := by
  cases agrees with
  | same => exact binds
  | expression =>
      cases binds with
      | walrus kind found text => exact .walrus kind found text
  | generator => cases binds

theorem Reads.of_agrees (reads : Reads name role node) (agrees : role.AgreesOn (· = name) other) :
    Reads name other node := by
  induction reads generalizing other with
  | here isRead => exact .here (isRead.of_agrees agrees)
  | part isPart _ ih =>
      rcases isPart.exists_agrees agrees with ⟨otherPart, isOther, partAgrees⟩
      exact .part isOther (ih partAgrees)
  | body isBody reads free unbound =>
      cases agrees with
      | same => exact .body isBody reads free unbound

theorem within_iff_of_agrees (agrees : role.AgreesOn among other)
    (stable : ∀ {role other : Role} {node : Node}, role.AgreesOn among other → holds role node →
      holds other node) :
    Within holds role node ↔ Within holds other node := by
  constructor
  · intro within
    exact within.of_agrees agrees stable
  · intro within
    exact within.of_agrees agrees.symm stable

/-- Whether a name is used depends on the local names only by whether it is one of them. -/
theorem mem_uses_iff_of_agrees (agrees : role.AgreesOn (· = name) other) (node : Node) :
    name ∈ (node.usage role).uses ↔ name ∈ (node.usage other).uses := by
  rw [mem_uses_usage_iff, mem_uses_usage_iff]
  constructor
  · intro reads
    exact reads.of_agrees agrees
  · intro reads
    exact reads.of_agrees agrees.symm

theorem mem_bound_iff_of_agrees (agrees : role.AgreesOn (· = name) other) (node : Node) :
    name ∈ (node.usage role).bound ↔ name ∈ (node.usage other).bound := by
  rw [mem_bound_usage_iff, mem_bound_usage_iff]
  exact within_iff_of_agrees agrees BindsHere.of_agrees

theorem mem_defs_iff_of_agrees (agrees : role.AgreesOn (· = name) other) (node : Node) :
    name ∈ (node.usage role).defs ↔ name ∈ (node.usage other).defs := by
  rw [mem_defs_usage_iff, mem_defs_usage_iff]
  apply or_congr
  · exact within_iff_of_agrees agrees BindsHere.of_agrees
  · exact within_iff_of_agrees agrees MutatesHere.of_agrees

/-! ### Local names -/

/-- The name is local to nodes that play the role, or they are evaluated only for their defaults. -/
def Role.Hides (name : String) : Role → Prop
  | .expression locals | .generator locals => name ∈ locals
  | .parameters | .parameter => True
  | _ => False

/-- The default or annotation of a parameter of a lambda is evaluated within the node. -/
def EvaluatesDefault (default : Node) : Role → Node → Prop :=
  Within fun role parameter =>
    role = .parameter ∧ Part .parameter parameter (.expression []) default

/-- The node itself is a walrus with the name as its target. -/
inductive WalrusHere (name : String) : Role → Node → Prop
  | intro {node target : Node} {locals : List String} (kind : node.kind = .namedExpression)
      (found : node.childIn .name = some target) (text : target.text = name) :
      WalrusHere name (.expression locals) node

/-- The name is the target of a walrus that is evaluated within the node. -/
def IsWalrusTarget (name : String) : Role → Node → Prop := Within (WalrusHere name)

theorem Role.Hides.isEvaluated (hides : role.Hides name) : role.isEvaluated = true := by
  cases role <;> first | rfl | exact hides.elim

theorem Within.mono {weaker : Role → Node → Prop} (within : Within holds role node)
    (weaken : ∀ {role : Role} {node : Node}, role.isEvaluated = true → holds role node →
      weaker role node)
    (evaluated : role.isEvaluated = true) : Within weaker role node := by
  induction within with
  | here isTrue => exact .here (weaken evaluated isTrue)
  | part isPart _ ih => exact .part isPart (ih (isPart.isEvaluated evaluated))

/-- Where something is evaluated, names are bound by a walrus only. -/
theorem binds_iff_isWalrusTarget (evaluated : role.isEvaluated = true) :
    Binds name role node ↔ IsWalrusTarget name role node := by
  constructor
  · intro binds
    refine Within.mono binds ?_ evaluated
    intro role node evaluated isTrue
    cases isTrue with
    | walrus kind found text => exact .intro kind found text
    | _ => simp [Role.isEvaluated] at evaluated
  · intro target
    refine Within.mono target ?_ evaluated
    rintro role node - ⟨kind, found, text⟩
    exact .walrus kind found text

theorem reads_iff_within (evaluated : role.isEvaluated = true) :
    Reads name role node ↔ Within (ReadsHere name) role node := by
  constructor
  · intro reads
    induction reads with
    | here isRead => exact .here isRead
    | part isPart _ ih => exact .part isPart (ih (isPart.isEvaluated evaluated))
    | body => simp [Role.isEvaluated] at evaluated
  · intro within
    induction within with
    | here isRead => exact .here isRead
    | part isPart _ ih => exact .part isPart (ih (isPart.isEvaluated evaluated))

theorem Part.hides_or_default (isPart : Part role node partRole part) (hides : role.Hides name) :
    partRole.Hides name ∨ role = .parameter ∧ partRole = .expression [] := by
  cases isPart with
  | operand | object | value | iterable => exact Or.inl hides
  | lambdaParameters | parameter => exact Or.inl trivial
  | lambdaBody | generator | element => exact Or.inl (List.mem_append_left _ hides)
  | default => exact Or.inr ⟨rfl, rfl⟩
  | _ => exact hides.elim

/-- What holds within a node to which a name is local holds where the name is still local, or within
a default. -/
theorem within_iff_of_hides (hides : role.Hides name) :
    Within holds role node ↔ Within (fun role node => holds role node ∧ role.Hides name) role node ∨
      ∃ default, EvaluatesDefault default role node ∧ Within holds (.expression []) default := by
  constructor
  · intro within
    induction within with
    | here isTrue => exact Or.inl (.here ⟨isTrue, hides⟩)
    | part isPart within ih =>
        rcases isPart.hides_or_default hides with partHides | ⟨rfl, rfl⟩
        · apply (ih partHides).imp
          · exact .part isPart
          · rintro ⟨default, evaluates, inDefault⟩
            exact ⟨default, .part isPart evaluates, inDefault⟩
        · exact Or.inr ⟨_, .here ⟨rfl, isPart⟩, within⟩
  · rintro (within | ⟨default, evaluates, inDefault⟩)
    · exact within.mono (fun _ both => both.1) hides.isEvaluated
    · clear hides
      induction evaluates with
      | here isDefault =>
          rcases isDefault with ⟨rfl, isPart⟩
          exact .part isPart inDefault
      | part isPart _ ih => exact .part isPart ih

theorem not_within_of_hides
    (never : ∀ {role : Role} {node : Node}, holds role node → ¬role.Hides name) :
    ¬Within (fun role node => holds role node ∧ role.Hides name) role node := by
  intro within
  induction within with
  | here both => exact never both.1 both.2
  | part _ _ ih => exact ih

theorem ReadsHere.not_hides (reads : ReadsHere name role node) : ¬role.Hides name := by
  rcases reads with ⟨_, _, free⟩
  exact free

theorem MutatesHere.not_hides (mutates : MutatesHere name role node) : ¬role.Hides name := by
  cases mutates with
  | store => exact id
  | method _ _ _ _ free => exact free

/-- A local name is used only if a default uses it. -/
theorem mem_uses_iff_of_hides (hides : role.Hides name) :
    name ∈ (node.usage role).uses ↔
      ∃ default, EvaluatesDefault default role node ∧
        name ∈ (default.usage (.expression [])).uses := by
  simp only [mem_uses_usage_iff]
  rw [reads_iff_within hides.isEvaluated, within_iff_of_hides hides,
    or_iff_right (not_within_of_hides ReadsHere.not_hides)]
  apply exists_congr
  intro default
  rw [reads_iff_within rfl]

/-- A local name is defined only as the target of a walrus, or if a default changes it in place. -/
theorem mem_defs_iff_of_hides (hides : role.Hides name) :
    name ∈ (node.usage role).defs ↔ IsWalrusTarget name role node ∨
      ∃ default, EvaluatesDefault default role node ∧ Mutates name (.expression []) default := by
  rw [mem_defs_usage_iff, binds_iff_isWalrusTarget hides.isEvaluated, Mutates,
    within_iff_of_hides hides, or_iff_right (not_within_of_hides MutatesHere.not_hides)]

/-- Names that are not local are used and defined as if nothing were local. A local name is used
only if a default or an annotation of a lambda's parameter uses it, and defined only if it is the
target of a walrus or such a default changes it in place. So without such a default no local name
escapes but as the target of a walrus. -/
theorem locals_escape_through_defaults (node : Node) (locals : List String) (name : String) :
    (name ∉ locals →
      (name ∈ (node.usage (.expression locals)).uses ↔ name ∈ (node.usage (.expression [])).uses) ∧
      (name ∈ (node.usage (.expression locals)).defs ↔ name ∈ (node.usage (.expression [])).defs)) ∧
    (name ∈ locals →
      (name ∈ (node.usage (.expression locals)).uses ↔ ∃ default,
        EvaluatesDefault default (.expression locals) node ∧
          name ∈ (default.usage (.expression [])).uses) ∧
      (name ∈ (node.usage (.expression locals)).defs ↔
        IsWalrusTarget name (.expression locals) node ∨ ∃ default,
        EvaluatesDefault default (.expression locals) node ∧
          Mutates name (.expression []) default) ∧
      ((∀ default, EvaluatesDefault default (.expression locals) node →
          name ∉ (default.usage (.expression [])).uses) →
        name ∉ (node.usage (.expression locals)).uses ∧
          (name ∈ (node.usage (.expression locals)).defs →
            IsWalrusTarget name (.expression locals) node))) := by
  refine ⟨?_, ?_⟩
  · intro outside
    have agrees : (Role.expression locals).AgreesOn (· = name) (.expression []) := by
      apply Role.AgreesOn.expression
      rintro _ rfl
      simp [outside]
    exact ⟨mem_uses_iff_of_agrees agrees node, mem_defs_iff_of_agrees agrees node⟩
  · intro isLocal
    have hides : (Role.expression locals).Hides name := isLocal
    refine ⟨mem_uses_iff_of_hides hides, mem_defs_iff_of_hides hides, ?_⟩
    intro unread
    refine ⟨?_, ?_⟩
    · rw [mem_uses_iff_of_hides hides]
      rintro ⟨default, evaluates, isUsed⟩
      exact unread default evaluates isUsed
    · rw [mem_defs_iff_of_hides hides]
      rintro (target | ⟨default, evaluates, mutates⟩)
      · exact target
      · exact absurd ((mem_uses_usage_iff default _).mpr mutates.reads) (unread default evaluates)

namespace Sample

/-- The expression `lambda y=value: y`. -/
def capturing (value : Node) : Node :=
  .mk .lambda none ""
    [.mk .sign none "lambda" [],
     .mk .other (some .parameters) ""
      [.mk .richParameter none ""
       [.mk .identifier (some .name) "y" [], .mk .sign none "=" [], value]],
     .mk .sign none ":" [], .mk .identifier (some .body) "y" []]

/-- The call `x.pop()`, as the value of a default. -/
def popping : Node :=
  .mk .call (some .value) ""
    [.mk .attribute (some .function) ""
      [.mk .identifier (some .object) "x" [], .mk .sign none "." [], .mk .identifier none "pop" []],
     .mk .other none "" [.mk .sign none "(" [], .mk .sign none ")" []]]

/-- The expressions `(x := z), x, lambda y=z: y`. -/
def mixed : Node :=
  .mk .other none ""
    [.mk .namedExpression none ""
      [.mk .identifier (some .name) "x" [], .mk .sign none ":=" [],
       .mk .identifier (some .value) "z" []],
     .mk .sign none "," [], .mk .identifier none "x" [], .mk .sign none "," [],
     capturing (.mk .identifier (some .value) "z" [])]

end Sample

theorem locals_escape_through_defaults_sample :
    "z" ∉ ["x"] ∧ "z" ∈ (Sample.mixed.usage (.expression ["x"])).uses ∧ "x" ∈ ["x"] ∧
      (∀ default, EvaluatesDefault default (.expression ["x"]) Sample.mixed →
        "x" ∉ (default.usage (.expression [])).uses) ∧
      "x" ∉ (Sample.mixed.usage (.expression ["x"])).uses ∧
      "x" ∈ (Sample.mixed.usage (.expression ["x"])).defs ∧
      IsWalrusTarget "x" (.expression ["x"]) Sample.mixed := by
  have isDefined : "x" ∈ (Sample.mixed.usage (.expression ["x"])).defs := by decide +kernel
  have notUsed : "x" ∉ (Sample.mixed.usage (.expression ["x"])).uses := by decide +kernel
  rcases (locals_escape_through_defaults Sample.mixed ["x"] "x").2 (by simp) with ⟨uses, _, escapes⟩
  have unread : ∀ default, EvaluatesDefault default (.expression ["x"]) Sample.mixed →
      "x" ∉ (default.usage (.expression [])).uses := by
    intro default evaluates isUsed
    exact notUsed (uses.mpr ⟨default, evaluates, isUsed⟩)
  have outside := (locals_escape_through_defaults Sample.mixed ["x"] "z").1 (by simp)
  exact ⟨by simp, outside.1.mpr (by decide +kernel), by simp, unread, (escapes unread).1, isDefined,
    (escapes unread).2 isDefined⟩

/-- A local name that the default of a lambda changes in place is used, and defined by no walrus. -/
theorem exists_local_escapes :
    ∃ (node : Node) (locals : List String) (name : String), name ∈ locals ∧
      name ∈ (node.usage (.expression locals)).uses ∧
      name ∈ (node.usage (.expression locals)).defs ∧
      ¬IsWalrusTarget name (.expression locals) node := by
  refine ⟨Sample.capturing Sample.popping, ["x"], "x", by simp, by decide +kernel,
    by decide +kernel, ?_⟩
  rw [← binds_iff_isWalrusTarget rfl, ← mem_bound_usage_iff]
  decide +kernel

end NotebookSlice.Syntax

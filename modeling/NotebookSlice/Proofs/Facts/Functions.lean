import NotebookSlice.Proofs.Facts.Scope

/-!
# Free names of functions

A function definition uses what its heading reads, in annotations and defaults, and what its body
reads from outside. A name is local to the body if it is a parameter of any form, or if the body
binds it, at any depth within its statements but not within the definitions among them.

Declarations by `global` are not looked at. So the names that the definition uses are the free ones,
except that a name that the body declares to be global, and binds as well, counts as local.

Free names are those of one function: its own body is taken by the rule of the language, with its
declarations by `global`, and what the body reads is meant in the sense of the analysis. A
definition within the body contributes the names that the analysis finds in it, so a name that is
declared to be global and bound in an inner definition counts as local there, and comprehensions,
lambdas and classes are read as elsewhere in the analysis.
-/

namespace NotebookSlice.Syntax

variable {name : String} {node : Node}

/-! ### Parameters -/

/-- The name stands in a pattern. -/
inductive InPattern (name : String) : Node → Prop
  | name {node : Node} (kind : node.kind = .identifier) (text : node.text = name) :
      InPattern name node
  | part {node part : Node} (noName : node.kind ≠ .identifier) (member : part ∈ node.namedChildren)
      (inPart : InPattern name part) : InPattern name node

/-- The parameter has the name: as a plain one, as a starred or parenthesised one, or as one with a
default or an annotation. -/
inductive IsParameter (name : String) : Node → Prop
  | plain {node : Node} (kind : node.kind = .identifier) (text : node.text = name) :
      IsParameter name node
  | pattern {node : Node} (kind : node.kind = .parameterPattern) (inPattern : InPattern name node) :
      IsParameter name node
  | rich {node part : Node} (kind : node.kind = .richParameter) (member : part ∈ node.namedChildren)
      (noType : part.field ≠ some .typing) (noDefault : part.field ≠ some .value)
      (inPattern : InPattern name part) : IsParameter name node

theorem Node.mem_patternNamesOfAll_iff (nodes : List Node) :
    name ∈ patternNamesOfAll nodes ↔
      ∃ child ∈ nodes, child.isNamed = true ∧ name ∈ child.patternNames := by
  induction nodes with
  | nil => simp [patternNamesOfAll]
  | cons child nodes ih =>
      rw [patternNamesOfAll, List.mem_append, ih]
      cases named : child.isNamed <;> simp [named]

theorem Node.mem_patternNames_iff (node : Node) :
    name ∈ node.patternNames ↔ InPattern name node := by
  induction node using Node.induction with
  | step node ih =>
      by_cases kind : node.kind = .identifier
      · have names : node.patternNames = [node.text] := by
          rcases node with ⟨_, field, text, children⟩
          cases kind
          rfl
        rw [names, List.mem_singleton]
        constructor
        · rintro rfl
          exact .name kind rfl
        · rintro (⟨_, text⟩ | ⟨noName, _, _⟩)
          · exact text.symm
          · exact absurd kind noName
      · have names : node.patternNames = patternNamesOfAll node.children := by
          rcases node with ⟨_, field, text, children⟩
          rw [patternNames]
          · rfl
          · exact kind
        rw [names, mem_patternNamesOfAll_iff]
        constructor
        · rintro ⟨child, member, named, inChild⟩
          exact .part kind (Node.mem_namedChildren.mpr ⟨member, named⟩)
            ((ih child member).mp inChild)
        · rintro (⟨isName, _⟩ | ⟨_, member, inPart⟩)
          · exact absurd isName kind
          · rcases Node.mem_namedChildren.mp member with ⟨member, named⟩
            exact ⟨_, member, named, (ih _ member).mpr inPart⟩

theorem Node.mem_parameterNames_iff : name ∈ node.parameterNames ↔ IsParameter name node := by
  rw [parameterNames]
  split
  · next kind =>
    rw [List.mem_singleton]
    constructor
    · rintro rfl
      exact .plain kind rfl
    · rintro (⟨_, text⟩ | ⟨other, _⟩ | ⟨other, _⟩)
      · exact text.symm
      · simp [kind] at other
      · simp [kind] at other
  · next kind =>
    rw [mem_patternNames_iff]
    constructor
    · exact .pattern kind
    · rintro (⟨other, _⟩ | ⟨_, inPattern⟩ | ⟨other, _⟩)
      · simp [kind] at other
      · exact inPattern
      · simp [kind] at other
  · next kind =>
    simp only [List.mem_flatMap, Bool.or_eq_true, beq_iff_eq]
    constructor
    · rintro ⟨part, member, inPattern⟩
      split at inPattern
      · simp at inPattern
      · next outside =>
        rw [not_or] at outside
        exact .rich kind member outside.1 outside.2 ((mem_patternNames_iff part).mp inPattern)
    · rintro (⟨other, _⟩ | ⟨other, _⟩ | ⟨_, member, noType, noDefault, inPattern⟩)
      · simp [kind] at other
      · simp [kind] at other
      · refine ⟨_, member, ?_⟩
        rw [if_neg (not_or.mpr ⟨noType, noDefault⟩)]
        exact (mem_patternNames_iff _).mpr inPattern
  · next noName noPattern noRich =>
    simp only [List.not_mem_nil, false_iff]
    rintro (⟨kind, _⟩ | ⟨kind, _⟩ | ⟨kind, _⟩) <;> contradiction

/-- The name is that of a parameter in one of some lists of parameters. -/
def IsParameterAmong (name : String) (nodes : List Node) : Prop :=
  ∃ parameters ∈ nodes, parameters.isNamed = true ∧ parameters.field = some .parameters ∧
    ∃ parameter ∈ parameters.namedChildren, IsParameter name parameter

theorem Node.mem_parametersAmong_iff (nodes : List Node) :
    name ∈ parametersAmong nodes ↔ IsParameterAmong name nodes := by
  simp [parametersAmong, parameterListNames, IsParameterAmong, mem_parameterNames_iff, and_assoc]

/-! ### Scopes of functions -/

/-- The node itself declares the name to be global. -/
inductive DeclaresHere (name : String) : Role → Node → Prop
  | intro {node child : Node} (kind : node.kind = .globalStatement)
      (member : child ∈ node.namedChildren) (isName : child.kind = .identifier)
      (text : child.text = name) : DeclaresHere name .statement node

/-- The name is declared to be global. -/
def DeclaresGlobal (name : String) : Role → Node → Prop := Within (DeclaresHere name)

/-- The node has the body of a function as a child, some of whose siblings stand before it. -/
structure HasBody (node : Node) (before : List Node) (body : Node) : Prop where
  children : ∃ after, node.children = before ++ body :: after
  named : body.isNamed = true
  field : body.field = some .body

/-- The name is read by the heading of a function. -/
def HeadingReads (name : String) (node : Node) : Prop :=
  ∃ role part, Part .statement node role part ∧ Reads name role part

/-- The name is read by the body of a function, where it is neither a parameter nor bound. -/
def BodyReads (name : String) (node : Node) : Prop :=
  ∃ before body, HasBody node before body ∧ Reads name .part body ∧ ¬IsParameterAmong name before ∧
    ¬Binds name .part body

/-- The name is free in the body of a function: the body reads it, and it is not local. Parameters
are local, and so are bound names that are not declared to be global. The rule for `global` is that
of this function only: for what is read by a definition within the body, `Reads` knows no
declarations. -/
def IsFree (name : String) (node : Node) : Prop :=
  ∃ before body, HasBody node before body ∧ Reads name .part body ∧ ¬IsParameterAmong name before ∧
    ¬(Binds name .part body ∧ ¬DeclaresGlobal name .part body)

theorem body_iff (isFunction : node.kind = .functionDefinition) {locals : List String}
    {body : Node} :
    Body node locals body ↔
      ∃ before, HasBody node before body ∧ locals = Node.parametersAmong before := by
  constructor
  · rintro (⟨_, children, named, field⟩ | ⟨kind, _⟩)
    · exact ⟨_, ⟨⟨_, children⟩, named, field⟩, rfl⟩
    · simp [isFunction] at kind
  · rintro ⟨before, ⟨⟨after, children⟩, named, field⟩, rfl⟩
    exact .function isFunction children named field

theorem reads_function_iff (isFunction : node.kind = .functionDefinition) :
    Reads name .statement node ↔ HeadingReads name node ∨ BodyReads name node := by
  constructor
  · rintro (isRead | ⟨isPart, reads⟩ | ⟨isBody, reads, free, unbound⟩)
    · cases isRead
    · exact Or.inl ⟨_, _, isPart, reads⟩
    · rcases (body_iff isFunction).mp isBody with ⟨before, hasBody, rfl⟩
      rw [Node.mem_parametersAmong_iff] at free
      exact Or.inr ⟨before, _, hasBody, reads, free, unbound⟩
  · rintro (⟨role, part, isPart, reads⟩ | ⟨before, body, hasBody, reads, free, unbound⟩)
    · exact .part isPart reads
    · rw [← Node.mem_parametersAmong_iff] at free
      exact .body ((body_iff isFunction).mpr ⟨before, hasBody, rfl⟩) reads free unbound

/-- A function definition uses what its heading reads and what its body reads, there without
parameters and bound names. These are the free names of the body, unless it both declares a name to
be global and binds it. -/
theorem function_uses_free_names (node : Node) (isFunction : node.kind = .functionDefinition)
    (name : String) :
    (name ∈ (node.usage .statement).uses ↔ HeadingReads name node ∨ BodyReads name node) ∧
      (BodyReads name node → IsFree name node) ∧
      ((∀ before body, HasBody node before body →
        ¬(Binds name .part body ∧ DeclaresGlobal name .part body)) →
        (BodyReads name node ↔ IsFree name node)) := by
  have reads : BodyReads name node → IsFree name node := by
    rintro ⟨before, body, hasBody, reads, free, unbound⟩
    exact ⟨before, body, hasBody, reads, free, fun isLocal => unbound isLocal.1⟩
  refine ⟨?_, reads, ?_⟩
  · rw [mem_uses_usage_iff, reads_function_iff isFunction]
  · intro notBoth
    refine ⟨reads, ?_⟩
    rintro ⟨before, body, hasBody, reads, free, notLocal⟩
    refine ⟨before, body, hasBody, reads, free, fun binds => ?_⟩
    exact notLocal ⟨binds, fun declares => notBoth before body hasBody ⟨binds, declares⟩⟩

namespace Sample

/-- The definition of `f` with some parameters and a body. -/
def function (parameters : List Node) (body : Node) : Node :=
  .mk .functionDefinition none ""
    [.mk .sign none "def" [], .mk .identifier (some .name) "f" [],
     .mk .other (some .parameters) "" parameters, .mk .sign none ":" [], body]

theorem hasBody_function {parameters : List Node} {body : Node} (named : body.isNamed = true)
    (field : body.field = some .body) :
    HasBody (function parameters body)
      [.mk .sign none "def" [], .mk .identifier (some .name) "f" [],
       .mk .other (some .parameters) "" parameters, .mk .sign none ":" []] body where
  children := ⟨[], rfl⟩
  named := named
  field := field

/-- The parameters `(a, *b, (c, d)=1)`. -/
def parameters : List Node :=
  [.mk .sign none "(" [], .mk .identifier none "a" [], .mk .sign none "," [],
   .mk .parameterPattern none "" [.mk .sign none "*" [], .mk .identifier none "b" []],
   .mk .sign none "," [], .mk .richParameter none ""
    [.mk .parameterPattern (some .name) ""
      [.mk .sign none "(" [], .mk .identifier none "c" [], .mk .sign none "," [],
       .mk .identifier none "d" [], .mk .sign none ")" []],
     .mk .sign none "=" [], .mk .other (some .value) "1" []],
   .mk .sign none ")" []]

/-- The statement `name = value`. -/
def assigning (name : String) (value : List Node) : Node :=
  .mk .expressionStatement none ""
    [.mk .assignment none ""
      [.mk .identifier (some .left) name [], .mk .sign none "=" [],
       .mk .other (some .right) "" value]]

/-- The body `x = d + g`. -/
def adding : Node :=
  .mk .block (some .body) ""
    [assigning "x" [.mk .identifier (some .left) "d" [], .mk .sign none "+" [],
      .mk .identifier (some .right) "g" []]]

/-- The body `global x` with `x = x + 1`. -/
def counting : Node :=
  .mk .block (some .body) ""
    [.mk .globalStatement none "" [.mk .sign none "global" [], .mk .identifier none "x" []],
     assigning "x" [.mk .identifier (some .left) "x" [], .mk .sign none "+" [],
       .mk .other (some .right) "1" []]]

theorem eq_of_hasBody_function {parameters before : List Node} {body other : Node}
    (hasBody : HasBody (function parameters body) before other) : other = body := by
  rcases hasBody with ⟨⟨after, children⟩, _, field⟩
  have member : other ∈ (function parameters body).children := by simp [children]
  simp only [function, Node.children, List.mem_cons, List.not_mem_nil, or_false] at member
  rcases member with rfl | rfl | rfl | rfl | rfl
  · simp [Node.field] at field
  · simp [Node.field] at field
  · simp [Node.field] at field
  · simp [Node.field] at field
  · rfl

theorem unbound_adding : ¬Binds "g" .part adding := by
  rw [← mem_bound_usage_iff]
  decide +kernel

theorem bodyReads_adding : BodyReads "g" (function parameters adding) := by
  refine ⟨_, adding, hasBody_function rfl rfl, ?_, ?_, unbound_adding⟩
  · rw [← mem_uses_usage_iff]
    decide +kernel
  · rw [← Node.mem_parametersAmong_iff]
    decide +kernel

theorem declaresGlobal_counting : DeclaresGlobal "x" .part counting := by
  have declares : DeclaresHere "x" .statement
      (.mk .globalStatement none "" [.mk .sign none "global" [], .mk .identifier none "x" []]) :=
    .intro rfl (List.mem_singleton.mpr rfl) rfl rfl
  exact .part (.inBlock rfl List.mem_cons_self) (.here declares)

end Sample

theorem function_uses_free_names_sample :
    (Sample.function Sample.parameters Sample.adding).kind = .functionDefinition ∧
      BodyReads "g" (Sample.function Sample.parameters Sample.adding) ∧
      "g" ∈ ((Sample.function Sample.parameters Sample.adding).usage .statement).uses ∧
      (∀ before body, HasBody (Sample.function Sample.parameters Sample.adding) before body →
        ¬(Binds "g" .part body ∧ DeclaresGlobal "g" .part body)) ∧
      IsFree "g" (Sample.function Sample.parameters Sample.adding) := by
  have general := function_uses_free_names (Sample.function Sample.parameters Sample.adding) rfl "g"
  have notBoth : ∀ before body,
      HasBody (Sample.function Sample.parameters Sample.adding) before body →
      ¬(Binds "g" .part body ∧ DeclaresGlobal "g" .part body) :=
    fun _ _ hasBody both => Sample.unbound_adding (Sample.eq_of_hasBody_function hasBody ▸ both.1)
  exact ⟨rfl, Sample.bodyReads_adding, general.1.mpr (Or.inr Sample.bodyReads_adding), notBoth,
    (general.2.2 notBoth).mp Sample.bodyReads_adding⟩

/-- A name that the body declares to be global and binds is free, but the definition does not use
it. -/
theorem exists_global_not_used :
    ∃ node : Node, node.kind = .functionDefinition ∧ IsFree "x" node ∧
      "x" ∉ (node.usage .statement).uses := by
  refine ⟨Sample.function [.mk .sign none "(" [], .mk .sign none ")" []] Sample.counting, rfl,
    ⟨_, Sample.counting, Sample.hasBody_function rfl rfl, ?_, ?_, ?_⟩, ?_⟩
  · rw [← mem_uses_usage_iff]
    decide +kernel
  · rw [← Node.mem_parametersAmong_iff]
    decide +kernel
  · exact fun isLocal => isLocal.2 Sample.declaresGlobal_counting
  · decide +kernel

end NotebookSlice.Syntax

import NotebookSlice.Proofs.Facts.Functions

/-!
# Free names of classes

A class definition uses what its heading reads, and what its body reads without the names that the
body binds. This is right for what the body evaluates itself. A method does not see the names of the
class, though, so a name that is free in a method belongs to what is around the class, whatever the
class binds. Such a name is used by the class only if none of the class bodies around the method
binds a name of the same spelling.
-/

namespace NotebookSlice.Syntax

variable {name : String} {role : Role} {node function : Node} {bodies : List Node}

/-- The name is read by the body of a class, which does not bind it. -/
def ClassBodyReads (name : String) (node : Node) : Prop :=
  ∃ body ∈ node.namedChildren, body.field = some .body ∧ Reads name .part body ∧
    ¬Binds name .part body

/-- `Method function bodies role node`: the function definition stands in the scope of the node, or
in that of a class in the node, and so on inwards; `bodies` are the bodies of the classes around it,
from outside. -/
inductive Method (function : Node) : List Node → Role → Node → Prop
  | here (isFunction : function.kind = .functionDefinition) : Method function [] .statement function
  | part {bodies : List Node} {role partRole : Role} {node part : Node}
      (isPart : Part role node partRole part) (method : Method function bodies partRole part) :
      Method function bodies role node
  | inClass {bodies : List Node} {node body : Node} (kind : node.kind = .classDefinition)
      (member : body ∈ node.namedChildren) (field : body.field = some .body)
      (method : Method function bodies .part body) :
      Method function (body :: bodies) .statement node

theorem reads_class_iff (isClass : node.kind = .classDefinition) :
    Reads name .statement node ↔ HeadingReads name node ∨ ClassBodyReads name node := by
  constructor
  · rintro (isRead | ⟨isPart, reads⟩ | ⟨isBody, reads, _, unbound⟩)
    · cases isRead
    · exact Or.inl ⟨_, _, isPart, reads⟩
    · cases isBody with
      | function kind => simp [isClass] at kind
      | inClass _ member field => exact Or.inr ⟨_, member, field, reads, unbound⟩
  · rintro (⟨role, part, isPart, reads⟩ | ⟨body, member, field, reads, unbound⟩)
    · exact .part isPart reads
    · exact .body (.inClass isClass member field) reads (by simp) unbound

/-- What a method reads is read by the node that it stands in, unless the body of a class around it
binds the name. -/
theorem Method.reads (method : Method function bodies role node)
    (reads : Reads name .statement function) (unbound : ∀ body ∈ bodies, ¬Binds name .part body) :
    Reads name role node := by
  induction method with
  | here => exact reads
  | part isPart _ ih => exact .part isPart (ih unbound)
  | inClass kind member field _ ih =>
      simp only [List.forall_mem_cons] at unbound
      exact .body (.inClass kind member field) (ih unbound.2) (by simp) unbound.1

theorem Method.isFunction (method : Method function bodies role node) :
    function.kind = .functionDefinition := by
  induction method with
  | here isFunction => exact isFunction
  | part _ _ ih => exact ih
  | inClass _ _ _ _ ih => exact ih

/-- A class definition uses what its heading reads and what its body reads without binding it. So
what is free in a method is used if no body of a class around the method binds it. If the body of
the class binds it, the class uses it only for its heading, although the method does not see that
binding. -/
theorem class_uses_methods (node : Node) (isClass : node.kind = .classDefinition) (name : String) :
    (name ∈ (node.usage .statement).uses ↔ HeadingReads name node ∨ ClassBodyReads name node) ∧
      ∀ function bodies, Method function bodies .statement node → BodyReads name function →
        name ∈ (function.usage .statement).uses ∧
        ((∀ body ∈ bodies, ¬Binds name .part body) → name ∈ (node.usage .statement).uses) ∧
        ((∀ body ∈ node.namedChildren, body.field = some .body → Binds name .part body) →
          (name ∈ (node.usage .statement).uses ↔ HeadingReads name node)) := by
  have uses : name ∈ (node.usage .statement).uses ↔
      HeadingReads name node ∨ ClassBodyReads name node := by
    rw [mem_uses_usage_iff, reads_class_iff isClass]
  refine ⟨uses, ?_⟩
  intro function bodies method bodyReads
  have reads : Reads name .statement function :=
    (reads_function_iff method.isFunction).mpr (Or.inr bodyReads)
  refine ⟨(mem_uses_usage_iff function .statement).mpr reads, ?_, ?_⟩
  · intro unbound
    exact (mem_uses_usage_iff node .statement).mpr (method.reads reads unbound)
  · intro binds
    rw [uses]
    apply or_iff_left
    rintro ⟨body, member, field, _, unbound⟩
    exact unbound (binds body member field)

namespace Sample

/-- The body `return callee()`. -/
def calling (callee : String) : Node :=
  .mk .block (some .body) ""
    [.mk .statement none ""
      [.mk .sign none "return" [],
       .mk .call none ""
        [.mk .identifier (some .function) callee [],
         .mk .other none "" [.mk .sign none "(" [], .mk .sign none ")" []]]]]

/-- The method `def f(self): return callee()`. -/
def method (callee : String) : Node :=
  Sample.function [.mk .sign none "(" [], .mk .identifier none "self" [], .mk .sign none ")" []]
    (calling callee)

/-- The body of the class `A`, with the method. -/
def classBody (callee : String) : Node := .mk .block (some .body) "" [method callee]

/-- The class `A`. -/
def classWith (callee : String) : Node :=
  .mk .classDefinition none ""
    [.mk .sign none "class" [], .mk .identifier (some .name) "A" [], .mk .sign none ":" [],
     classBody callee]

theorem method_classWith (callee : String) :
    Method (method callee) [classBody callee] .statement (classWith callee) := by
  have isBody : classBody callee ∈ (classWith callee).namedChildren := by
    simp [classWith, classBody, Node.namedChildren, Node.children, Node.isNamed, Node.kind]
  exact .inClass rfl isBody rfl (.part (.inBlock rfl (List.mem_singleton.mpr rfl)) (.here rfl))

theorem bodyReads_method {callee : String} (reads : callee ∈ ((calling callee).usage .part).uses)
    (unbound : callee ∉ ((calling callee).usage .part).bound) (noParameter : callee ≠ "self") :
    BodyReads callee (method callee) := by
  refine ⟨_, calling callee, hasBody_function rfl rfl, (mem_uses_usage_iff _ _).mp reads, ?_, ?_⟩
  · rw [← Node.mem_parametersAmong_iff]
    simpa [Node.parametersAmong, Node.parameterListNames, Node.parameterNames, Node.namedChildren,
      Node.children, Node.isNamed, Node.kind, Node.field, Node.text] using noParameter
  · rw [← mem_bound_usage_iff]
    exact unbound

end Sample

theorem class_uses_methods_sample :
    (Sample.classWith "g").kind = .classDefinition ∧
      Method (Sample.method "g") [Sample.classBody "g"] .statement (Sample.classWith "g") ∧
      BodyReads "g" (Sample.method "g") ∧ (∀ body ∈ [Sample.classBody "g"], ¬Binds "g" .part body) ∧
      "g" ∈ ((Sample.classWith "g").usage .statement).uses := by
  have bodyReads : BodyReads "g" (Sample.method "g") :=
    Sample.bodyReads_method (by decide +kernel) (by decide +kernel) (by decide)
  have unbound : ∀ body ∈ [Sample.classBody "g"], ¬Binds "g" .part body := by
    simp only [List.forall_mem_singleton, ← mem_bound_usage_iff]
    decide +kernel
  have general :=
    (class_uses_methods (Sample.classWith "g") rfl "g").2 _ _
      (Sample.method_classWith "g") bodyReads
  exact ⟨rfl, Sample.method_classWith "g", bodyReads, unbound, general.2.1 unbound⟩

/-- A method that calls a global function of its own name: the class does not use the function. -/
theorem exists_method_not_used :
    ∃ node function body : Node, node.kind = .classDefinition ∧
      Method function [body] .statement node ∧
      BodyReads "f" function ∧ "f" ∈ (function.usage .statement).uses ∧
        "f" ∉ (node.usage .statement).uses := by
  refine ⟨Sample.classWith "f", Sample.method "f", Sample.classBody "f", rfl,
    Sample.method_classWith "f", ?_, ?_, ?_⟩
  · exact Sample.bodyReads_method (by decide +kernel) (by decide +kernel) (by decide)
  · decide +kernel
  · decide +kernel

end NotebookSlice.Syntax

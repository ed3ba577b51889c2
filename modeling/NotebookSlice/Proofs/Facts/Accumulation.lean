import NotebookSlice.Facts.NameSet
import NotebookSlice.Proofs.Facts.Parts

/-!
# Walks that carry their findings

The names of a node are defined as a union: what the node contributes itself, with what its parts
contribute. A program would rather walk the tree once, carry along the sets of names found so far
and insert into them. Only the body of a function or of a class is walked apart, from empty sets,
since what it binds is subtracted from what it uses.

Both come to the same. Whatever has been found before, a walk adds to it what it would find on its
own, and that is the union of what the parts contribute.
-/

namespace NotebookSlice

namespace NameSet

theorem union_assoc (first second third : NameSet) :
    (first.union second).union third = first.union (second.union third) := by
  ext name
  simp [or_assoc]

theorem contains_ofList (names : List String) (name : String) :
    (ofList names).contains name = names.contains name := by
  rw [Bool.eq_iff_iff]
  simp

theorem foldl_insert_eq_union (names : List String) (found : NameSet) :
    names.foldl (fun found name => found.insert name) found = found.union (ofList names) := by
  induction names generalizing found with
  | nil =>
      ext name
      simp
  | cons first names ih =>
      rw [List.foldl_cons, ih]
      ext name
      simp only [mem_union, mem_insert, mem_ofList, List.mem_cons]
      tauto

end NameSet

namespace Syntax

/-- The names that a walk has found so far. -/
@[ext]
structure Findings where
  defs : NameSet := ∅
  uses : NameSet := ∅
  bound : NameSet := ∅

namespace Findings

instance : EmptyCollection Findings := ⟨{}⟩

instance : Union Findings :=
  ⟨fun first second =>
    ⟨first.defs.union second.defs, first.uses.union second.uses, first.bound.union second.bound⟩⟩

/-- The collected names as sets. -/
def ofUsage (usage : Usage) : Findings :=
  ⟨NameSet.ofList usage.defs, NameSet.ofList usage.uses, NameSet.ofList usage.bound⟩

/-- Inserts names one by one. -/
def record (found : Findings) (usage : Usage) : Findings where
  defs := usage.defs.foldl (fun found name => found.insert name) found.defs
  uses := usage.uses.foldl (fun found name => found.insert name) found.uses
  bound := usage.bound.foldl (fun found name => found.insert name) found.bound

/-- Inserts what the body of a definition uses and neither binds nor has as a parameter. -/
def recordBody (found : Findings) (locals : List String) (body : Findings) : Findings :=
  let free :=
    body.uses.toList.filter fun name => !(locals.contains name || body.bound.contains name)
  { found with uses := free.foldl (fun found name => found.insert name) found.uses }

end Findings

mutual

/-- What has been found after the walk over a node in a role. -/
def Node.walk (role : Role) : Node → Findings → Findings
  | .mk kind field text children, found =>
    let node := Node.mk kind field text children
    let reading := Reading.of role node
    Node.walkAll (reading.plan children) children (found.record (reading.own node))

/-- What has been found after the walk over children, each by its uses. -/
def Node.walkAll : List (List Use) → List Node → Findings → Findings
  | uses :: plan, child :: children, found =>
    Node.walkAll plan children (uses.foldl (fun found use =>
      match use.scope with
      | none => Node.walk use.role child found
      | some locals => found.recordBody locals (Node.walk use.role child ∅)) found)
  | _, _, found => found

end

/-- What has been found after the walk over a node with a reading. The readings are the operations
of the walk. -/
def Reading.walk (reading : Reading) (node : Node) (found : Findings) : Findings :=
  Node.walkAll (reading.plan node.children) node.children (found.record (reading.own node))

namespace Findings

theorem union_def (first second : Findings) : first ∪ second =
    ⟨first.defs.union second.defs, first.uses.union second.uses, first.bound.union second.bound⟩ :=
  rfl

theorem union_assoc (first second third : Findings) :
    first ∪ second ∪ third = first ∪ (second ∪ third) := by
  simp only [union_def, NameSet.union_assoc]

theorem empty_union (found : Findings) : ∅ ∪ found = found := by
  ext name
  all_goals simp [union_def, EmptyCollection.emptyCollection]

theorem union_empty (found : Findings) : found ∪ ∅ = found := by
  ext name
  all_goals simp [union_def, EmptyCollection.emptyCollection]

theorem ofUsage_union (first second : Usage) :
    ofUsage (first ∪ second) = ofUsage first ∪ ofUsage second := by
  ext name
  all_goals simp [ofUsage, Union.union, Usage.union]

theorem record_eq (found : Findings) (usage : Usage) :
    found.record usage = found ∪ ofUsage usage := by
  simp only [record, NameSet.foldl_insert_eq_union]
  rfl

/-- Walked apart, a body contributes what it encloses. -/
theorem recordBody_eq (found : Findings) (locals : List String) (body : Usage) :
    found.recordBody locals (ofUsage body) = found ∪ ofUsage (body.enclose locals) := by
  simp only [recordBody, NameSet.foldl_insert_eq_union]
  ext name
  · simp [union_def, ofUsage, Usage.enclose]
  · simp [union_def, ofUsage, Usage.enclose, ← NameSet.mem_def, NameSet.contains_ofList]
  · simp [union_def, ofUsage, Usage.enclose]

end Findings

namespace Node

open Findings

/-- One use of a child adds what the child contributes by it, if walks over the child do. -/
theorem step_eq_union {child : Node}
    (walk_eq : ∀ (role : Role) (found : Findings),
      child.walk role found = found ∪ ofUsage (child.usage role))
    (found : Findings) (use : Use) :
    (match use.scope with
      | none => child.walk use.role found
      | some locals => found.recordBody locals (child.walk use.role ∅)) =
      found ∪ ofUsage (use.apply (child.usage use.role)) := by
  rw [Use.apply.eq_def]
  cases use.scope with
  | none => exact walk_eq use.role found
  | some locals =>
      simp only
      rw [walk_eq, empty_union, recordBody_eq]

theorem walkAll_eq_union {children : List Node}
    (walk_eq : ∀ child ∈ children, ∀ (role : Role) (found : Findings),
      child.walk role found = found ∪ ofUsage (child.usage role))
    (plan : List (List Use)) (found : Findings) :
    walkAll plan children found = found ∪ ofUsage (usageOfAll plan children) := by
  induction children generalizing plan found with
  | nil => cases plan <;> exact (union_empty found).symm
  | cons child children ih =>
      cases plan with
      | nil => exact (union_empty found).symm
      | cons uses plan =>
          simp only [List.forall_mem_cons] at walk_eq
          rw [walkAll, ih walk_eq.2, usageOfAll]
          -- The uses of the child one by one, the rest of the children being joined at the end.
          induction uses generalizing found with
          | nil => rfl
          | cons use uses ihUses =>
              rw [List.foldl_cons, List.foldr_cons, ihUses, step_eq_union walk_eq.1,
                ofUsage_union, union_assoc]

/-- A walk adds to what has been found the names of the node. -/
theorem walk_eq_union (node : Node) (role : Role) (found : Findings) :
    node.walk role found = found ∪ ofUsage (node.usage role) := by
  induction node using Node.induction generalizing role found with
  | step node ih =>
      rcases node with ⟨kind, field, text, children⟩
      simp only [Node.children] at ih
      rw [walk, usage, walkAll_eq_union ih, record_eq, ofUsage_union, union_assoc]

/-- A walk from nothing finds the names of the node. -/
theorem walk_empty (node : Node) (role : Role) : node.walk role ∅ = ofUsage (node.usage role) := by
  rw [walk_eq_union, empty_union]

/-- A walk over a block adds what its statements contribute, one after the other. -/
theorem walk_block {block : Node} (isBlock : block.kind = .block) (found : Findings) :
    block.walk .part found =
      (block.namedChildren.map (·.walk .statement ∅)).foldl (· ∪ ·) found := by
  rcases block with ⟨kind, field, text, children⟩
  cases isBlock
  have unfolded : (mk .block field text children).walk .part found =
      walkAll (Reading.each (fun _ => [⟨.statement, none⟩]) children) children found := by
    rw [walk, record_eq, ← union_empty found, union_assoc]
    rfl
  rw [unfolded, namedChildren, Node.children]
  clear unfolded
  induction children generalizing found with
  | nil => rfl
  | cons child children ih =>
      rw [Reading.each, List.map_cons, walkAll, ← Reading.each, ih]
      cases named : child.isNamed with
      | false => simp [named]
      | true =>
          simp only [List.filter_cons_of_pos named, List.map_cons, List.foldl_cons, if_true,
            List.foldl_nil]
          rw [walk_eq_union, walk_empty]

end Node

/-- Each operation of the walk adds to what has been found what it finds from nothing. -/
theorem Reading.walk_eq_union (reading : Reading) (node : Node) (found : Findings) :
    reading.walk node found = found ∪ reading.walk node ∅ := by
  have joined (found : Findings) : reading.walk node found =
      found ∪ (Findings.ofUsage (reading.own node) ∪
        Findings.ofUsage (Node.usageOfAll (reading.plan node.children) node.children)) := by
    rw [walk, Node.walkAll_eq_union fun child _ => child.walk_eq_union, Findings.record_eq,
      Findings.union_assoc]
  rw [joined, joined ∅, Findings.empty_union]

end Syntax

end NotebookSlice

/-!
# Sets of names

A finite set of names as a list in strictly ascending order, so that two sets with the same members
are equal and a set is listed in one way only. Names are ordered by the code points of their
characters.
-/

namespace NotebookSlice

/-- A finite set of names. -/
structure NameSet where
  /-- The members in ascending order. -/
  toList : List String
  ascending : toList.Pairwise (· < ·)

namespace NameSet

/-- Puts a name into an ascending list of names. -/
def insertInto (name : String) : List String → List String
  | [] => [name]
  | other :: others =>
    if name < other then name :: other :: others
    else if name = other then other :: others
    else other :: insertInto name others

theorem mem_insertInto {name other : String} {names : List String} :
    other ∈ insertInto name names ↔ other = name ∨ other ∈ names := by
  induction names with
  | nil => simp [insertInto]
  | cons head tail ih =>
    simp only [insertInto]
    split
    · simp
    · split
      · next equal => subst equal; simp
      · simp only [List.mem_cons, ih]
        constructor
        · rintro (rfl | rfl | inTail)
          · exact Or.inr (Or.inl rfl)
          · exact Or.inl rfl
          · exact Or.inr (Or.inr inTail)
        · rintro (rfl | rfl | inTail)
          · exact Or.inr (Or.inl rfl)
          · exact Or.inl rfl
          · exact Or.inr (Or.inr inTail)

theorem lt_of_not_lt_of_ne {first second : String} (notLess : ¬ first < second)
    (different : first ≠ second) : second < first := by
  apply String.not_le.mp
  intro less
  exact different (String.le_antisymm less (String.not_lt.mp notLess))

theorem pairwise_insertInto {name : String} {names : List String}
    (ascending : names.Pairwise (· < ·)) : (insertInto name names).Pairwise (· < ·) := by
  induction names with
  | nil => simp [insertInto]
  | cons head tail ih =>
    have parts := List.pairwise_cons.mp ascending
    simp only [insertInto]
    split
    · next less =>
      refine List.pairwise_cons.mpr ⟨?_, ascending⟩
      intro other member
      rcases List.mem_cons.mp member with rfl | inTail
      · exact less
      · exact String.lt_trans less (parts.1 other inTail)
    · next notLess =>
      split
      · exact ascending
      · next different =>
        refine List.pairwise_cons.mpr ⟨?_, ih parts.2⟩
        intro other member
        rcases mem_insertInto.mp member with rfl | inTail
        · exact lt_of_not_lt_of_ne notLess different
        · exact parts.1 other inTail

/-- The set without members. -/
def empty : NameSet := ⟨[], List.Pairwise.nil⟩

instance : Inhabited NameSet := ⟨empty⟩

instance : EmptyCollection NameSet := ⟨empty⟩

/-- The set with one more member. -/
def insert (name : String) (names : NameSet) : NameSet :=
  ⟨insertInto name names.toList, pairwise_insertInto names.ascending⟩

/-- The set of the names of a list. -/
def ofList (names : List String) : NameSet := names.foldr insert empty

/-- The members of both sets. -/
def union (first second : NameSet) : NameSet := first.toList.foldr insert second

/-- Whether the name is a member. -/
def contains (names : NameSet) (name : String) : Bool := names.toList.contains name

/-- Whether there is no member. -/
def isEmpty (names : NameSet) : Bool := names.toList.isEmpty

instance : Membership String NameSet := ⟨fun names name => name ∈ names.toList⟩

instance (name : String) (names : NameSet) : Decidable (name ∈ names) :=
  inferInstanceAs (Decidable (name ∈ names.toList))

theorem mem_def {name : String} {names : NameSet} : name ∈ names ↔ name ∈ names.toList := Iff.rfl

@[simp] theorem contains_eq_true {names : NameSet} {name : String} :
    names.contains name = true ↔ name ∈ names := by
  simp [contains, mem_def]

@[simp] theorem not_mem_empty (name : String) : ¬ name ∈ (empty : NameSet) := by
  simp [mem_def, empty]

@[simp] theorem mem_insert {name other : String} {names : NameSet} :
    other ∈ insert name names ↔ other = name ∨ other ∈ names := by
  simp [mem_def, insert, mem_insertInto]

@[simp] theorem mem_ofList {name : String} {names : List String} :
    name ∈ ofList names ↔ name ∈ names := by
  induction names with
  | nil => simp [ofList]
  | cons head tail ih =>
    have unfolded : ofList (head :: tail) = insert head (ofList tail) := rfl
    simp [unfolded, ih]

@[simp] theorem mem_union {name : String} {first second : NameSet} :
    name ∈ first.union second ↔ name ∈ first ∨ name ∈ second := by
  have general : ∀ names : List String,
      name ∈ names.foldr insert second ↔ name ∈ names ∨ name ∈ second := by
    intro names
    induction names with
    | nil => simp
    | cons head tail ih => simp [ih, or_assoc]
  simpa [union, mem_def] using general first.toList

/-- Two ascending lists with the same members are equal. -/
theorem eq_of_mem_iff {first second : List String} (firstAscending : first.Pairwise (· < ·))
    (secondAscending : second.Pairwise (· < ·)) (same : ∀ name, name ∈ first ↔ name ∈ second) :
    first = second := by
  induction first generalizing second with
  | nil =>
    cases second with
    | nil => rfl
    | cons head tail => exact absurd ((same head).mpr (by simp)) (by simp)
  | cons head tail ih =>
    cases second with
    | nil => exact absurd ((same head).mp (by simp)) (by simp)
    | cons head' tail' =>
      have firstParts := List.pairwise_cons.mp firstAscending
      have secondParts := List.pairwise_cons.mp secondAscending
      have heads : head = head' := by
        rcases List.mem_cons.mp ((same head).mp (by simp)) with equal | later
        · exact equal
        · rcases List.mem_cons.mp ((same head').mpr (by simp)) with equal | later'
          · exact equal.symm
          · exact absurd (firstParts.1 head' later') (String.lt_asymm (secondParts.1 head later))
      subst heads
      have tails : tail = tail' := by
        apply ih firstParts.2 secondParts.2
        intro name
        constructor
        · intro member
          rcases List.mem_cons.mp ((same name).mp (List.mem_cons_of_mem _ member)) with rfl | inTail
          · exact absurd (firstParts.1 name member) (String.lt_irrefl name)
          · exact inTail
        · intro member
          rcases List.mem_cons.mp ((same name).mpr (List.mem_cons_of_mem _ member)) with
            rfl | inTail
          · exact absurd (secondParts.1 name member) (String.lt_irrefl name)
          · exact inTail
      rw [tails]

/-- Two sets with the same members are equal. -/
@[ext] theorem ext {first second : NameSet} (same : ∀ name, name ∈ first ↔ name ∈ second) :
    first = second := by
  have lists := eq_of_mem_iff first.ascending second.ascending same
  cases first
  cases second
  simp_all

instance : DecidableEq NameSet := fun first second =>
  if same : first.toList = second.toList then
    isTrue (by cases first; cases second; simp_all)
  else isFalse (by rintro rfl; exact same rfl)

end NameSet

end NotebookSlice

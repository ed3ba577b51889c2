import Mathlib.Algebra.Ring.Nat
import Mathlib.Data.List.Induction
import NotebookSlice.Proofs.Slice.Order

/-!
# Slices preserve meaning

Let each statement transform the values of names, such that it changes only what it defines and such
that the new values depend only on the values of what it uses. Then running a slice gives each kept
statement the same values of what it uses as running the whole chronicle does.

The proof runs both programs side by side. After each stretch of the chronicle the two states agree
on the names whose last definition in that stretch is kept. A statement that is left out can only
spoil what it defines, and a kept statement finds the names that it uses unspoiled, since a slice is
closed under nearest definitions.
-/

namespace NotebookSlice.Log

universe u

/-- A meaning of the statements of a log: each changes only the values of what it defines, and the
new values depend only on the values of what it uses. -/
structure Interpretation (log : Log) (Value : Type u) where
  step : Occurrence → (String → Value) → String → Value
  step_of_not_mem_defs : ∀ occurrence statement, log.statement? occurrence = some statement →
    ∀ state name, name ∉ statement.defs → step occurrence state name = state name
  step_congr : ∀ occurrence statement, log.statement? occurrence = some statement →
    ∀ first second, (∀ name ∈ statement.uses, first name = second name) →
      ∀ name ∈ statement.defs, step occurrence first name = step occurrence second name

namespace Interpretation

variable {log : Log} {Value : Type u}

/-- The state after a program. -/
def run (meaning : log.Interpretation Value) (program : List Occurrence)
    (initial : String → Value) :
    String → Value :=
  program.foldl (fun state occurrence => meaning.step occurrence state) initial

@[simp]
theorem run_append_singleton (meaning : log.Interpretation Value) (program : List Occurrence)
    (occurrence : Occurrence) (initial : String → Value) :
    meaning.run (program ++ [occurrence]) initial =
      meaning.step occurrence (meaning.run program initial) := by
  simp [run]

end Interpretation

/-! ### The last definition in a program -/

instance (log : Log) (occurrence : Occurrence) (name : String) :
    Decidable (log.Defines occurrence name) :=
  decidable_of_iff ((log.statement? occurrence).any fun statement => statement.defs.contains name)
    (by simp [Defines, Option.any_eq_true])

/-- The last statement of a program that defines the name. -/
def lastDefinition? (log : Log) (program : List Occurrence) (name : String) : Option Occurrence :=
  program.reverse.find? fun occurrence => log.Defines occurrence name

theorem lastDefinition?_append_singleton (log : Log) (program : List Occurrence)
    (occurrence : Occurrence) (name : String) :
    log.lastDefinition? (program ++ [occurrence]) name =
      if log.Defines occurrence name then
        some occurrence else log.lastDefinition? program name := by
  by_cases defines : log.Defines occurrence name <;> simp [lastDefinition?, defines]

theorem latest_of_lastDefinition?_eq_some {log : Log} {program : List Occurrence}
    (ordered : program.Pairwise fun earlier later => log.time earlier < log.time later)
    {name : String} {source : Occurrence} (found : log.lastDefinition? program name = some source) :
    source ∈ program ∧ log.Defines source name ∧
      ∀ other ∈ program, log.Defines other name → log.time other ≤ log.time source := by
  rcases List.find?_eq_some_iff_append.mp found with ⟨defines, after, before, split, undefined⟩
  have program_eq : program = before.reverse ++ source :: after.reverse := by
    simpa using congrArg List.reverse split
  subst program_eq
  refine ⟨by simp, by simpa using defines, ?_⟩
  intro other member otherDefines
  rcases List.mem_append.mp member with inBefore | inRest
  · exact le_of_lt ((List.pairwise_append.mp ordered).2.2 other inBefore source List.mem_cons_self)
  · rcases List.mem_cons.mp inRest with rfl | inAfter
    · exact le_refl _
    · have undefinedThere := undefined other (List.mem_reverse.mp inAfter)
      simp [otherDefines] at undefinedThere

/-- The last definition of the name in a program is kept, if there is one. -/
def Settled (log : Log) (kept : Occurrence → Bool) (program : List Occurrence) (name : String) :
    Prop :=
  ∀ source, log.lastDefinition? program name = some source → kept source = true

theorem settled_append_singleton_of_not_defines {log : Log} {kept : Occurrence → Bool}
    {program : List Occurrence} {occurrence : Occurrence} {name : String}
    (notDefines : ¬log.Defines occurrence name)
    (settled : log.Settled kept (program ++ [occurrence]) name) :
    log.Settled kept program name := by
  intro source found
  apply settled source
  rw [lastDefinition?_append_singleton, if_neg notDefines]
  exact found

theorem kept_of_settled_append_singleton {log : Log} {kept : Occurrence → Bool}
    {program : List Occurrence} {occurrence : Occurrence} {name : String}
    (defines : log.Defines occurrence name)
    (settled : log.Settled kept (program ++ [occurrence]) name) : kept occurrence = true := by
  apply settled occurrence
  rw [lastDefinition?_append_singleton, if_pos defines]

namespace Interpretation

variable {log : Log} {Value : Type u}

theorem step_of_not_defines (meaning : log.Interpretation Value) {occurrence : Occurrence}
    (known : (log.statement? occurrence).isSome) {name : String}
    (notDefines : ¬log.Defines occurrence name) (state : String → Value) :
    meaning.step occurrence state name = state name := by
  rcases Option.isSome_iff_exists.mp known with ⟨statement, isStatement⟩
  apply meaning.step_of_not_mem_defs occurrence statement isStatement
  intro nameMem
  exact notDefines ⟨statement, isStatement, nameMem⟩

theorem step_eq_of_uses (meaning : log.Interpretation Value) {occurrence : Occurrence}
    {name : String} (defines : log.Defines occurrence name) {first second : String → Value}
    (agree : ∀ used, log.Uses occurrence used → first used = second used) :
    meaning.step occurrence first name = meaning.step occurrence second name := by
  rcases defines with ⟨statement, isStatement, nameMem⟩
  apply meaning.step_congr occurrence statement isStatement first second _ name nameMem
  intro used usedMem
  exact agree used ⟨statement, isStatement, usedMem⟩

/-- One more statement of the program keeps the agreement on what is settled. -/
theorem run_filter_append_singleton (meaning : log.Interpretation Value) {kept : Occurrence → Bool}
    {program : List Occurrence} {occurrence : Occurrence} {initial : String → Value}
    (known : (log.statement? occurrence).isSome)
    (usesSettled : kept occurrence = true →
      ∀ used, log.Uses occurrence used → log.Settled kept program used)
    (agree : ∀ name, log.Settled kept program name →
      meaning.run (program.filter kept) initial name = meaning.run program initial name)
    {name : String} (settled : log.Settled kept (program ++ [occurrence]) name) :
    meaning.run ((program ++ [occurrence]).filter kept) initial name =
      meaning.run (program ++ [occurrence]) initial name := by
  rw [List.filter_append, run_append_singleton]
  by_cases defines : log.Defines occurrence name
  · have isKept := kept_of_settled_append_singleton defines settled
    rw [List.filter_cons_of_pos isKept, List.filter_nil, run_append_singleton]
    apply meaning.step_eq_of_uses defines
    intro used uses
    exact agree used (usesSettled isKept used uses)
  · have agreeHere := agree name (settled_append_singleton_of_not_defines defines settled)
    rw [meaning.step_of_not_defines known defines, ← agreeHere]
    by_cases isKept : kept occurrence = true
    · rw [List.filter_cons_of_pos isKept, List.filter_nil, run_append_singleton,
        meaning.step_of_not_defines known defines]
    · rw [List.filter_cons_of_neg isKept, List.filter_nil, List.append_nil]

/-- After each stretch of a program, running only what is kept agrees with running everything on the
names whose last definition there is kept. -/
theorem run_filter_eq (meaning : log.Interpretation Value) {kept : Occurrence → Bool}
    {program : List Occurrence} (known : ∀ occurrence ∈ program, (log.statement? occurrence).isSome)
    (usesSettled : ∀ before occurrence after, program = before ++ occurrence :: after →
      kept occurrence = true → ∀ used, log.Uses occurrence used → log.Settled kept before used)
    (initial : String → Value) {before after : List Occurrence} (split : program = before ++ after)
    {name : String} (settled : log.Settled kept before name) :
    meaning.run (before.filter kept) initial name = meaning.run before initial name := by
  induction before using List.reverseRecOn generalizing after name with
  | nil => rfl
  | append_singleton before occurrence ih =>
      rw [List.append_assoc, List.singleton_append] at split
      apply meaning.run_filter_append_singleton (known occurrence (by simp [split])) _ _ settled
      · intro isKept used uses
        exact usesSettled before occurrence after split isKept used uses
      · intro other otherSettled
        exact ih split otherSettled

end Interpretation

/-! ### Slices and chronicles -/

/-- In the chronicle, the last definition before a statement is the nearest one. -/
theorem nearestDefinition_of_lastDefinition?_eq_some {log : Log} (consistent : log.Consistent)
    {target : EventId} {before after : List Occurrence} {occurrence : Occurrence}
    (split : log.chronicle target = before ++ occurrence :: after) {name : String}
    {source : Occurrence} (found : log.lastDefinition? before name = some source) :
    log.NearestDefinition target name occurrence source := by
  have ordered := pairwise_chronicle consistent target
  rw [split, List.pairwise_append] at ordered
  rcases ordered with ⟨beforeOrdered, restOrdered, across⟩
  rcases latest_of_lastDefinition?_eq_some beforeOrdered found with ⟨member, defines, latest⟩
  refine ⟨?_, defines, across source member occurrence List.mem_cons_self, ?_⟩
  · rw [← mem_chronicle consistent, split]
    exact List.mem_append_left _ member
  · intro other eligible otherDefines less
    rw [← mem_chronicle consistent, split, List.mem_append, List.mem_cons] at eligible
    rcases eligible with inBefore | rfl | inAfter
    · exact latest other inBefore otherDefines
    · exact absurd less (lt_irrefl _)
    · exact absurd less (lt_asymm ((List.pairwise_cons.mp restOrdered).1 other inAfter))

/-- The last definition in the chronicle of a name that the target defines is one of the
target's. -/
theorem event_eq_of_lastDefinition?_chronicle {log : Log} (consistent : log.Consistent)
    {target : EventId} {index : Nat} {name : String} (defines : log.Defines ⟨target, index⟩ name)
    {source : Occurrence} (found : log.lastDefinition? (log.chronicle target) name = some source) :
    source.event = target := by
  rcases latest_of_lastDefinition?_eq_some (pairwise_chronicle consistent target) found with
    ⟨member, _, latest⟩
  have eligible : log.Eligible target ⟨target, index⟩ := by
    rcases defines with ⟨statement, isStatement, _⟩
    exact ⟨by rw [isStatement]; rfl, Or.inl rfl⟩
  have notAfter := latest ⟨target, index⟩ ((mem_chronicle consistent).mpr eligible) defines
  rcases ((mem_chronicle consistent).mp member).2 with isTarget | ⟨record, _, sameEvent, _, less⟩
  · exact isTarget
  · rw [sameEvent] at less
    have isEarlier : log.time source < log.time ⟨target, index⟩ := time_lt_of_key_lt less
    exact absurd isEarlier (not_lt_of_ge notAfter)

section Kept

variable {log : Log} {target : EventId}

/-- The statement is kept by the slice of the target. -/
def keeps (log : Log) (target : EventId) (occurrence : Occurrence) : Bool :=
  decide (occurrence ∈ (log.slice target).occurrences)

theorem keeps_iff {occurrence : Occurrence} :
    log.keeps target occurrence = true ↔ occurrence ∈ (log.slice target).occurrences := by
  simp [keeps]

theorem settled_of_uses (consistent : log.Consistent)
    (closed : log.Closed target {occurrence | occurrence ∈ (log.slice target).occurrences})
    {before after : List Occurrence} {occurrence : Occurrence}
    (split : log.chronicle target = before ++ occurrence :: after)
    (isKept : log.keeps target occurrence = true) {used : String}
    (uses : log.Uses occurrence used) :
    log.Settled (log.keeps target) before used := by
  intro source found
  have nearest := nearestDefinition_of_lastDefinition?_eq_some consistent split found
  rw [keeps_iff] at isKept ⊢
  exact closed.source_mem occurrence isKept used uses source nearest

theorem settled_of_target_defines (consistent : log.Consistent)
    (closed : log.Closed target {occurrence | occurrence ∈ (log.slice target).occurrences})
    {index : Nat} {name : String} (defines : log.Defines ⟨target, index⟩ name) :
    log.Settled (log.keeps target) (log.chronicle target) name := by
  intro source found
  have sameEvent := event_eq_of_lastDefinition?_chronicle consistent defines found
  rcases latest_of_lastDefinition?_eq_some (pairwise_chronicle consistent target) found with
    ⟨member, _, _⟩
  have isStatement := ((mem_chronicle consistent).mp member).1
  cases source with
  | mk event number =>
      change event = target at sameEvent
      subst sameEvent
      exact keeps_iff.mpr (closed.target_mem number isStatement)

theorem run_slice_eq_of_settled {Value : Type u} (consistent : log.Consistent)
    (closed : log.Closed target {occurrence | occurrence ∈ (log.slice target).occurrences})
    (meaning : log.Interpretation Value) (initial : String → Value) {before after : List Occurrence}
    (split : log.chronicle target = before ++ after) {name : String}
    (settled : log.Settled (log.keeps target) before name) :
    meaning.run (before.filter (log.keeps target)) initial name =
      meaning.run before initial name := by
  apply meaning.run_filter_eq _ _ initial split settled
  · intro occurrence member
    exact ((mem_chronicle consistent).mp member).1
  · intro before occurrence after split isKept used uses
    exact settled_of_uses consistent closed split isKept uses

end Kept

/-- Running the slice of a target gives each kept statement the values of what it uses that running
the whole chronicle gives it, and both end with the same values of what the target defines. -/
theorem slice_preserves_meaning {Value : Type u} (analyzer : Analyzer) (operations : List Operation)
    (numbered : ((empty analyzer).run operations).Numbered) (target : EventId) (facts : Facts)
    (known : ((empty analyzer).run operations).facts? target = some facts)
    (nonempty : facts.isEmpty = false)
    (meaning : ((empty analyzer).run operations).Interpretation Value) (initial : String → Value) :
    let log := (empty analyzer).run operations
    (∀ before occurrence after, (log.slice target).occurrences = before ++ occurrence :: after →
      ∃ earlier later, log.chronicle target = earlier ++ occurrence :: later ∧
        ∀ name, log.Uses occurrence name →
          meaning.run before initial name = meaning.run earlier initial name) ∧
      ∀ index name, log.Defines ⟨target, index⟩ name →
        meaning.run (log.slice target).occurrences initial name =
          meaning.run (log.chronicle target) initial name := by
  intro log
  have consistent : log.Consistent := consistent_run_empty analyzer operations
  have closed := (isLeast_occurrences_slice consistent numbered known nonempty).2.1
  have remains : (log.slice target).occurrences =
      (log.chronicle target).filter (log.keeps target) :=
    occurrences_slice_eq_filter consistent numbered known nonempty
  constructor
  · intro before occurrence after split
    rw [remains] at split
    rcases List.filter_eq_append_iff.mp split with ⟨first, rest, chronicleEq, rfl, restEq⟩
    rcases List.filter_eq_cons_iff.mp restEq with ⟨dropped, later, rfl, notKept, isKept, _⟩
    rw [← List.append_assoc] at chronicleEq
    have leftOut : dropped.filter (log.keeps target) = [] := List.filter_eq_nil_iff.mpr notKept
    have earlierEq : (first ++ dropped).filter (log.keeps target) =
        first.filter (log.keeps target) := by
      rw [List.filter_append, leftOut, List.append_nil]
    refine ⟨first ++ dropped, later, chronicleEq, ?_⟩
    intro name uses
    rw [← earlierEq]
    apply run_slice_eq_of_settled consistent closed meaning initial chronicleEq
    exact settled_of_uses consistent closed chronicleEq isKept uses
  · intro index name defines
    rw [remains]
    apply run_slice_eq_of_settled consistent closed meaning initial (List.append_nil _).symm
    exact settled_of_target_defines consistent closed defines

/-- A meaning in which what is defined becomes one more than the sum of what is used. -/
def tally (log : Log) : log.Interpretation Nat where
  step occurrence state name :=
    match log.statement? occurrence with
    | none => state name
    | some statement =>
      if name ∈ statement.defs then (statement.uses.toList.map state).sum + 1 else state name
  step_of_not_mem_defs occurrence statement isStatement state name notMem := by
    simp [isStatement, notMem]
  step_congr occurrence statement isStatement first second agree name nameMem := by
    have same : statement.uses.toList.map first = statement.uses.toList.map second :=
      List.map_congr_left agree
    simp [isStatement, nameMem, same]

theorem slice_preserves_meaning_sample :
    Sample.log.Numbered ∧ Sample.log.facts? ⟨"e4"⟩ = some Sample.facts ∧
      Sample.facts.isEmpty = false ∧
      (∀ before occurrence after,
        (Sample.log.slice ⟨"e4"⟩).occurrences = before ++ occurrence :: after →
        ∃ earlier later, Sample.log.chronicle ⟨"e4"⟩ = earlier ++ occurrence :: later ∧
          ∀ name, Sample.log.Uses occurrence name →
            Sample.log.tally.run before (fun _ => 0) name =
              Sample.log.tally.run earlier (fun _ => 0) name) ∧
      ∀ index name, Sample.log.Defines ⟨⟨"e4"⟩, index⟩ name →
        Sample.log.tally.run (Sample.log.slice ⟨"e4"⟩).occurrences (fun _ => 0) name =
          Sample.log.tally.run (Sample.log.chronicle ⟨"e4"⟩) (fun _ => 0) name :=
  ⟨Sample.numbered_log, Sample.facts?_log, rfl,
    slice_preserves_meaning (Analyzer.ofTable Sample.table) Sample.operations
      Sample.numbered_log ⟨"e4"⟩
      Sample.facts Sample.facts?_log rfl Sample.log.tally fun _ => 0⟩

end NotebookSlice.Log

import Mathlib.Data.List.Sort
import NotebookSlice.Proofs.Slice.Dependencies

/-!
# Order of the kept statements

A slice lists what it keeps in chronological order, so it is what remains of the chronicle of the
target, the list of all eligible statements in chronological order, when the statements that are not
kept are left out.
-/

namespace NotebookSlice

/-- Two lists in the strict order of a measure with the same members are equal. -/
theorem eq_of_pairwise_lt {α β : Type} [Preorder β] (measure : α → β) {first second : List α}
    (firstOrdered : first.Pairwise fun earlier later => measure earlier < measure later)
    (secondOrdered : second.Pairwise fun earlier later => measure earlier < measure later)
    (same : ∀ item, item ∈ first ↔ item ∈ second) : first = second := by
  have irreflexive : Std.Irrefl fun earlier later : α => measure earlier < measure later :=
    ⟨fun item => lt_irrefl (measure item)⟩
  have antisymmetric : Std.Antisymm fun earlier later : α => measure earlier < measure later :=
    ⟨fun earlier later less greater => absurd greater (lt_asymm less)⟩
  exact firstOrdered.eq_of_mem_iff secondOrdered same

/-- Two measures that increase along a list order its members alike. -/
theorem lt_iff_lt_of_pairwise {α β γ : Type} [LinearOrder β] [LinearOrder γ] {measure : α → β}
    {other : α → γ} {items : List α}
    (ordered : items.Pairwise fun earlier later => measure earlier < measure later)
    (otherOrdered : items.Pairwise fun earlier later => other earlier < other later)
    {first second : α} (firstMem : first ∈ items) (secondMem : second ∈ items) :
    measure first < measure second ↔ other first < other second := by
  rcases List.getElem?_of_mem firstMem with ⟨place, atPlace⟩
  rcases List.getElem?_of_mem secondMem with ⟨otherPlace, atOtherPlace⟩
  rcases List.getElem?_eq_some_iff.mp atPlace with ⟨bound, rfl⟩
  rcases List.getElem?_eq_some_iff.mp atOtherPlace with ⟨otherBound, rfl⟩
  have both := List.pairwise_iff_getElem.mp (ordered.and otherOrdered)
  rcases Nat.lt_trichotomy place otherPlace with less | rfl | greater
  · have before := both place otherPlace bound otherBound less
    exact iff_of_true before.1 before.2
  · simp
  · have after := both otherPlace place otherBound bound greater
    exact iff_of_false (lt_asymm after.1) (lt_asymm after.2)

/-- Erasing duplicates leaves none. -/
theorem nodup_eraseDups (numbers : List Nat) : numbers.eraseDups.Nodup := by
  match numbers with
  | [] => simp
  | number :: later =>
      rw [List.eraseDups_cons, List.nodup_cons]
      constructor
      · simp [List.mem_eraseDups]
      · exact nodup_eraseDups _
termination_by numbers.length
decreasing_by exact Nat.lt_succ_of_le (List.length_filter_le _ _)

/-- Sorted and without duplicates, numbers ascend strictly. -/
theorem pairwise_mergeSort_eraseDups (numbers : List Nat) :
    numbers.eraseDups.mergeSort.Pairwise (· < ·) := by
  apply (pairwise_mergeSort_and _ _ Ne.symm (nodup_eraseDups numbers)).imp
  · rintro first second ⟨notAfter, different⟩
    exact Nat.lt_of_le_of_ne (by simpa using notAfter) different
  · intro first second third
    simpa using Nat.le_trans
  · intro first second
    simpa using Nat.le_total first second

namespace Timeline

theorem numbersAt_eq_insertionSort (sites : List Site) (rank : Nat) :
    numbersAt sites rank =
      ((sites.filter fun site => site.rank == rank).map (·.index)).eraseDups.insertionSort
        (· ≤ ·) :=
  List.mergeSort_eq_insertionSort (· ≤ ·) _

theorem pairwise_numbersAt (sites : List Site) (rank : Nat) :
    (numbersAt sites rank).Pairwise (· < ·) :=
  pairwise_mergeSort_eraseDups _

end Timeline

namespace Log

/-- The groups of a slice and the statements in them stand in chronological order. -/
theorem Unfolding.pairwise_occurrences {log : Log} {timeline : Timeline} {position : Nat}
    {target : Record} (unfolding : log.Unfolding timeline position target)
    (found : log.timeline? target.event = some timeline)
    (nonempty : timeline.target.facts.isEmpty = false) :
    (log.slice target.event).occurrences.Pairwise fun first second =>
      log.time first < log.time second := by
  rw [slice_eq found, Slice.occurrences, Timeline.flatMap_groups timeline nonempty,
    List.pairwise_flatMap]
  have located : ∀ {rank candidate}, (candidate, rank) ∈ timeline.members.zipIdx → ∀ index,
      timeline.Locates ⟨rank, index⟩ ⟨candidate.record.event, index⟩ := by
    intro rank candidate member index
    exact ⟨candidate, List.mem_zipIdx_iff_getElem?.mp member, rfl, rfl⟩
  constructor
  · rintro ⟨candidate, rank⟩ member
    rw [List.pairwise_map]
    apply (Timeline.pairwise_numbersAt timeline.needed rank).imp
    intro first second less
    apply (unfolding.precedes_iff_time_lt (located member first) (located member second)).mp
    exact Site.precedes_iff.mpr (Or.inr ⟨rfl, less⟩)
  · apply (Timeline.pairwise_rank_members timeline).imp_of_mem
    rintro ⟨candidate, rank⟩ ⟨other, otherRank⟩ member otherMember less occurrence mem
      second secondMem
    rcases List.mem_map.mp mem with ⟨index, _, rfl⟩
    rcases List.mem_map.mp secondMem with ⟨otherIndex, _, rfl⟩
    apply (unfolding.precedes_iff_time_lt (located member index)
      (located otherMember otherIndex)).mp
    exact Site.precedes_iff.mpr (Or.inl less)

/-! ### The chronicle of a target -/

/-- All statements of the logged executions. -/
def occurrences (log : Log) : List Occurrence :=
  log.entries.flatMap fun record =>
    (List.range (log.factsFor record).statements.length).map fun index => ⟨record.event, index⟩

/-- All eligible statements in chronological order. -/
def chronicle (log : Log) (target : EventId) : List Occurrence :=
  (log.occurrences.filter fun occurrence => log.Eligible target occurrence).mergeSort
    fun first second => log.time first ≤ log.time second

theorem mem_occurrences {log : Log} (consistent : log.Consistent) {occurrence : Occurrence} :
    occurrence ∈ log.occurrences ↔ (log.statement? occurrence).isSome := by
  rw [occurrences, statement?]
  simp only [List.mem_flatMap, List.mem_map, List.mem_range]
  constructor
  · rintro ⟨record, member, index, below, rfl⟩
    rw [factsFor] at below
    cases known : log.facts? record.event with
    | none => simp [known] at below
    | some facts => simpa [known] using below
  · intro isStatement
    rcases Option.isSome_iff_exists.mp isStatement with ⟨statement, found⟩
    rcases Option.bind_eq_some_iff.mp found with ⟨facts, known, atIndex⟩
    rcases consistent.logged_of_facts?_eq_some known with ⟨record, member, sameEvent⟩
    refine ⟨record, member, occurrence.index, ?_, by rw [sameEvent]⟩
    rw [factsFor, sameEvent, known]
    exact (List.getElem?_eq_some_iff.mp atIndex).1

theorem mem_chronicle {log : Log} (consistent : log.Consistent) {target : EventId}
    {occurrence : Occurrence} :
    occurrence ∈ log.chronicle target ↔ log.Eligible target occurrence := by
  simp only [chronicle, List.mem_mergeSort, List.mem_filter, mem_occurrences consistent,
    decide_eq_true_eq]
  constructor
  · exact fun both => both.2
  · exact fun eligible => ⟨eligible.1, eligible⟩

theorem nodup_occurrences {log : Log} (consistent : log.Consistent) : log.occurrences.Nodup := by
  rw [occurrences, List.nodup_flatMap]
  constructor
  · intro record _
    apply List.Nodup.map _ List.nodup_range
    intro first second same
    simpa using same
  · apply (List.pairwise_map.mp consistent.distinct).imp
    intro first second different occurrence firstMem secondMem
    rcases List.mem_map.mp firstMem with ⟨_, _, rfl⟩
    rcases List.mem_map.mp secondMem with ⟨_, _, same⟩
    simp only [Occurrence.mk.injEq] at same
    exact different same.1.symm

/-- No two statements of a log have the same time. -/
theorem eq_of_time_eq {log : Log} {first second : Occurrence} (firstMem : first ∈ log.occurrences)
    (secondMem : second ∈ log.occurrences) (consistent : log.Consistent)
    (same : log.time first = log.time second) : first = second := by
  rw [occurrences] at firstMem secondMem
  simp only [List.mem_flatMap, List.mem_map] at firstMem secondMem
  rcases firstMem with ⟨record, member, index, _, rfl⟩
  rcases secondMem with ⟨other, otherMember, otherIndex, _, rfl⟩
  rcases List.getElem?_of_mem member with ⟨place, atPlace⟩
  rcases List.getElem?_of_mem otherMember with ⟨otherPlace, atOtherPlace⟩
  simp only [time, positionOf_eq consistent atPlace, positionOf_eq consistent atOtherPlace,
    EmbeddingLike.apply_eq_iff_eq, Prod.mk.injEq] at same
  rcases same with ⟨_, rfl, rfl⟩
  rw [atPlace, Option.some.injEq] at atOtherPlace
  rw [atOtherPlace]

theorem pairwise_chronicle {log : Log} (consistent : log.Consistent) (target : EventId) :
    (log.chronicle target).Pairwise fun first second => log.time first < log.time second := by
  have ordered : (log.chronicle target).Pairwise fun first second =>
      decide (log.time first ≤ log.time second) = true ∧ first ≠ second := by
    apply pairwise_mergeSort_and _ _ Ne.symm ((nodup_occurrences consistent).filter _)
    · intro first second third
      simpa using le_trans
    · intro first second
      simpa using le_total (log.time first) (log.time second)
  apply ordered.imp_of_mem
  intro first second firstMem secondMem both
  have firstStatement := (mem_occurrences consistent).mpr ((mem_chronicle consistent).mp firstMem).1
  have secondStatement :=
    (mem_occurrences consistent).mpr ((mem_chronicle consistent).mp secondMem).1
  apply lt_of_le_of_ne (by simpa using both.1)
  intro same
  exact both.2 (eq_of_time_eq firstStatement secondStatement consistent same)

/-- A slice is what remains of the chronicle. -/
theorem occurrences_slice_eq_filter {log : Log} (consistent : log.Consistent)
    (numbered : log.Numbered) {target : EventId} {facts : Facts}
    (known : log.facts? target = some facts) (nonempty : facts.isEmpty = false) :
    (log.slice target).occurrences =
      (log.chronicle target).filter fun occurrence =>
        decide (occurrence ∈ (log.slice target).occurrences) := by
  have eligible := (isLeast_occurrences_slice consistent numbered known nonempty).1
  rcases exists_unfolding_of_facts? consistent known with
    ⟨timeline, position, record, rfl, found, unfolding, sameFacts⟩
  rw [← sameFacts] at nonempty
  apply eq_of_pairwise_lt log.time (unfolding.pairwise_occurrences found nonempty)
    ((pairwise_chronicle consistent record.event).filter _)
  intro occurrence
  rw [List.mem_filter, mem_chronicle consistent, decide_eq_true_eq]
  constructor
  · exact fun kept => ⟨eligible occurrence kept, kept⟩
  · exact fun both => both.2

end Log

end NotebookSlice

import Mathlib.Data.List.Basic
import NotebookSlice.Proofs.Log.Journal
import NotebookSlice.Slice.Backward

/-!
# Timelines of a log

This file says which executions stand on the timeline of a target and in which order.

`ordinalAt` reads the ordinal in force off the records: the count of the nearest record at or before
a position that has one. With it, `Timeline.Covers` describes a timeline without reference to how it
is computed: its target is the record at a position, the others are those logged up to there whose
moment is earlier, and all stand in the order of their moments. Each logged execution has such a
timeline.
-/

namespace NotebookSlice

/-- Sorting puts items in order and keeps what holds of any two of them. -/
theorem pairwise_mergeSort_and {α : Type} {notAfter : α → α → Bool} {different : α → α → Prop}
    (trans : ∀ first second third, notAfter first second = true → notAfter second third = true →
      notAfter first third = true)
    (total : ∀ first second, (notAfter first second || notAfter second first) = true)
    (symmetric : ∀ {first second}, different first second → different second first) {items : List α}
    (distinct : items.Pairwise different) :
    (items.mergeSort notAfter).Pairwise fun first second =>
      notAfter first second = true ∧ different first second := by
  have ordered := List.pairwise_mergeSort trans total items
  exact ordered.and ((List.mergeSort_perm items notAfter).symm.pairwise distinct symmetric)

/-! ### Moments -/

namespace Moment

theorem precedes_iff {first second : Moment} :
    first.precedes second = true ↔
      first.ordinal < second.ordinal ∨
        first.ordinal = second.ordinal ∧ first.position < second.position := by
  simp [precedes]

theorem precedes_irrefl (moment : Moment) : ¬moment.precedes moment = true := by
  rw [precedes_iff]
  omega

/-- Of two moments at different positions one is earlier. -/
theorem precedes_of_not_precedes {first second : Moment} (notAfter : ¬second.precedes first = true)
    (different : first.position ≠ second.position) : first.precedes second = true := by
  rw [precedes_iff] at *
  omega

end Moment

/-- The ordinal in force at a position: the count of the nearest record at or before it that has
one, and zero if there is none. -/
def ordinalAt (records : List Record) (position : Nat) : Nat :=
  (((records.take (position + 1)).reverse.findSome? (·.count)).map UInt32.toNat).getD 0

/-- The moment of the record at a position. -/
def momentAt (records : List Record) (position : Nat) : Moment :=
  ⟨ordinalAt records position, position⟩

theorem getElem?_ordinals (inherited : Nat) {records : List Record} {position : Nat}
    (within : position < records.length) :
    (ordinals inherited records)[position]? =
      some ((((records.take (position + 1)).reverse.findSome? (·.count)).map UInt32.toNat).getD
        inherited) := by
  induction records generalizing inherited position with
  | nil => simp at within
  | cons record later ih =>
      cases position with
      | zero => cases count : record.count <;> simp [ordinals, count]
      | succ position =>
          simp only [ordinals, List.getElem?_cons_succ]
          rw [ih _ (by simpa using within), List.take_succ_cons, List.reverse_cons,
            List.findSome?_append]
          cases (later.take (position + 1)).reverse.findSome? (·.count) <;>
            cases count : record.count <;> simp [count]

theorem length_ordinals (inherited : Nat) (records : List Record) :
    (ordinals inherited records).length = records.length := by
  induction records generalizing inherited with
  | nil => rfl
  | cons record later ih => simp [ordinals, ih]

theorem getElem?_moments {records : List Record} {position : Nat}
    (within : position < records.length) :
    (moments records)[position]? = some (momentAt records position) := by
  simp only [moments, List.getElem?_map, List.getElem?_zipIdx,
    getElem?_ordinals 0 within, ordinalAt, momentAt]
  simp

/-- What comes after a position does not change the moment there. -/
theorem momentAt_take {records : List Record} {position length : Nat} (below : position < length) :
    momentAt (records.take length) position = momentAt records position := by
  simp only [momentAt, ordinalAt, List.take_take]
  rw [Nat.min_eq_left (by omega)]

/-! ### Candidates -/

namespace Candidate

theorem notAfter_iff {first second : Candidate} :
    first.notAfter second = true ↔ ¬second.moment.precedes first.moment = true := by
  simp [notAfter]

theorem notAfter_trans (first second third : Candidate) (before : first.notAfter second = true)
    (after : second.notAfter third = true) : first.notAfter third = true := by
  rw [notAfter_iff, Moment.precedes_iff] at *
  omega

theorem notAfter_total (first second : Candidate) :
    (first.notAfter second || second.notAfter first) = true := by
  rw [Bool.or_eq_true, notAfter_iff, notAfter_iff, Moment.precedes_iff, Moment.precedes_iff]
  omega

end Candidate

/-- The record at a position as a candidate. -/
def candidateAt (facts : Record → Facts) (records : List Record) (position : Nat)
    (record : Record) : Candidate where
  moment := momentAt records position
  record
  facts := facts record

namespace Timeline

/-- The records of a history as candidates. -/
def candidates (facts : Record → Facts) (history : List Record) : List Candidate :=
  (history.zip (moments history)).map fun (record, moment) =>
    { moment, record, facts := facts record : Candidate }

theorem ofHistory?_eq (facts : Record → Facts) (history : List Record) :
    ofHistory? facts history = (candidates facts history).getLast?.map fun target =>
      { earlier := ((candidates facts history).filter fun candidate =>
          candidate.moment.precedes target.moment).mergeSort Candidate.notAfter
        target } := rfl

/-- Earlier executions that were logged in the order of their moments need no sorting. -/
theorem ofHistory?_eq_of_pairwise {facts : Record → Facts} {history : List Record}
    {target : Candidate} (last : (candidates facts history).getLast? = some target)
    (ordered : ((candidates facts history).filter fun candidate =>
      candidate.moment.precedes target.moment).Pairwise fun first second =>
        first.notAfter second = true) :
    ofHistory? facts history = some
      { earlier := (candidates facts history).filter fun candidate =>
          candidate.moment.precedes target.moment
        target } := by
  rw [ofHistory?_eq, last, Option.map_some, List.mergeSort_of_pairwise ordered]

/-- A timeline depends only on the facts about the records of its history. -/
theorem ofHistory?_congr {facts otherFacts : Record → Facts} {history : List Record}
    (agree : ∀ record ∈ history, facts record = otherFacts record) :
    ofHistory? facts history = ofHistory? otherFacts history := by
  have sameCandidates : candidates facts history = candidates otherFacts history := by
    apply List.map_congr_left
    rintro ⟨record, moment⟩ member
    simp only [agree record (List.of_mem_zip member).1]
  rw [ofHistory?_eq, ofHistory?_eq, sameCandidates]

theorem getElem?_candidates (facts : Record → Facts) (history : List Record) (position : Nat) :
    (candidates facts history)[position]? =
      history[position]?.map (candidateAt facts history position) := by
  rw [candidates, List.getElem?_map, List.zip, List.getElem?_zipWith]
  cases atPosition : history[position]? with
  | none => rfl
  | some record =>
      rw [getElem?_moments (List.getElem?_eq_some_iff.mp atPosition).1]
      rfl

theorem mem_candidates {facts : Record → Facts} {history : List Record} {candidate : Candidate} :
    candidate ∈ candidates facts history ↔
      ∃ position record, history[position]? = some record ∧
        candidate = candidateAt facts history position record := by
  simp only [List.mem_iff_getElem?, getElem?_candidates, Option.map_eq_some_iff]
  constructor
  · rintro ⟨position, record, atPosition, rfl⟩
    exact ⟨position, record, atPosition, rfl⟩
  · rintro ⟨position, record, atPosition, rfl⟩
    exact ⟨position, record, atPosition, rfl⟩

theorem pairwise_position_candidates (facts : Record → Facts) (history : List Record) :
    (candidates facts history).Pairwise fun first second =>
      first.moment.position ≠ second.moment.position := by
  rw [List.pairwise_iff_getElem]
  intro first second firstBound secondBound less
  have firstAt := getElem?_candidates facts history first
  have secondAt := getElem?_candidates facts history second
  rw [List.getElem?_eq_getElem firstBound] at firstAt
  rw [List.getElem?_eq_getElem secondBound] at secondAt
  rcases Option.map_eq_some_iff.mp firstAt.symm with ⟨_, _, firstEq⟩
  rcases Option.map_eq_some_iff.mp secondAt.symm with ⟨_, _, secondEq⟩
  rw [← firstEq, ← secondEq]
  exact Nat.ne_of_lt less

/-- The earlier executions are sorted by strictly increasing moments. -/
theorem pairwise_mergeSort_filter (facts : Record → Facts) (history : List Record)
    (kept : Candidate → Bool) :
    (((candidates facts history).filter kept).mergeSort Candidate.notAfter).Pairwise
      fun first second =>
      first.moment.precedes second.moment = true := by
  have distinct := (pairwise_position_candidates facts history).filter kept
  apply (pairwise_mergeSort_and Candidate.notAfter_trans Candidate.notAfter_total
    Ne.symm distinct).imp
  rintro first second ⟨notAfter, different⟩
  exact Moment.precedes_of_not_precedes (Candidate.notAfter_iff.mp notAfter) different

/-- The timeline is that of the record at a position: the others are those logged up to there whose
moments are earlier, and all stand in the order of their moments. -/
structure Covers (timeline : Timeline) (facts : Record → Facts) (records : List Record)
    (position : Nat) (record : Record) : Prop where
  target_eq : timeline.target = candidateAt facts records position record
  mem_earlier_iff : ∀ candidate, candidate ∈ timeline.earlier ↔
    ∃ earlier other, earlier < position ∧ records[earlier]? = some other ∧
      candidate = candidateAt facts records earlier other ∧
      candidate.moment.precedes timeline.target.moment = true
  pairwise_members : timeline.members.Pairwise fun first second =>
    first.moment.precedes second.moment = true

theorem candidateAt_take (facts : Record → Facts) {records : List Record} {position length : Nat}
    (below : position < length) (record : Record) :
    candidateAt facts (records.take length) position record =
      candidateAt facts records position record := by
  rw [candidateAt, momentAt_take below]
  rfl

theorem length_candidates (facts : Record → Facts) (history : List Record) :
    (candidates facts history).length = history.length := by
  simp [candidates, moments, length_ordinals]

theorem getLast?_candidates_take (facts : Record → Facts) {records : List Record} {position : Nat}
    {record : Record} (atPosition : records[position]? = some record) :
    (candidates facts (records.take (position + 1))).getLast? =
      some (candidateAt facts records position record) := by
  have within := (List.getElem?_eq_some_iff.mp atPosition).1
  have length : (records.take (position + 1)).length - 1 = position := by
    rw [List.length_take]
    omega
  rw [List.getLast?_eq_getElem?, length_candidates, length, getElem?_candidates,
    List.getElem?_take_of_succ, atPosition, Option.map_some,
    candidateAt_take facts (Nat.lt_succ_self position)]

theorem mem_candidates_take {facts : Record → Facts} {records : List Record} {length : Nat}
    {candidate : Candidate} :
    candidate ∈ candidates facts (records.take length) ↔
      ∃ position record, position < length ∧ records[position]? = some record ∧
        candidate = candidateAt facts records position record := by
  rw [mem_candidates]
  constructor
  · rintro ⟨position, record, atPosition, rfl⟩
    rw [List.getElem?_take] at atPosition
    split at atPosition
    · next below =>
      exact ⟨position, record, below, atPosition, candidateAt_take facts below record⟩
    · simp at atPosition
  · rintro ⟨position, record, below, atPosition, rfl⟩
    refine ⟨position, record, ?_, (candidateAt_take facts below record).symm⟩
    rwa [List.getElem?_take_of_lt below]

/-- The timeline of the last record of a history covers the history. -/
theorem covers_ofHistory? (facts : Record → Facts) {records : List Record} {position : Nat}
    {record : Record} (atPosition : records[position]? = some record) :
    ∃ timeline, ofHistory? facts (records.take (position + 1)) = some timeline ∧
      timeline.Covers facts records position record := by
  let target := candidateAt facts records position record
  let earlier := ((candidates facts (records.take (position + 1))).filter fun candidate =>
    candidate.moment.precedes target.moment).mergeSort Candidate.notAfter
  have computed : ofHistory? facts (records.take (position + 1)) = some ⟨earlier, target⟩ := by
    rw [ofHistory?_eq, getLast?_candidates_take facts atPosition, Option.map_some]
  have mem_earlier : ∀ candidate, candidate ∈ earlier ↔
      (∃ place other, place < position + 1 ∧ records[place]? = some other ∧
        candidate = candidateAt facts records place other) ∧
        candidate.moment.precedes target.moment = true := by
    intro candidate
    rw [List.mem_mergeSort, List.mem_filter, mem_candidates_take]
  refine ⟨⟨earlier, target⟩, computed, rfl, ?_, ?_⟩
  · intro candidate
    rw [mem_earlier]
    constructor
    · rintro ⟨⟨place, other, below, atPlace, rfl⟩, before⟩
      refine ⟨place, other, ?_, atPlace, rfl, before⟩
      rcases Nat.lt_or_eq_of_le (Nat.le_of_lt_succ below) with less | rfl
      · exact less
      · exact absurd before (Moment.precedes_irrefl _)
    · rintro ⟨place, other, below, atPlace, rfl, before⟩
      exact ⟨⟨place, other, Nat.lt_succ_of_lt below, atPlace, rfl⟩, before⟩
  · rw [members, List.pairwise_append]
    refine ⟨pairwise_mergeSort_filter facts _ _, List.pairwise_singleton _ _, ?_⟩
    intro candidate member other otherMem
    rw [List.mem_singleton] at otherMem
    subst otherMem
    exact ((mem_earlier candidate).mp member).2

end Timeline

/-! ### Timelines of logged executions -/

namespace Log

/-- The facts that the log holds about a record. -/
def factsFor (log : Log) (record : Record) : Facts := (log.facts? record.event).getD {}

theorem Consistent.facts?_eq_some_factsFor {log : Log} (consistent : log.Consistent)
    {record : Record} (member : record ∈ log.entries) :
    log.facts? record.event = some (log.factsFor record) := by
  rw [factsFor, consistent.facts?_eq_some member, Option.getD_some]

/-- The timeline of an execution follows from the records up to it and from what the analyzer finds
about their texts. -/
theorem Consistent.timeline?_eq {log : Log} (consistent : log.Consistent) (event : EventId) :
    log.timeline? event = (log.upTo? event).bind
      (Timeline.ofHistory? fun record => (log.analyzer.analyze record.text).toOption.getD {}) := by
  rw [timeline?]
  cases upTo : log.upTo? event with
  | none => rfl
  | some history =>
      rw [consistent.upTo?_eq, Option.map_eq_some_iff] at upTo
      rcases upTo with ⟨position, _, rfl⟩
      rw [Option.bind_some, Option.bind_some]
      apply Timeline.ofHistory?_congr
      intro record member
      rw [consistent.facts?_eq_some (List.mem_of_mem_take member), Option.getD_some]

theorem covers_timeline? {log : Log} (consistent : log.Consistent) {position : Nat}
    {record : Record} (atPosition : log.entries[position]? = some record) :
    ∃ timeline, log.timeline? record.event = some timeline ∧
      timeline.Covers log.factsFor log.entries position record := by
  have found := consistent.findIdx?_eq_some_iff.mpr ⟨record, atPosition, rfl⟩
  rw [timeline?, consistent.upTo?_eq, found]
  exact Timeline.covers_ofHistory? log.factsFor atPosition

end Log

end NotebookSlice

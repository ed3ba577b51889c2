import NotebookSlice.Proofs.Slice.Irrelevance
import NotebookSlice.Proofs.Slice.Relabelling

/-!
# Order of arrival

When all records carry counts and no two carry the same, it does not matter in which order the
executions up to a target were reported. The counts alone put them in order, so the timelines hold
the same records, and only their moments differ. Nothing in a slice looks at moments once the
timeline is sorted: erasing them changes no group. This holds of every analyzer, however it numbers
statements.
-/

namespace NotebookSlice

/-! ### Moments do not matter -/

/-- The candidate without its moment. -/
def Candidate.undated (candidate : Candidate) : Candidate := { candidate with moment := ⟨0, 0⟩ }

theorem Candidate.relabels_undated : Relabels Candidate.undated id where
  facts_eq _ := rfl
  failed_eq _ := rfl
  whole_eq _ := rfl
  keep_eq _ _ := rfl

namespace Timeline

/-- The timeline without moments. -/
def undated (timeline : Timeline) : Timeline where
  earlier := timeline.earlier.map Candidate.undated
  target := timeline.target.undated

theorem groups_undated (timeline : Timeline) : timeline.undated.groups = timeline.groups :=
  (Candidate.relabels_undated.groups_map timeline).trans (List.map_id _)

end Timeline

/-! ### Records in the order of their counts -/

/-- The ordinal that a record gives itself by its count. -/
def Record.ordinal (record : Record) : Nat := (record.count.map UInt32.toNat).getD 0

/-- A record as an undated candidate, with the facts that an analyzer finds about its text. -/
def Candidate.ofRecord (analyzer : Analyzer) (record : Record) : Candidate where
  moment := ⟨0, 0⟩
  record
  facts := (analyzer.analyze record.text).toOption.getD {}

namespace Log

variable {log : Log}

/-- Every record carries a count, and no two records carry the same. -/
structure CountedApart (log : Log) : Prop where
  counted : log.Counted
  distinct : (log.entries.map (·.count)).Nodup

/-- The counts alone order the records. -/
theorem CountedApart.key_lt_iff (apart : log.CountedApart) (consistent : log.Consistent)
    {record other : Record} (member : record ∈ log.entries) (otherMember : other ∈ log.entries) :
    log.key record.event < log.key other.event ↔ record.ordinal < other.ordinal := by
  rcases Option.isSome_iff_exists.mp (apart.counted record member) with ⟨count, isCount⟩
  rcases Option.isSome_iff_exists.mp (apart.counted other otherMember) with
    ⟨otherCount, isOtherCount⟩
  rw [key_lt_key_iff, ordinal_eq_of_count consistent member isCount,
    ordinal_eq_of_count consistent otherMember isOtherCount]
  simp only [Record.ordinal, isCount, isOtherCount, Option.map_some, Option.getD_some]
  constructor
  · rintro (less | ⟨same, less⟩)
    · exact less
    · have sameCount : record.count = other.count := by
        rw [isCount, isOtherCount, UInt32.toNat_inj.mp same]
      rw [List.inj_on_of_nodup_map apart.distinct member otherMember sameCount] at less
      exact absurd less (lt_irrefl _)
  · exact Or.inl

namespace Unfolding

variable {timeline : Timeline} {position : Nat} {target : Record}

theorem undated_eq_ofRecord (unfolding : log.Unfolding timeline position target)
    {candidate : Candidate} (member : candidate ∈ timeline.members) :
    candidate.undated = Candidate.ofRecord log.analyzer candidate.record := by
  rcases unfolding.exists_position member with ⟨place, record, _, atPlace, rfl⟩
  have known := unfolding.consistent.facts?_eq_some (List.mem_of_getElem? atPlace)
  simp only [Candidate.undated, Candidate.ofRecord, candidateAt, factsFor, known, Option.getD_some]

/-- Without moments a timeline is given by its records. -/
theorem undated_eq (unfolding : log.Unfolding timeline position target) :
    timeline.undated =
      { earlier := (timeline.earlier.map (·.record)).map (Candidate.ofRecord log.analyzer)
        target := Candidate.ofRecord log.analyzer target } := by
  have earlierEq : timeline.earlier.map Candidate.undated =
      (timeline.earlier.map (·.record)).map (Candidate.ofRecord log.analyzer) := by
    rw [List.map_map]
    apply List.map_congr_left
    intro candidate member
    exact unfolding.undated_eq_ofRecord (List.mem_append_left _ member)
  have targetEq : timeline.target.undated = Candidate.ofRecord log.analyzer target := by
    rw [unfolding.undated_eq_ofRecord (by simp [Timeline.members]), unfolding.covers.target_eq]
    rfl
  rw [Timeline.undated, earlierEq, targetEq]

theorem mem_records_iff (unfolding : log.Unfolding timeline position target)
    (apart : log.CountedApart) (record : Record) :
    record ∈ timeline.earlier.map (·.record) ↔
      record ∈ log.entries.take (position + 1) ∧ record.ordinal < target.ordinal := by
  have targetMem := List.mem_of_getElem? unfolding.atPosition
  rw [← positionOf_eq unfolding.consistent unfolding.atPosition, unfolding.mem_take_iff]
  constructor
  · intro onTimeline
    rcases List.mem_map.mp onTimeline with ⟨candidate, earlier, rfl⟩
    rcases unfolding.exists_position (List.mem_append_left _ earlier) with
      ⟨place, record, below, atPlace, rfl⟩
    have less := (unfolding.mem_earlier_iff_key_lt below atPlace).mp earlier
    rw [apart.key_lt_iff unfolding.consistent (List.mem_of_getElem? atPlace) targetMem] at less
    exact ⟨⟨place, below, atPlace⟩, less⟩
  · rintro ⟨⟨place, below, atPlace⟩, less⟩
    rw [← apart.key_lt_iff unfolding.consistent (List.mem_of_getElem? atPlace) targetMem] at less
    exact List.mem_map.mpr ⟨_, (unfolding.mem_earlier_iff_key_lt below atPlace).mpr less, rfl⟩

theorem pairwise_ordinal_records (unfolding : log.Unfolding timeline position target)
    (apart : log.CountedApart) :
    (timeline.earlier.map (·.record)).Pairwise fun first second =>
      first.ordinal < second.ordinal := by
  rw [List.pairwise_map]
  apply ((List.pairwise_append.mp unfolding.pairwise_key_members).1).imp_of_mem
  intro first second firstMem secondMem less
  rwa [apart.key_lt_iff unfolding.consistent
    (unfolding.record_mem_entries (List.mem_append_left _ firstMem))
    (unfolding.record_mem_entries (List.mem_append_left _ secondMem))] at less

theorem upTo?_eq (unfolding : log.Unfolding timeline position target) :
    log.upTo? target.event = some (log.entries.take (position + 1)) := by
  rw [unfolding.consistent.upTo?_eq,
    unfolding.consistent.findIdx?_eq_some_iff.mpr ⟨target, unfolding.atPosition, rfl⟩,
    Option.map_some]

theorem getLast?_take (unfolding : log.Unfolding timeline position target) :
    (log.entries.take (position + 1)).getLast? = some target := by
  rw [List.take_add_one, unfolding.atPosition]
  simp

end Unfolding

/-- Two logs whose records carry counts of their own give a target the same slice if the records up
to the target are the same, in whatever order they were reported. -/
theorem slice_eq_of_perm (analyzer : Analyzer) (operations otherOperations : List Operation)
    (apart : ((empty analyzer).run operations).CountedApart)
    (otherApart : ((empty analyzer).run otherOperations).CountedApart) (target : EventId)
    (history otherHistory : List Record)
    (upTo : ((empty analyzer).run operations).upTo? target = some history)
    (otherUpTo : ((empty analyzer).run otherOperations).upTo? target = some otherHistory)
    (permuted : history.Perm otherHistory) :
    ((empty analyzer).run operations).slice target =
      ((empty analyzer).run otherOperations).slice target := by
  have consistent := consistent_run_empty analyzer operations
  have otherConsistent := consistent_run_empty analyzer otherOperations
  rcases exists_unfolding consistent (consistent.logged_of_upTo?_eq_some upTo) with
    ⟨timeline, position, record, rfl, found, unfolding⟩
  rcases exists_unfolding otherConsistent (otherConsistent.logged_of_upTo?_eq_some otherUpTo) with
    ⟨otherTimeline, otherPosition, other, sameEvent, otherFound, otherUnfolding⟩
  rw [unfolding.upTo?_eq, Option.some.injEq] at upTo
  rw [← sameEvent, otherUnfolding.upTo?_eq, Option.some.injEq] at otherUpTo
  subst upTo otherUpTo
  have sameTarget : other = record := by
    have inHistory := permuted.symm.subset (List.mem_of_getLast? otherUnfolding.getLast?_take)
    exact List.inj_on_of_nodup_map consistent.distinct (List.mem_of_mem_take inHistory)
      (List.mem_of_getElem? unfolding.atPosition) sameEvent
  -- Each timeline lists its records by their counts, wherever they stand in the log.
  have sameRecords : timeline.earlier.map (·.record) = otherTimeline.earlier.map (·.record) := by
    apply eq_of_pairwise_lt Record.ordinal (unfolding.pairwise_ordinal_records apart)
      (otherUnfolding.pairwise_ordinal_records otherApart)
    intro earlier
    rw [unfolding.mem_records_iff apart, otherUnfolding.mem_records_iff otherApart,
      permuted.mem_iff, sameTarget]
  have sameTimelines : timeline.undated = otherTimeline.undated := by
    rw [unfolding.undated_eq, otherUnfolding.undated_eq, analyzer_run, analyzer_run,
      sameRecords, sameTarget]
  rw [slice_eq found, slice_eq otherFound, ← timeline.groups_undated, sameTimelines,
    otherTimeline.groups_undated]

end Log

namespace Sample

/-- The reports of the session with counts in another order, and a later one. -/
def shuffled : List Operation :=
  [.append ⟨⟨"b"⟩, ⟨"e2"⟩, "y = x\nx = 2", some 3, false⟩,
   .append ⟨⟨"d"⟩, ⟨"e5"⟩, "x = 1", some 9, false⟩,
   .append ⟨⟨"c"⟩, ⟨"e3"⟩, "x = z()", some 4, true⟩,
   .append ⟨⟨"a"⟩, ⟨"e1"⟩, "x = 1", some 2, false⟩,
   .append ⟨⟨"a"⟩, ⟨"e0"⟩, "x = z()", some 1, false⟩,
   .append ⟨⟨"c"⟩, ⟨"e4"⟩, "w = x + y", some 5, false⟩,
   .append ⟨⟨"b"⟩, ⟨"e6"⟩, "x = z()", some 0, false⟩]

/-- The log of the session in that order. -/
def shuffledLog : Log := (Log.empty (Analyzer.ofTable table)).run shuffled

theorem entries_shuffledLog : shuffledLog.entries = Journal.run shuffled :=
  Log.entries_run_empty _ _

theorem countedApart_countedLog : countedLog.CountedApart where
  counted := counted_countedLog
  distinct := by
    rw [entries_countedLog]
    decide +kernel

theorem countedApart_shuffledLog : shuffledLog.CountedApart where
  counted := by
    rw [Log.Counted, entries_shuffledLog]
    decide +kernel
  distinct := by
    rw [entries_shuffledLog]
    decide +kernel

theorem upTo?_shuffledLog : shuffledLog.upTo? ⟨"e4"⟩ = some ((Journal.run shuffled).take 6) := by
  have consistent := Log.consistent_run_empty (Analyzer.ofTable table) shuffled
  rw [shuffledLog, consistent.upTo?_eq, Log.entries_run_empty]
  decide +kernel

theorem perm_counted_shuffled : (Journal.run counted).Perm ((Journal.run shuffled).take 6) := by
  decide +kernel

end Sample

namespace Log

theorem slice_eq_of_perm_sample :
    Sample.countedLog.CountedApart ∧ Sample.shuffledLog.CountedApart ∧
      (Journal.run Sample.counted).Perm ((Journal.run Sample.shuffled).take 6) ∧
      Sample.countedLog.slice ⟨"e4"⟩ = Sample.shuffledLog.slice ⟨"e4"⟩ :=
  ⟨Sample.countedApart_countedLog, Sample.countedApart_shuffledLog, Sample.perm_counted_shuffled,
    slice_eq_of_perm (Analyzer.ofTable Sample.table) Sample.counted Sample.shuffled
      Sample.countedApart_countedLog Sample.countedApart_shuffledLog
        ⟨"e4"⟩ _ _ Sample.upTo?_countedLog
      Sample.upTo?_shuffledLog Sample.perm_counted_shuffled⟩

end Log

end NotebookSlice

import NotebookSlice.Proofs.Slice.Excerpt

/-!
# Executions that do not contribute

When each record carries a count, the records to which a slice owes nothing might as well not have
been logged: without any number of them the target has the same slice. Such are executions that
failed, that took place later, that define other names, or whose definitions were overwritten.

Positions and ranks shift when records are left out, but their order does not, and counts stay with
their records. So the thinner log is an excerpt of the log, with each statement as its own origin.
Counts matter here: a record without one takes its ordinal from an earlier record, which may be
among those left out.
-/

namespace NotebookSlice

namespace Log

variable {log : Log} {target : EventId}

/-! ### Positions -/

theorem mem_take_iff_positionOf_lt (consistent : log.Consistent) {record : Record}
    (member : record ∈ log.entries) {length : Nat} :
    record ∈ log.entries.take length ↔ log.positionOf record.event < length := by
  constructor
  · intro inTake
    rcases List.getElem?_of_mem inTake with ⟨place, atPlace⟩
    rw [List.getElem?_take] at atPlace
    split at atPlace
    · next below => rwa [positionOf_eq consistent atPlace]
    · simp at atPlace
  · intro below
    rcases List.getElem?_of_mem member with ⟨place, atPlace⟩
    rw [positionOf_eq consistent atPlace] at below
    apply List.mem_of_getElem?
    rwa [List.getElem?_take_of_lt below]

theorem pairwise_positionOf (consistent : log.Consistent) :
    log.entries.Pairwise fun first second =>
      log.positionOf first.event < log.positionOf second.event := by
  rw [List.pairwise_iff_getElem]
  intro first second firstBound secondBound less
  rwa [positionOf_eq consistent (List.getElem?_eq_getElem firstBound),
    positionOf_eq consistent (List.getElem?_eq_getElem secondBound)]

/-- Whether a statement of a record is eligible depends on that record only. -/
theorem eligible_iff_of_mem (consistent : log.Consistent) {record : Record}
    (member : record ∈ log.entries) {occurrence : Occurrence}
    (sameEvent : record.event = occurrence.event) :
    log.Eligible target occurrence ↔
      (log.statement? occurrence).isSome ∧
        (record.event = target ∨ log.positionOf record.event ≤ log.positionOf target ∧
          record.failed = false ∧ log.key record.event < log.key target) := by
  rw [Eligible, ← sameEvent]
  apply and_congr_right
  intro _
  apply or_congr_right
  constructor
  · rintro ⟨other, inTake, otherEvent, succeeded, less⟩
    have same : other = record :=
      List.inj_on_of_nodup_map consistent.distinct (List.mem_of_mem_take inTake) member otherEvent
    subst same
    rw [mem_take_iff_positionOf_lt consistent member] at inTake
    exact ⟨Nat.le_of_lt_succ inTake, succeeded, less⟩
  · rintro ⟨notAfter, succeeded, less⟩
    refine ⟨record, ?_, rfl, succeeded, less⟩
    rw [mem_take_iff_positionOf_lt consistent member]
    exact Nat.lt_succ_of_le notAfter

/-! ### Thinner logs -/

/-- Every record carries a count. -/
def Counted (log : Log) : Prop := ∀ record ∈ log.entries, record.count.isSome

/-- The part holds some of the records of the whole log in the same order, and both have the same
analyzer. -/
structure Thins (part whole : Log) : Prop where
  part_consistent : part.Consistent
  whole_consistent : whole.Consistent
  analyzer_eq : part.analyzer = whole.analyzer
  entries_sublist : part.entries.Sublist whole.entries

namespace Thins

variable {part whole : Log} (thins : part.Thins whole)
include thins

theorem facts?_eq {event : EventId} (logged : part.Logged event) :
    part.facts? event = whole.facts? event := by
  rcases logged with ⟨record, member, rfl⟩
  rw [thins.part_consistent.facts?_eq_some member,
    thins.whole_consistent.facts?_eq_some (thins.entries_sublist.subset member), thins.analyzer_eq]

theorem statement?_eq {occurrence : Occurrence} (logged : part.Logged occurrence.event) :
    part.statement? occurrence = whole.statement? occurrence := by
  rw [statement?, statement?, thins.facts?_eq logged]

theorem factsFor_eq {record : Record} (member : record ∈ part.entries) :
    part.factsFor record = whole.factsFor record := by
  rw [factsFor, factsFor, thins.facts?_eq ⟨record, member, rfl⟩]

theorem keep_eq {record : Record} (member : record ∈ part.entries) (numbers : List Nat) :
    part.keep record numbers = whole.keep record numbers := by
  simp only [keep, Candidate.keep, Candidate.group, Candidate.linesOf, candidateAt,
    thins.factsFor_eq member]

theorem numbered (wholeNumbered : whole.Numbered) : part.Numbered := by
  intro event facts known
  rw [thins.facts?_eq (thins.part_consistent.logged_of_facts?_eq_some known)] at known
  exact wholeNumbered event facts known

theorem positionOf_lt_iff {record other : Record} (member : record ∈ part.entries)
    (otherMember : other ∈ part.entries) :
    part.positionOf record.event < part.positionOf other.event ↔
      whole.positionOf record.event < whole.positionOf other.event :=
  lt_iff_lt_of_pairwise (pairwise_positionOf thins.part_consistent)
    ((pairwise_positionOf thins.whole_consistent).sublist thins.entries_sublist) member otherMember

theorem ordinal_eq (counted : whole.Counted) {record : Record} (member : record ∈ part.entries) :
    part.ordinal record.event = whole.ordinal record.event := by
  have wholeMember := thins.entries_sublist.subset member
  rcases Option.isSome_iff_exists.mp (counted record wholeMember) with ⟨count, isCount⟩
  rw [ordinal_eq_of_count thins.part_consistent member isCount,
    ordinal_eq_of_count thins.whole_consistent wholeMember isCount]

theorem key_lt_iff (counted : whole.Counted) {record other : Record}
    (member : record ∈ part.entries) (otherMember : other ∈ part.entries) :
    part.key record.event < part.key other.event ↔
      whole.key record.event < whole.key other.event := by
  rw [key_lt_key_iff, key_lt_key_iff, thins.ordinal_eq counted member,
    thins.ordinal_eq counted otherMember, thins.positionOf_lt_iff member otherMember]

/-- The same statements of the retained records are eligible. -/
theorem eligible_iff (counted : whole.Counted) (targetLogged : part.Logged target)
    {occurrence : Occurrence} (logged : part.Logged occurrence.event) :
    part.Eligible target occurrence ↔ whole.Eligible target occurrence := by
  rcases targetLogged with ⟨targetRecord, targetMember, rfl⟩
  rcases logged with ⟨record, member, sameEvent⟩
  rw [eligible_iff_of_mem thins.part_consistent member sameEvent,
    eligible_iff_of_mem thins.whole_consistent (thins.entries_sublist.subset member) sameEvent,
    thins.statement?_eq ⟨record, member, sameEvent⟩, thins.key_lt_iff counted member targetMember,
    ← not_lt, thins.positionOf_lt_iff targetMember member, not_lt]

/-- If the part retains the executions that have a group, it is an excerpt. -/
theorem excerpt (counted : whole.Counted) (sliceable : whole.Sliceable target)
    (retained : ∀ group ∈ (whole.slice target).groups, part.Logged group.event)
    (targetLogged : part.Logged target) : part.Excerpt whole target id where
  part_sliceable := by
    refine ⟨thins.part_consistent, thins.numbered sliceable.numbered, ?_⟩
    rw [thins.facts?_eq targetLogged]
    exact sliceable.hasStatements
  whole_sliceable := sliceable
  event_origin _ := rfl
  eligible_origin occurrence eligible :=
    (thins.eligible_iff counted targetLogged (logged_of_eligible thins.part_consistent eligible)).mp
      eligible
  statement_origin occurrence statement eligible found := by
    rw [thins.statement?_eq (logged_of_eligible thins.part_consistent eligible)] at found
    exact ⟨statement, found, rfl, rfl⟩
  key_lt := by
    rintro _ _ ⟨record, member, rfl⟩ ⟨other, otherMember, rfl⟩ less
    exact (thins.key_lt_iff counted member otherMember).mp less
  index_lt _ _ _ _ _ less := less
  retains occurrence kept := by
    have hasGroup := (sliceable.mem_events_iff occurrence.event).mpr ⟨occurrence, kept, rfl⟩
    rcases List.mem_map.mp hasGroup with ⟨group, member, sameEvent⟩
    have logged : part.Logged occurrence.event := sameEvent ▸ retained group member
    exact ⟨occurrence,
      (thins.eligible_iff counted targetLogged logged).mpr (sliceable.eligible kept), rfl⟩

theorem groups_eq_of_sliceable (counted : whole.Counted) (sliceable : whole.Sliceable target)
    (retained : ∀ group ∈ (whole.slice target).groups, part.Logged group.event)
    (targetLogged : part.Logged target) :
    (part.slice target).groups = (whole.slice target).groups := by
  have excerpt := thins.excerpt counted sliceable retained targetLogged
  have partSliceable := excerpt.part_sliceable
  rw [← List.map_id (part.slice target).groups, ← List.map_id (whole.slice target).groups]
  apply excerpt.map_groups_eq
  intro group member other otherMember sameEvent
  rcases partSliceable.exists_record member with ⟨record, recordMem, isKept, _⟩
  rcases sliceable.exists_record otherMember with ⟨otherRecord, otherRecordMem, otherIsKept, _⟩
  have sameRecord : record = otherRecord := by
    apply List.inj_on_of_nodup_map thins.whole_consistent.distinct
      (thins.entries_sublist.subset recordMem) otherRecordMem
    rwa [isKept, otherIsKept] at sameEvent
  have sameStatements : group.statements = other.statements := by
    rcases partSliceable.wellShaped with ⟨_, _, _, shaped⟩
    rcases sliceable.wellShaped with ⟨_, _, _, otherShaped⟩
    apply (shaped.statements_increase group member).eq_of_mem_iff
      (otherShaped.statements_increase other otherMember)
    intro index
    rw [partSliceable.mem_statements_iff member,
      sliceable.mem_statements_iff otherMember, sameEvent]
    constructor
    · exact excerpt.origin_mem_of_mem
    · intro kept
      rcases excerpt.exists_mem_of_mem kept with ⟨retained, inPart, rfl⟩
      exact inPart
  rw [id, id, isKept, otherIsKept, sameStatements, thins.keep_eq recordMem, sameRecord]

/-- A slice stays the same in a thinner log that retains the executions that have a group. -/
theorem slice_eq (counted : whole.Counted) (wholeNumbered : whole.Numbered)
    (logged : whole.Logged target)
    (retained : ∀ group ∈ (whole.slice target).groups, part.Logged group.event) :
    part.slice target = whole.slice target := by
  rcases exists_wellShaped thins.whole_consistent wholeNumbered logged with
    ⟨wholeTarget, record, member, rfl, shaped⟩
  rcases shaped.exists_last with ⟨last, lastMem, sameHeading, _⟩
  have targetLogged : part.Logged record.event := by
    have logged := retained last lastMem
    rwa [show last.event = record.event from congrArg Heading.event sameHeading] at logged
  rcases exists_wellShaped thins.part_consistent (thins.numbered wholeNumbered) targetLogged with
    ⟨partTarget, partRecord, partMember, sameEvent, partShaped⟩
  have sameRecord : partRecord = record :=
    List.inj_on_of_nodup_map thins.whole_consistent.distinct
      (thins.entries_sublist.subset partMember)
      member sameEvent
  subst sameRecord
  have sameGroups : (part.slice partRecord.event).groups =
      (whole.slice partRecord.event).groups := by
    -- A target without statements has no dependencies: its slice is its own text.
    cases isEmpty : (whole.factsFor partRecord).isEmpty with
    | true =>
        rw [shaped.whole isEmpty, partShaped.whole]
        rwa [thins.factsFor_eq partMember]
    | false =>
        apply thins.groups_eq_of_sliceable counted _ retained targetLogged
        refine ⟨thins.whole_consistent, wholeNumbered, ?_⟩
        exact ⟨whole.factsFor partRecord,
          thins.whole_consistent.facts?_eq_some_factsFor member, isEmpty⟩
  exact congrArg₂ Slice.mk (partTarget.trans wholeTarget.symm) sameGroups

end Thins

/-- The log of the records that are not removed, reported in the same order. -/
def without (log : Log) (removed : Set Record) [DecidablePred (· ∈ removed)] : Log :=
  (empty log.analyzer).run
    ((log.entries.filter fun record => decide (record ∉ removed)).map Operation.append)

theorem entries_without (consistent : log.Consistent) (removed : Set Record)
    [DecidablePred (· ∈ removed)] :
    (log.without removed).entries = log.entries.filter fun record => decide (record ∉ removed) := by
  apply entries_run_append
  · exact consistent.distinct.sublist (List.filter_sublist.map _)
  · intro record member
    exact consistent.notBlank record (List.mem_of_mem_filter member)

theorem thins_without (consistent : log.Consistent) (removed : Set Record)
    [DecidablePred (· ∈ removed)] : (log.without removed).Thins log where
  part_consistent := consistent_run_empty _ _
  whole_consistent := consistent
  analyzer_eq := analyzer_run _ _
  entries_sublist := by
    rw [entries_without consistent]
    exact List.filter_sublist

/-- Removing records that have no group in the slice of a target leaves the slice as it is, if all
records carry counts. -/
theorem slice_without (analyzer : Analyzer) (operations : List Operation)
    (counted : ((empty analyzer).run operations).Counted)
    (numbered : ((empty analyzer).run operations).Numbered) (target : EventId)
    (logged : ((empty analyzer).run operations).Logged target) (removed : Set Record)
    [DecidablePred (· ∈ removed)]
    (irrelevant : ∀ record ∈ ((empty analyzer).run operations).entries, record ∈ removed →
      ∀ group ∈ (((empty analyzer).run operations).slice target).groups,
      group.event ≠ record.event) :
    let log := (empty analyzer).run operations
    (log.without removed).slice target = log.slice target := by
  intro log
  have consistent : log.Consistent := consistent_run_empty analyzer operations
  apply (thins_without consistent removed).slice_eq counted numbered logged
  intro group member
  rcases exists_wellShaped consistent numbered logged with ⟨_, _, _, _, shaped⟩
  rcases shaped.heading_logged group member with ⟨record, recordMem, sameHeading⟩
  have sameEvent : group.event = record.event := congrArg Heading.event sameHeading
  have remains : record ∉ removed := fun isRemoved =>
    irrelevant record recordMem isRemoved group member sameEvent
  refine ⟨record, ?_, sameEvent.symm⟩
  rw [entries_without consistent, List.mem_filter]
  exact ⟨recordMem, decide_eq_true remains⟩

end Log

namespace Sample

/-- A session whose records all carry counts. Its first execution is overwritten, another one fails,
and one with a later count is reported early. -/
def counted : List Operation :=
  [.append ⟨⟨"a"⟩, ⟨"e0"⟩, "x = z()", some 1, false⟩,
   .append ⟨⟨"a"⟩, ⟨"e1"⟩, "x = 1", some 2, false⟩,
   .append ⟨⟨"d"⟩, ⟨"e5"⟩, "x = 1", some 9, false⟩,
   .append ⟨⟨"b"⟩, ⟨"e2"⟩, "y = x\nx = 2", some 3, false⟩,
   .append ⟨⟨"c"⟩, ⟨"e3"⟩, "x = z()", some 4, true⟩,
   .append ⟨⟨"c"⟩, ⟨"e4"⟩, "w = x + y", some 5, false⟩]

/-- The log of the session with counts. -/
def countedLog : Log := (Log.empty (Analyzer.ofTable table)).run counted

theorem entries_countedLog : countedLog.entries = Journal.run counted :=
  Log.entries_run_empty _ _

theorem counted_countedLog : countedLog.Counted := by
  rw [Log.Counted, entries_countedLog]
  decide +kernel

theorem numbered_countedLog : countedLog.Numbered :=
  (Log.consistent_run_empty _ counted).numbered (by rw [Log.analyzer_run]; exact numbers_table)

theorem upTo?_countedLog : countedLog.upTo? ⟨"e4"⟩ = some (Journal.run counted) := by
  have consistent := Log.consistent_run_empty (Analyzer.ofTable table) counted
  rw [countedLog, consistent.upTo?_eq, Log.entries_run_empty]
  decide +kernel

theorem groups_countedLog :
    (countedLog.slice ⟨"e4"⟩).groups.map (·.event) = [⟨"e1"⟩, ⟨"e2"⟩, ⟨"e4"⟩] := by
  rw [countedLog, Log.slice_run_empty_eq (Journal.run counted) (by decide +kernel)
    (Timeline.ofHistory?_eq_of_pairwise rfl (by decide +kernel))]
  simp only [Timeline.groups, Timeline.numbersAt_eq_insertionSort]
  decide +kernel

/-- The executions of the session to which the slice owes nothing. -/
def removed : Set Record := {record | record.event ∈ [⟨"e0"⟩, ⟨"e3"⟩, ⟨"e5"⟩]}

instance decidableMemRemoved : DecidablePred (· ∈ removed) := fun record =>
  inferInstanceAs (Decidable (record.event ∈ [⟨"e0"⟩, ⟨"e3"⟩, ⟨"e5"⟩]))

theorem irrelevant_removed (record : Record) (isRemoved : record ∈ removed) :
    ∀ group ∈ (countedLog.slice ⟨"e4"⟩).groups, group.event ≠ record.event := by
  intro group member same
  have kept := List.mem_map_of_mem (f := (·.event)) member
  rw [groups_countedLog, same] at kept
  have apart : ∀ event ∈ [⟨"e0"⟩, ⟨"e3"⟩, ⟨"e5"⟩],
      event ∉ [⟨"e1"⟩, ⟨"e2"⟩, (⟨"e4"⟩ : EventId)] := by decide
  exact apart record.event isRemoved kept

end Sample

namespace Log

theorem slice_without_sample :
    Sample.countedLog.Counted ∧ Sample.countedLog.Numbered ∧
      (Sample.countedLog.slice ⟨"e4"⟩).groups.map (·.event) = [⟨"e1"⟩, ⟨"e2"⟩, ⟨"e4"⟩] ∧
      (Sample.countedLog.without Sample.removed).slice ⟨"e4"⟩ = Sample.countedLog.slice ⟨"e4"⟩ :=
  ⟨Sample.counted_countedLog, Sample.numbered_countedLog, Sample.groups_countedLog,
    slice_without (Analyzer.ofTable Sample.table) Sample.counted Sample.counted_countedLog
      Sample.numbered_countedLog ⟨"e4"⟩
      ((consistent_run_empty _ _).logged_of_upTo?_eq_some Sample.upTo?_countedLog) Sample.removed
      fun record _ => Sample.irrelevant_removed record⟩

end Log

end NotebookSlice

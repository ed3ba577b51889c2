import Mathlib.Data.Prod.Lex
import NotebookSlice.Proofs.Slice.Search
import NotebookSlice.Proofs.Slice.Timeline

/-!
# Chronology of a log

This file says in terms of the log alone what a slice is about. An occurrence is a statement of a
logged execution. Occurrences are ordered by the ordinal in force for their execution, its position
in the log and their number. `Log.Eligible` singles out those that may take part in the slice of a
target, and `Log.NearestDefinition` the one among them that a use depends on.

The search for dependencies works on a timeline instead, where executions are known by rank. The two
views agree: `Timeline.Locates` relates sites to occurrences and keeps their order.
-/

namespace NotebookSlice

/-- A statement of an execution. -/
structure Occurrence where
  event : EventId
  index : Nat
deriving DecidableEq, Repr, Inhabited

namespace Log

/-- The statement that an occurrence stands for. -/
def statement? (log : Log) (occurrence : Occurrence) : Option Statement :=
  (log.facts? occurrence.event).bind fun facts => facts.statements[occurrence.index]?

/-- The occurrence is a statement that defines the name. -/
def Defines (log : Log) (occurrence : Occurrence) (name : String) : Prop :=
  ∃ statement, log.statement? occurrence = some statement ∧ name ∈ statement.defs

/-- The occurrence is a statement that uses the name. -/
def Uses (log : Log) (occurrence : Occurrence) (name : String) : Prop :=
  ∃ statement, log.statement? occurrence = some statement ∧ name ∈ statement.uses

/-- The position of an execution in the log. -/
def positionOf (log : Log) (event : EventId) : Nat := log.entries.findIdx (·.event == event)

/-- The key of an execution: the ordinal in force for it, then its position. -/
def key (log : Log) (event : EventId) : Nat ×ₗ Nat :=
  toLex (ordinalAt log.entries (log.positionOf event), log.positionOf event)

/-- The place of an occurrence in chronological order: ordinal, position, number of the
statement. -/
def time (log : Log) (occurrence : Occurrence) : Nat ×ₗ Nat ×ₗ Nat :=
  toLex (ordinalAt log.entries (log.positionOf occurrence.event),
    toLex (log.positionOf occurrence.event, occurrence.index))

/-- The occurrence is a statement of the target, or of an execution logged up to the target that did
not fail and has a smaller key. -/
def Eligible (log : Log) (target : EventId) (occurrence : Occurrence) : Prop :=
  (log.statement? occurrence).isSome ∧
    (occurrence.event = target ∨
      ∃ record ∈ log.entries.take (log.positionOf target + 1),
        record.event = occurrence.event ∧ record.failed = false ∧
          log.key record.event < log.key target)

instance (log : Log) (target : EventId) (occurrence : Occurrence) :
    Decidable (log.Eligible target occurrence) :=
  inferInstanceAs (Decidable (_ ∧ (_ ∨ ∃ _ ∈ _, _ ∧ _ ∧ _)))

/-- The source is the last eligible occurrence before another that defines the name. -/
structure NearestDefinition (log : Log) (target : EventId) (name : String)
    (occurrence source : Occurrence) : Prop where
  eligible : log.Eligible target source
  defines : log.Defines source name
  before : log.time source < log.time occurrence
  latest : ∀ other, log.Eligible target other → log.Defines other name →
    log.time other < log.time occurrence → log.time other ≤ log.time source

theorem positionOf_eq {log : Log} (consistent : log.Consistent) {position : Nat} {record : Record}
    (atPosition : log.entries[position]? = some record) :
    log.positionOf record.event = position := by
  have found := consistent.findIdx?_eq_some_iff.mpr ⟨record, atPosition, rfl⟩
  exact (List.findIdx?_eq_some_iff_findIdx_eq.mp found).2

theorem key_lt_iff {log : Log} (consistent : log.Consistent) {first second : Nat}
    {record other : Record} (atFirst : log.entries[first]? = some record)
    (atSecond : log.entries[second]? = some other) :
    log.key record.event < log.key other.event ↔
      (momentAt log.entries first).precedes (momentAt log.entries second) = true := by
  rw [key, key, positionOf_eq consistent atFirst, positionOf_eq consistent atSecond,
    Prod.Lex.toLex_lt_toLex, Moment.precedes_iff]
  rfl

theorem time_lt_of_key_lt {log : Log} {first second : Occurrence}
    (less : log.key first.event < log.key second.event) : log.time first < log.time second := by
  rw [key, key, Prod.Lex.toLex_lt_toLex] at less
  rw [time, time, Prod.Lex.toLex_lt_toLex, Prod.Lex.toLex_lt_toLex]
  omega

/-- The timeline is that of the execution at a position of a consistent log. -/
structure Unfolding (log : Log) (timeline : Timeline) (position : Nat) (target : Record) :
    Prop where
  consistent : log.Consistent
  atPosition : log.entries[position]? = some target
  covers : timeline.Covers log.factsFor log.entries position target

theorem exists_unfolding {log : Log} (consistent : log.Consistent) {event : EventId}
    (logged : log.Logged event) :
    ∃ timeline position target, target.event = event ∧ log.timeline? event = some timeline ∧
      log.Unfolding timeline position target := by
  rcases logged with ⟨target, member, rfl⟩
  rcases List.getElem?_of_mem member with ⟨position, atPosition⟩
  rcases covers_timeline? consistent atPosition with ⟨timeline, found, covers⟩
  exact ⟨timeline, position, target, rfl, found, consistent, atPosition, covers⟩

end Log

namespace Timeline

/-- The site is where the occurrence stands on the timeline. -/
def Locates (timeline : Timeline) (site : Site) (occurrence : Occurrence) : Prop :=
  ∃ candidate, timeline.members[site.rank]? = some candidate ∧
    candidate.record.event = occurrence.event ∧ site.index = occurrence.index

theorem getElem?_members_length (timeline : Timeline) :
    timeline.members[timeline.earlier.length]? = some timeline.target := by
  simp [members]

theorem getElem?_members_of_mem_earlier {timeline : Timeline} {candidate : Candidate}
    (member : candidate ∈ timeline.earlier) :
    ∃ rank : Nat, timeline.members[rank]? = some candidate := by
  rcases List.getElem?_of_mem member with ⟨rank, atRank⟩
  refine ⟨rank, ?_⟩
  rw [members, List.getElem?_append_left (List.getElem?_eq_some_iff.mp atRank).1]
  exact atRank

theorem mem_earlier_or_isTarget {timeline : Timeline} {rank : Nat} {candidate : Candidate}
    (atRank : timeline.members[rank]? = some candidate) :
    (candidate ∈ timeline.earlier ∧ rank ≠ timeline.earlier.length) ∨
      (candidate = timeline.target ∧ rank = timeline.earlier.length) := by
  rcases List.getElem?_eq_some_iff.mp atRank with ⟨within, _⟩
  simp only [members, List.length_append, List.length_singleton] at within
  rcases Nat.lt_or_eq_of_le (Nat.le_of_lt_succ within) with below | rfl
  · left
    rw [members, List.getElem?_append_left below] at atRank
    exact ⟨List.mem_of_getElem? atRank, Nat.ne_of_lt below⟩
  · right
    rw [getElem?_members_length] at atRank
    exact ⟨(Option.some.inj atRank).symm, rfl⟩

theorem occurrence_eq_of_locates {timeline : Timeline} {site : Site} {first second : Occurrence}
    (locatesFirst : timeline.Locates site first) (locatesSecond : timeline.Locates site second) :
    first = second := by
  rcases locatesFirst with ⟨candidate, atRank, firstEvent, firstIndex⟩
  rcases locatesSecond with ⟨other, otherAtRank, secondEvent, secondIndex⟩
  rw [atRank, Option.some.injEq] at otherAtRank
  subst other
  cases first
  cases second
  simp_all

theorem exists_locates_of_supplies {timeline : Timeline} {site : Site} {statement : Statement}
    (supplies : timeline.Supplies site statement) :
    ∃ occurrence, timeline.Locates site occurrence := by
  rcases supplies with ⟨candidate, atRank, _⟩
  exact ⟨⟨candidate.record.event, site.index⟩, candidate, atRank, rfl, rfl⟩

theorem exists_locates_of_defines {timeline : Timeline} {site : Site} {name : String}
    (defines : timeline.Defines site name) : ∃ occurrence, timeline.Locates site occurrence := by
  rcases defines with ⟨statement, supplies, _⟩
  exact exists_locates_of_supplies supplies

end Timeline

namespace Log.Unfolding

variable {log : Log} {timeline : Timeline} {position : Nat} {target : Record}

theorem exists_position (unfolding : log.Unfolding timeline position target) {candidate : Candidate}
    (member : candidate ∈ timeline.members) :
    ∃ place record, place ≤ position ∧ log.entries[place]? = some record ∧
      candidate = candidateAt log.factsFor log.entries place record := by
  rw [Timeline.members, List.mem_append, List.mem_singleton] at member
  rcases member with earlier | rfl
  · rcases (unfolding.covers.mem_earlier_iff candidate).mp earlier with
      ⟨place, record, below, atPlace, rfl, _⟩
    exact ⟨place, record, Nat.le_of_lt below, atPlace, rfl⟩
  · exact ⟨position, target, Nat.le_refl position, unfolding.atPosition, unfolding.covers.target_eq⟩

/-- The moment of an execution on the timeline gives the time of its statements. -/
theorem time_eq (unfolding : log.Unfolding timeline position target) {candidate : Candidate}
    (member : candidate ∈ timeline.members) {occurrence : Occurrence}
    (sameEvent : candidate.record.event = occurrence.event) :
    log.time occurrence =
      toLex (candidate.moment.ordinal, toLex (candidate.moment.position, occurrence.index)) := by
  rcases unfolding.exists_position member with ⟨place, record, _, atPlace, rfl⟩
  have found := positionOf_eq unfolding.consistent atPlace
  change record.event = occurrence.event at sameEvent
  rw [time, ← sameEvent, found]
  rfl

theorem precedes_of_rank_lt (unfolding : log.Unfolding timeline position target)
    {first second : Nat} {candidate other : Candidate}
    (atFirst : timeline.members[first]? = some candidate)
    (atSecond : timeline.members[second]? = some other) (less : first < second) :
    candidate.moment.precedes other.moment = true := by
  rcases List.getElem?_eq_some_iff.mp atFirst with ⟨firstBound, rfl⟩
  rcases List.getElem?_eq_some_iff.mp atSecond with ⟨secondBound, rfl⟩
  exact List.pairwise_iff_getElem.mp unfolding.covers.pairwise_members first second firstBound
    secondBound less

/-- The order of sites is the chronological order. -/
theorem precedes_iff_time_lt (unfolding : log.Unfolding timeline position target)
    {first second : Site} {firstOccurrence secondOccurrence : Occurrence}
    (locatesFirst : timeline.Locates first firstOccurrence)
    (locatesSecond : timeline.Locates second secondOccurrence) :
    first.precedes second = true ↔ log.time firstOccurrence < log.time secondOccurrence := by
  rcases locatesFirst with ⟨candidate, atFirst, firstEvent, firstIndex⟩
  rcases locatesSecond with ⟨other, atSecond, secondEvent, secondIndex⟩
  rw [unfolding.time_eq (List.mem_of_getElem? atFirst) firstEvent,
    unfolding.time_eq (List.mem_of_getElem? atSecond) secondEvent, Site.precedes_iff, firstIndex,
    secondIndex]
  simp only [Prod.Lex.toLex_lt_toLex]
  rcases Nat.lt_trichotomy first.rank second.rank with less | same | greater
  · have before := Moment.precedes_iff.mp (unfolding.precedes_of_rank_lt atFirst atSecond less)
    omega
  · rw [same, atSecond, Option.some.injEq] at atFirst
    subst candidate
    omega
  · have after := Moment.precedes_iff.mp (unfolding.precedes_of_rank_lt atSecond atFirst greater)
    omega

theorem time_le_iff (unfolding : log.Unfolding timeline position target) {first second : Site}
    {firstOccurrence secondOccurrence : Occurrence}
    (locatesFirst : timeline.Locates first firstOccurrence)
    (locatesSecond : timeline.Locates second secondOccurrence) :
    log.time firstOccurrence ≤ log.time secondOccurrence ↔
      first = second ∨ first.precedes second = true := by
  rw [← not_lt, ← unfolding.precedes_iff_time_lt locatesSecond locatesFirst, Site.precedes_iff,
    Site.precedes_iff]
  cases first
  cases second
  simp only [Site.mk.injEq]
  omega

/-! ### Statements and eligibility -/

theorem statement?_eq (unfolding : log.Unfolding timeline position target) {site : Site}
    {occurrence : Occurrence} (locates : timeline.Locates site occurrence) :
    log.statement? occurrence = timeline.statementAt? site := by
  rcases locates with ⟨candidate, atRank, sameEvent, sameIndex⟩
  rcases unfolding.exists_position (List.mem_of_getElem? atRank) with
    ⟨place, record, _, atPlace, rfl⟩
  change record.event = occurrence.event at sameEvent
  rw [statement?, Timeline.statementAt?, atRank, ← sameEvent, sameIndex]
  simp only [Option.bind_some, candidateAt, factsFor]
  cases log.facts? record.event <;> simp

theorem locates_target (unfolding : log.Unfolding timeline position target) (index : Nat) :
    timeline.Locates ⟨timeline.earlier.length, index⟩ ⟨target.event, index⟩ := by
  refine ⟨timeline.target, Timeline.getElem?_members_length timeline, ?_, rfl⟩
  rw [unfolding.covers.target_eq]
  rfl

theorem mem_take_iff (unfolding : log.Unfolding timeline position target) {record : Record} :
    record ∈ log.entries.take (log.positionOf target.event + 1) ↔
      ∃ place, place ≤ position ∧ log.entries[place]? = some record := by
  rw [positionOf_eq unfolding.consistent unfolding.atPosition, List.mem_iff_getElem?]
  constructor
  · rintro ⟨place, atPlace⟩
    rw [List.getElem?_take] at atPlace
    split at atPlace
    · next below => exact ⟨place, Nat.le_of_lt_succ below, atPlace⟩
    · simp at atPlace
  · rintro ⟨place, below, atPlace⟩
    refine ⟨place, ?_⟩
    rwa [List.getElem?_take_of_lt (Nat.lt_succ_of_le below)]

theorem mem_earlier_iff_key_lt (unfolding : log.Unfolding timeline position target) {place : Nat}
    {record : Record} (below : place ≤ position) (atPlace : log.entries[place]? = some record) :
    candidateAt log.factsFor log.entries place record ∈ timeline.earlier ↔
      log.key record.event < log.key target.event := by
  rw [unfolding.covers.mem_earlier_iff, unfolding.covers.target_eq,
    key_lt_iff unfolding.consistent atPlace unfolding.atPosition]
  constructor
  · rintro ⟨_, _, _, _, _, before⟩
    exact before
  · intro before
    refine ⟨place, record, ?_, atPlace, rfl, before⟩
    rcases Nat.lt_or_eq_of_le below with less | rfl
    · exact less
    · exact absurd before (Moment.precedes_irrefl _)

theorem exists_locates_of_eligible (unfolding : log.Unfolding timeline position target)
    {occurrence : Occurrence} (eligible : log.Eligible target.event occurrence) :
    ∃ site, timeline.Locates site occurrence := by
  rcases eligible with ⟨_, isTarget | ⟨record, member, sameEvent, _, less⟩⟩
  · refine ⟨⟨timeline.earlier.length, occurrence.index⟩, ?_⟩
    have located := unfolding.locates_target occurrence.index
    rwa [← isTarget] at located
  · rcases unfolding.mem_take_iff.mp member with ⟨place, below, atPlace⟩
    have earlier := (unfolding.mem_earlier_iff_key_lt below atPlace).mpr less
    rcases Timeline.getElem?_members_of_mem_earlier earlier with ⟨rank, atRank⟩
    exact ⟨⟨rank, occurrence.index⟩, _, atRank, sameEvent, rfl⟩

/-- Definitions may come from a site exactly when its occurrence is eligible. -/
theorem supplies_iff (unfolding : log.Unfolding timeline position target) {site : Site}
    {occurrence : Occurrence} (locates : timeline.Locates site occurrence) {statement : Statement} :
    timeline.Supplies site statement ↔
      log.Eligible target.event occurrence ∧ log.statement? occurrence = some statement := by
  have sameStatement := unfolding.statement?_eq locates
  rcases locates with ⟨candidate, atRank, sameEvent, sameIndex⟩
  rw [Timeline.statementAt?, atRank, Option.bind_some] at sameStatement
  constructor
  · rintro ⟨other, otherAtRank, supplier, atIndex⟩
    rw [atRank, Option.some.injEq] at otherAtRank
    subst other
    rw [sameStatement]
    refine ⟨⟨by rw [sameStatement, atIndex]; rfl, ?_⟩, atIndex⟩
    rcases Timeline.mem_earlier_or_isTarget atRank with ⟨earlier, notLast⟩ | ⟨rfl, _⟩
    · right
      rcases unfolding.exists_position (List.mem_of_getElem? atRank) with
        ⟨place, record, below, atPlace, rfl⟩
      have less := (unfolding.mem_earlier_iff_key_lt below atPlace).mp earlier
      refine ⟨record, unfolding.mem_take_iff.mpr ⟨place, below, atPlace⟩, sameEvent, ?_, less⟩
      rcases supplier with succeeded | isLast
      · exact succeeded
      · exact absurd isLast notLast
    · left
      rw [← sameEvent, unfolding.covers.target_eq]
      rfl
  · rintro ⟨⟨_, source⟩, isStatement⟩
    refine ⟨candidate, atRank, ?_, sameStatement.symm.trans isStatement⟩
    rcases Timeline.mem_earlier_or_isTarget atRank with ⟨earlier, _⟩ | ⟨_, isLast⟩
    · left
      rcases unfolding.exists_position (List.mem_of_getElem? atRank) with
        ⟨place, record, below, atPlace, rfl⟩
      have less := (unfolding.mem_earlier_iff_key_lt below atPlace).mp earlier
      change record.event = occurrence.event at sameEvent
      rcases source with isTarget | ⟨other, otherMem, otherEvent, succeeded, _⟩
      · rw [sameEvent, isTarget] at less
        exact absurd less (lt_irrefl _)
      · have same : other = record :=
          List.inj_on_of_nodup_map unfolding.consistent.distinct (List.mem_of_mem_take otherMem)
            (List.mem_of_getElem? atPlace) (otherEvent.trans sameEvent.symm)
        rw [same] at succeeded
        exact succeeded
    · exact Or.inr isLast

theorem defines_iff (unfolding : log.Unfolding timeline position target) {site : Site}
    {occurrence : Occurrence} (locates : timeline.Locates site occurrence) {name : String} :
    timeline.Defines site name ↔
      log.Eligible target.event occurrence ∧ log.Defines occurrence name := by
  constructor
  · rintro ⟨statement, supplies, nameMem⟩
    rcases (unfolding.supplies_iff locates).mp supplies with ⟨eligible, isStatement⟩
    exact ⟨eligible, statement, isStatement, nameMem⟩
  · rintro ⟨eligible, statement, isStatement, nameMem⟩
    exact ⟨statement, (unfolding.supplies_iff locates).mpr ⟨eligible, isStatement⟩, nameMem⟩

/-- What a use depends on is the same on the timeline and in the log. -/
theorem nearest_iff (unfolding : log.Unfolding timeline position target) {site source : Site}
    {occurrence sourceOccurrence : Occurrence} (locates : timeline.Locates site occurrence)
    (locatesSource : timeline.Locates source sourceOccurrence) {name : String} :
    timeline.Nearest name site source ↔
      log.NearestDefinition target.event name occurrence sourceOccurrence := by
  constructor
  · rintro ⟨defines, before, nearest⟩
    rcases (unfolding.defines_iff locatesSource).mp defines with ⟨eligible, logDefines⟩
    refine ⟨eligible, logDefines,
      (unfolding.precedes_iff_time_lt locatesSource locates).mp before, ?_⟩
    intro other otherEligible otherDefines otherBefore
    rcases unfolding.exists_locates_of_eligible otherEligible with ⟨otherSite, locatesOther⟩
    rw [unfolding.time_le_iff locatesOther locatesSource]
    apply nearest otherSite ((unfolding.defines_iff locatesOther).mpr ⟨otherEligible, otherDefines⟩)
    exact (unfolding.precedes_iff_time_lt locatesOther locates).mpr otherBefore
  · rintro ⟨eligible, defines, before, latest⟩
    refine ⟨(unfolding.defines_iff locatesSource).mpr ⟨eligible, defines⟩,
      (unfolding.precedes_iff_time_lt locatesSource locates).mpr before, ?_⟩
    intro other otherDefines otherBefore
    rcases Timeline.exists_locates_of_defines otherDefines with ⟨otherOccurrence, locatesOther⟩
    rcases (unfolding.defines_iff locatesOther).mp otherDefines with
      ⟨otherEligible, otherLogDefines⟩
    rw [← unfolding.time_le_iff locatesOther locatesSource]
    apply latest otherOccurrence otherEligible otherLogDefines
    exact (unfolding.precedes_iff_time_lt locatesOther locates).mp otherBefore

end Log.Unfolding

end NotebookSlice

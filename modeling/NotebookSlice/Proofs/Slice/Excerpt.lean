import Mathlib.Data.Set.Finite.Lemmas
import NotebookSlice.Proofs.Slice.Shape

/-!
# Slices of excerpts

An excerpt of a log holds some of its executions, each with some of its statements, in the same
order. If it retains whatever the slice of a target keeps, then the target has the same slice in the
excerpt: the kept statements and the groups correspond.

The argument compares nearest definitions. A definition that is nearest in the whole log and
retained in the excerpt is nearest there, as an excerpt adds nothing that could come between.
Conversely, let a definition be nearest in the excerpt. Then the whole log has a nearest one too,
which is kept and hence retained, so that it can only be the same. Both directions then follow from
the slice being the least closed set.
-/

namespace NotebookSlice

/-- Two lists with the same labels in the same order look alike if items with the same label do. -/
theorem map_eq_map_of_map_eq {α β γ : Type} {label : α → β} {view otherView : α → γ}
    {first second : List α} (same : first.map label = second.map label)
    (agree : ∀ item ∈ first, ∀ other ∈ second, label item = label other →
      view item = otherView other) :
    first.map view = second.map otherView := by
  induction first generalizing second with
  | nil =>
      rw [List.map_nil, eq_comm, List.map_eq_nil_iff] at same
      rw [same]
      rfl
  | cons item items ih =>
      cases second with
      | nil => simp at same
      | cons other others =>
          rw [List.map_cons, List.map_cons, List.cons.injEq] at same
          rw [List.map_cons, List.map_cons,
            agree item List.mem_cons_self other List.mem_cons_self same.1,
            ih same.2]
          intro first firstMem second secondMem
          exact agree first (List.mem_cons_of_mem _ firstMem) second
            (List.mem_cons_of_mem _ secondMem)

namespace Log

variable {log : Log} {target : EventId}

/-! ### Keys and times -/

theorem event_eq_of_positionOf_eq (consistent : log.Consistent) {first second : EventId}
    (firstLogged : log.Logged first) (secondLogged : log.Logged second)
    (same : log.positionOf first = log.positionOf second) : first = second := by
  rcases firstLogged with ⟨record, member, rfl⟩
  rcases secondLogged with ⟨other, otherMember, rfl⟩
  rcases List.getElem?_of_mem member with ⟨place, atPlace⟩
  rcases List.getElem?_of_mem otherMember with ⟨otherPlace, atOtherPlace⟩
  rw [positionOf_eq consistent atPlace, positionOf_eq consistent atOtherPlace] at same
  rw [same, atOtherPlace, Option.some.injEq] at atPlace
  rw [atPlace]

/-- Statements are ordered by the keys of their executions, and within one execution by their
numbers. -/
theorem time_lt_iff (consistent : log.Consistent) {first second : Occurrence}
    (firstLogged : log.Logged first.event) (secondLogged : log.Logged second.event) :
    log.time first < log.time second ↔
      log.key first.event < log.key second.event ∨
        first.event = second.event ∧ first.index < second.index := by
  constructor
  · intro less
    rcases lt_trichotomy (log.key first.event) (log.key second.event) with before | same | after
    · exact Or.inl before
    · right
      have samePlace : log.positionOf first.event = log.positionOf second.event :=
        congrArg (fun key => (ofLex key).2) same
      have sameEvent := event_eq_of_positionOf_eq consistent firstLogged secondLogged samePlace
      rw [time, time, sameEvent, Prod.Lex.toLex_lt_toLex, Prod.Lex.toLex_lt_toLex] at less
      refine ⟨sameEvent, ?_⟩
      omega
    · exact absurd less (lt_asymm (time_lt_of_key_lt after))
  · rintro (before | ⟨sameEvent, less⟩)
    · exact time_lt_of_key_lt before
    · rw [time, time, sameEvent, Prod.Lex.toLex_lt_toLex, Prod.Lex.toLex_lt_toLex]
      exact Or.inr ⟨rfl, Or.inr ⟨rfl, less⟩⟩

theorem logged_of_eligible (consistent : log.Consistent) {occurrence : Occurrence}
    (eligible : log.Eligible target occurrence) : log.Logged occurrence.event := by
  rcases Option.isSome_iff_exists.mp eligible.1 with ⟨statement, found⟩
  rcases Option.bind_eq_some_iff.mp found with ⟨facts, known, _⟩
  exact consistent.logged_of_facts?_eq_some known

theorem eq_of_eligible_of_time_eq (consistent : log.Consistent) {first second : Occurrence}
    (firstEligible : log.Eligible target first) (secondEligible : log.Eligible target second)
    (same : log.time first = log.time second) : first = second :=
  eq_of_time_eq ((mem_occurrences consistent).mpr firstEligible.1)
    ((mem_occurrences consistent).mpr secondEligible.1) consistent same

/-- If some eligible definition of a name comes before a statement, then one of them is nearest. -/
theorem exists_nearestDefinition (consistent : log.Consistent) {name : String}
    {occurrence source : Occurrence} (eligible : log.Eligible target source)
    (defines : log.Defines source name) (before : log.time source < log.time occurrence) :
    ∃ nearest, log.NearestDefinition target name occurrence nearest := by
  let definitions : Set Occurrence := {other | log.Eligible target other ∧ log.Defines other name ∧
    log.time other < log.time occurrence}
  have finite : definitions.Finite := by
    apply (log.chronicle target).finite_toSet.subset
    intro other isDefinition
    exact (mem_chronicle consistent).mpr isDefinition.1
  rcases Set.exists_max_image definitions log.time finite ⟨source, eligible, defines, before⟩ with
    ⟨nearest, ⟨nearestEligible, nearestDefines, nearestBefore⟩, latest⟩
  refine ⟨nearest, nearestEligible, nearestDefines, nearestBefore, ?_⟩
  intro other otherEligible otherDefines otherBefore
  exact latest other ⟨otherEligible, otherDefines, otherBefore⟩

/-! ### Targets with statements -/

/-- The log is consistent, its facts number the statements by place, and the target has
statements. -/
structure Sliceable (log : Log) (target : EventId) : Prop where
  consistent : log.Consistent
  numbered : log.Numbered
  hasStatements : ∃ facts, log.facts? target = some facts ∧ facts.isEmpty = false

/-- What is kept of a record when the statements with the given numbers are. -/
def keep (log : Log) (record : Record) (numbers : List Nat) : Group :=
  (candidateAt log.factsFor log.entries (log.positionOf record.event) record).keep numbers

namespace Sliceable

variable (sliceable : log.Sliceable target)
include sliceable

theorem eligible {occurrence : Occurrence} (kept : occurrence ∈ (log.slice target).occurrences) :
    log.Eligible target occurrence := by
  rcases sliceable.hasStatements with ⟨facts, known, nonempty⟩
  exact (isLeast_occurrences_slice sliceable.consistent sliceable.numbered known nonempty).1
    occurrence kept

theorem closed : log.Closed target {occurrence | occurrence ∈ (log.slice target).occurrences} := by
  rcases sliceable.hasStatements with ⟨facts, known, nonempty⟩
  exact (isLeast_occurrences_slice sliceable.consistent sliceable.numbered known nonempty).2.1

theorem mem_of_event_eq {occurrence : Occurrence} (isTarget : occurrence.event = target)
    (isStatement : (log.statement? occurrence).isSome) :
    occurrence ∈ (log.slice target).occurrences := by
  cases occurrence with
  | mk event index =>
      change event = target at isTarget
      subst isTarget
      exact sliceable.closed.target_mem index isStatement

theorem mem_of_closed {kept : Set Occurrence} (closed : log.Closed target kept)
    {occurrence : Occurrence} (inSlice : occurrence ∈ (log.slice target).occurrences) :
    occurrence ∈ kept := by
  rcases sliceable.hasStatements with ⟨facts, known, nonempty⟩
  exact (isLeast_occurrences_slice sliceable.consistent sliceable.numbered known nonempty).2.2
    closed inSlice

theorem wellShaped : ∃ record ∈ log.entries, record.event = target ∧
    log.WellShaped record (log.slice target).groups := by
  rcases sliceable.hasStatements with ⟨facts, known, _⟩
  have logged := sliceable.consistent.logged_of_facts?_eq_some known
  exact (exists_wellShaped sliceable.consistent sliceable.numbered logged).2

/-- A group keeps some statements of a logged execution. -/
theorem exists_record {group : Group} (member : group ∈ (log.slice target).groups) :
    ∃ record ∈ log.entries, group = log.keep record group.statements ∧ group.statements ≠ [] := by
  rcases sliceable.hasStatements with ⟨facts, known, nonempty⟩
  rcases exists_unfolding_of_facts? sliceable.consistent known with
    ⟨timeline, position, target, rfl, found, unfolding, sameFacts⟩
  rw [← sameFacts] at nonempty
  rw [slice_eq found, Timeline.groups_eq_map_contributors nonempty, List.mem_map] at member
  rcases member with ⟨⟨candidate, rank⟩, contributes, rfl⟩
  rcases Timeline.mem_contributors.mp contributes with ⟨atRank, some⟩
  rcases unfolding.exists_position (List.mem_of_getElem? atRank) with
    ⟨place, record, _, atPlace, rfl⟩
  refine ⟨record, List.mem_of_getElem? atPlace, ?_, some⟩
  rw [keep, positionOf_eq sliceable.consistent atPlace]
  rfl

theorem mem_statements_iff {group : Group} (member : group ∈ (log.slice target).groups)
    {index : Nat} :
    index ∈ group.statements ↔ ⟨group.event, index⟩ ∈ (log.slice target).occurrences := by
  simp only [Slice.occurrences, List.mem_flatMap, List.mem_map]
  constructor
  · intro kept
    exact ⟨group, member, index, kept, rfl⟩
  · rintro ⟨other, otherMember, otherIndex, kept, same⟩
    rw [Occurrence.mk.injEq] at same
    rcases same with ⟨sameEvent, rfl⟩
    rcases sliceable.wellShaped with ⟨_, _, _, shaped⟩
    rwa [← List.inj_on_of_nodup_map shaped.distinct otherMember member sameEvent]

theorem logged_of_mem_groups {group : Group} (member : group ∈ (log.slice target).groups) :
    log.Logged group.event := by
  rcases sliceable.exists_record member with ⟨record, recordMem, isKept, _⟩
  rw [isKept]
  exact ⟨record, recordMem, rfl⟩

/-- The groups are about the executions of the kept statements. -/
theorem mem_events_iff (event : EventId) :
    event ∈ (log.slice target).groups.map (·.event) ↔
      ∃ occurrence ∈ (log.slice target).occurrences, occurrence.event = event := by
  rw [List.mem_map]
  constructor
  · rintro ⟨group, member, rfl⟩
    rcases sliceable.exists_record member with ⟨_, _, _, nonempty⟩
    rcases List.exists_mem_of_ne_nil _ nonempty with ⟨index, kept⟩
    exact ⟨_, (sliceable.mem_statements_iff member).mp kept, rfl⟩
  · rintro ⟨occurrence, kept, rfl⟩
    rcases List.mem_flatMap.mp kept with ⟨group, member, inGroup⟩
    rcases List.mem_map.mp inGroup with ⟨index, _, rfl⟩
    exact ⟨group, member, rfl⟩

end Sliceable

/-- Only targets with statements have slices that keep statements. -/
theorem Consistent.sliceable_of_mem (consistent : log.Consistent) (numbered : log.Numbered)
    {occurrence : Occurrence} (member : occurrence ∈ (log.slice target).occurrences) :
    log.Sliceable target := by
  cases found : log.timeline? target with
  | none => simp [slice, found, Slice.occurrences] at member
  | some timeline =>
      have logged : log.Logged target := by
        rw [consistent.timeline?_eq] at found
        rcases Option.bind_eq_some_iff.mp found with ⟨_, upTo, _⟩
        exact consistent.logged_of_upTo?_eq_some upTo
      rcases logged with ⟨record, recordMem, rfl⟩
      have known := consistent.facts?_eq_some recordMem
      refine ⟨consistent, numbered, _, known, ?_⟩
      rcases exists_unfolding_of_facts? consistent known with ⟨_, _, _, _, foundAgain, _, sameFacts⟩
      rw [found, Option.some.injEq] at foundAgain
      subst foundAgain
      rw [← sameFacts, ← Bool.not_eq_true]
      intro isEmpty
      rw [slice_eq found, Slice.occurrences, Timeline.groups_eq_whole isEmpty] at member
      simp [Candidate.whole, Candidate.group] at member

/-! ### Excerpts -/

/-- The part holds, in the same order, some of what is eligible for the slice of the target in the
whole log, and at least what that slice keeps. `origin` gives the statement of the whole log that a
statement of the part is. -/
structure Excerpt (part whole : Log) (target : EventId) (origin : Occurrence → Occurrence) :
    Prop where
  part_sliceable : part.Sliceable target
  whole_sliceable : whole.Sliceable target
  event_origin : ∀ occurrence, (origin occurrence).event = occurrence.event
  eligible_origin : ∀ occurrence, part.Eligible target occurrence →
    whole.Eligible target (origin occurrence)
  statement_origin : ∀ occurrence statement, part.Eligible target occurrence →
    part.statement? occurrence = some statement →
      ∃ original, whole.statement? (origin occurrence) = some original ∧
        statement.defs = original.defs ∧ statement.uses = original.uses
  key_lt : ∀ first second, part.Logged first → part.Logged second →
    part.key first < part.key second →
    whole.key first < whole.key second
  index_lt : ∀ first second, part.Eligible target first → part.Eligible target second →
    first.event = second.event → first.index < second.index →
      (origin first).index < (origin second).index
  retains : ∀ occurrence ∈ (whole.slice target).occurrences,
    ∃ retained, part.Eligible target retained ∧ origin retained = occurrence

namespace Excerpt

variable {part whole : Log} {origin : Occurrence → Occurrence}
  (excerpt : part.Excerpt whole target origin)
include excerpt

theorem defines_iff {occurrence : Occurrence} (eligible : part.Eligible target occurrence)
    {name : String} :
    part.Defines occurrence name ↔ whole.Defines (origin occurrence) name := by
  rcases Option.isSome_iff_exists.mp eligible.1 with ⟨statement, found⟩
  rcases excerpt.statement_origin occurrence statement eligible found with
    ⟨original, foundOriginal, sameDefs, _⟩
  simp [Defines, found, foundOriginal, sameDefs]

theorem uses_iff {occurrence : Occurrence} (eligible : part.Eligible target occurrence)
    {name : String} :
    part.Uses occurrence name ↔ whole.Uses (origin occurrence) name := by
  rcases Option.isSome_iff_exists.mp eligible.1 with ⟨statement, found⟩
  rcases excerpt.statement_origin occurrence statement eligible found with
    ⟨original, foundOriginal, _, sameUses⟩
  simp [Uses, found, foundOriginal, sameUses]

theorem time_origin_lt {first second : Occurrence} (firstEligible : part.Eligible target first)
    (secondEligible : part.Eligible target second) (less : part.time first < part.time second) :
    whole.time (origin first) < whole.time (origin second) := by
  have partConsistent := excerpt.part_sliceable.consistent
  have wholeConsistent := excerpt.whole_sliceable.consistent
  have firstLogged := logged_of_eligible partConsistent firstEligible
  have secondLogged := logged_of_eligible partConsistent secondEligible
  rw [time_lt_iff wholeConsistent
    (logged_of_eligible wholeConsistent (excerpt.eligible_origin first firstEligible))
    (logged_of_eligible wholeConsistent (excerpt.eligible_origin second secondEligible)),
    excerpt.event_origin, excerpt.event_origin]
  rcases (time_lt_iff partConsistent firstLogged secondLogged).mp less with
    before | ⟨sameEvent, lower⟩
  · exact Or.inl (excerpt.key_lt _ _ firstLogged secondLogged before)
  · exact Or.inr
      ⟨sameEvent, excerpt.index_lt first second firstEligible secondEligible sameEvent lower⟩

/-- The statements of the part stand in the order of the whole log. -/
theorem time_origin_lt_iff {first second : Occurrence} (firstEligible : part.Eligible target first)
    (secondEligible : part.Eligible target second) :
    whole.time (origin first) < whole.time (origin second) ↔
      part.time first < part.time second := by
  constructor
  · intro less
    rcases lt_trichotomy (part.time first) (part.time second) with before | same | after
    · exact before
    · have equal := eq_of_eligible_of_time_eq excerpt.part_sliceable.consistent firstEligible
        secondEligible same
      rw [equal] at less
      exact absurd less (lt_irrefl _)
    · exact absurd less (lt_asymm (excerpt.time_origin_lt secondEligible firstEligible after))
  · exact excerpt.time_origin_lt firstEligible secondEligible

theorem time_origin_le_iff {first second : Occurrence} (firstEligible : part.Eligible target first)
    (secondEligible : part.Eligible target second) :
    whole.time (origin first) ≤ whole.time (origin second) ↔
      part.time first ≤ part.time second := by
  rw [← not_lt, ← not_lt, excerpt.time_origin_lt_iff secondEligible firstEligible]

theorem eq_of_origin_eq {first second : Occurrence} (firstEligible : part.Eligible target first)
    (secondEligible : part.Eligible target second) (same : origin first = origin second) :
    first = second := by
  apply eq_of_eligible_of_time_eq excerpt.part_sliceable.consistent firstEligible secondEligible
  apply le_antisymm
  · rw [← excerpt.time_origin_le_iff firstEligible secondEligible, same]
  · rw [← excerpt.time_origin_le_iff secondEligible firstEligible, same]

/-! ### Kept statements -/

/-- What is nearest in the part to a kept statement is kept in the whole log. -/
theorem origin_mem_of_nearest {name : String} {occurrence source : Occurrence}
    (eligible : part.Eligible target occurrence)
    (kept : origin occurrence ∈ (whole.slice target).occurrences) (uses : part.Uses occurrence name)
    (nearest : part.NearestDefinition target name occurrence source) :
    origin source ∈ (whole.slice target).occurrences := by
  have wholeConsistent := excerpt.whole_sliceable.consistent
  have sourceEligible := excerpt.eligible_origin source nearest.eligible
  have sourceBefore := excerpt.time_origin_lt nearest.eligible eligible nearest.before
  -- The whole log has a nearest definition, too. It is kept, hence retained.
  rcases exists_nearestDefinition wholeConsistent sourceEligible
    ((excerpt.defines_iff nearest.eligible).mp nearest.defines) sourceBefore with
      ⟨wholeSource, wholeNearest⟩
  have wholeKept := excerpt.whole_sliceable.closed.source_mem _ kept name
    ((excerpt.uses_iff eligible).mp uses) wholeSource wholeNearest
  rcases excerpt.retains wholeSource wholeKept with ⟨retained, retainedEligible, rfl⟩
  -- So it cannot come after the nearest definition in the part, nor before it.
  have notAfter : part.time retained ≤ part.time source := by
    apply nearest.latest retained retainedEligible
    · exact (excerpt.defines_iff retainedEligible).mpr wholeNearest.defines
    · exact (excerpt.time_origin_lt_iff retainedEligible eligible).mp wholeNearest.before
  have notBefore : whole.time (origin source) ≤ whole.time (origin retained) :=
    wholeNearest.latest (origin source) sourceEligible
      ((excerpt.defines_iff nearest.eligible).mp nearest.defines) sourceBefore
  have same : whole.time (origin source) = whole.time (origin retained) :=
    le_antisymm notBefore
      ((excerpt.time_origin_le_iff retainedEligible nearest.eligible).mpr notAfter)
  rwa [eq_of_eligible_of_time_eq wholeConsistent sourceEligible wholeNearest.eligible same]

/-- A retained definition that is nearest in the whole log is nearest in the part. -/
theorem nearest_of_nearest_origin {name : String} {occurrence source : Occurrence}
    (eligible : part.Eligible target occurrence) (sourceEligible : part.Eligible target source)
    (nearest : whole.NearestDefinition target name (origin occurrence) (origin source)) :
    part.NearestDefinition target name occurrence source where
  eligible := sourceEligible
  defines := (excerpt.defines_iff sourceEligible).mpr nearest.defines
  before := (excerpt.time_origin_lt_iff sourceEligible eligible).mp nearest.before
  latest := by
    intro other otherEligible otherDefines otherBefore
    rw [← excerpt.time_origin_le_iff otherEligible sourceEligible]
    apply nearest.latest (origin other) (excerpt.eligible_origin other otherEligible)
    · exact (excerpt.defines_iff otherEligible).mp otherDefines
    · exact excerpt.time_origin_lt otherEligible eligible otherBefore

theorem origin_mem_of_mem {occurrence : Occurrence}
    (kept : occurrence ∈ (part.slice target).occurrences) :
    origin occurrence ∈ (whole.slice target).occurrences := by
  have closed : part.Closed target {occurrence | part.Eligible target occurrence ∧
      origin occurrence ∈ (whole.slice target).occurrences} := by
    constructor
    · intro index isStatement
      have eligible : part.Eligible target ⟨target, index⟩ := ⟨isStatement, Or.inl rfl⟩
      exact ⟨eligible, excerpt.whole_sliceable.mem_of_event_eq (excerpt.event_origin _)
        (excerpt.eligible_origin _ eligible).1⟩
    · rintro occurrence ⟨eligible, kept⟩ name uses source nearest
      exact ⟨nearest.eligible, excerpt.origin_mem_of_nearest eligible kept uses nearest⟩
  exact (excerpt.part_sliceable.mem_of_closed closed kept).2

theorem exists_mem_of_mem {occurrence : Occurrence}
    (kept : occurrence ∈ (whole.slice target).occurrences) :
    ∃ retained ∈ (part.slice target).occurrences, origin retained = occurrence := by
  have closed : whole.Closed target {occurrence | occurrence ∈ (whole.slice target).occurrences ∧
      ∃ retained ∈ (part.slice target).occurrences, origin retained = occurrence} := by
    constructor
    · intro index isStatement
      have inSlice := excerpt.whole_sliceable.closed.target_mem index isStatement
      rcases excerpt.retains _ inSlice with ⟨retained, eligible, isOrigin⟩
      have isTarget : retained.event = target := by
        rw [← excerpt.event_origin retained, isOrigin]
      exact ⟨inSlice, retained,
        excerpt.part_sliceable.mem_of_event_eq isTarget eligible.1, isOrigin⟩
    · rintro _ ⟨inSlice, occurrence, inPart, rfl⟩ name uses source nearest
      have eligible := excerpt.part_sliceable.eligible inPart
      have sourceInSlice :=
        excerpt.whole_sliceable.closed.source_mem _ inSlice name uses source nearest
      rcases excerpt.retains source sourceInSlice with ⟨retained, retainedEligible, rfl⟩
      refine ⟨sourceInSlice, retained, ?_, rfl⟩
      apply excerpt.part_sliceable.closed.source_mem occurrence inPart name
      · exact (excerpt.uses_iff eligible).mpr uses
      · exact excerpt.nearest_of_nearest_origin eligible retainedEligible nearest
  exact (excerpt.whole_sliceable.mem_of_closed closed kept).2

/-- The slice in the part keeps what the slice in the whole log keeps. -/
theorem mem_iff_origin_mem {occurrence : Occurrence} (eligible : part.Eligible target occurrence) :
    occurrence ∈ (part.slice target).occurrences ↔
      origin occurrence ∈ (whole.slice target).occurrences := by
  constructor
  · exact excerpt.origin_mem_of_mem
  · intro kept
    rcases excerpt.exists_mem_of_mem kept with ⟨retained, inPart, same⟩
    rwa [← excerpt.eq_of_origin_eq (excerpt.part_sliceable.eligible inPart) eligible same]

/-! ### Groups -/

theorem mem_events_iff (event : EventId) :
    event ∈ (part.slice target).groups.map (·.event) ↔
      event ∈ (whole.slice target).groups.map (·.event) := by
  rw [excerpt.part_sliceable.mem_events_iff, excerpt.whole_sliceable.mem_events_iff]
  constructor
  · rintro ⟨occurrence, kept, rfl⟩
    exact ⟨origin occurrence, excerpt.origin_mem_of_mem kept, excerpt.event_origin occurrence⟩
  · rintro ⟨occurrence, kept, rfl⟩
    rcases excerpt.exists_mem_of_mem kept with ⟨retained, inPart, rfl⟩
    exact ⟨retained, inPart, (excerpt.event_origin retained).symm⟩

/-- The groups of both slices are about the same executions, in the same order. -/
theorem events_eq :
    (part.slice target).groups.map (·.event) = (whole.slice target).groups.map (·.event) := by
  rcases excerpt.part_sliceable.wellShaped with ⟨_, _, _, partShaped⟩
  rcases excerpt.whole_sliceable.wellShaped with ⟨_, _, _, wholeShaped⟩
  apply eq_of_pairwise_lt whole.key _ _ excerpt.mem_events_iff
  · rw [List.pairwise_map]
    apply partShaped.keys_increase.imp_of_mem
    intro first second firstMem secondMem less
    exact excerpt.key_lt _ _ (excerpt.part_sliceable.logged_of_mem_groups firstMem)
      (excerpt.part_sliceable.logged_of_mem_groups secondMem) less
  · rw [List.pairwise_map]
    exact wholeShaped.keys_increase

theorem map_groups_eq {α : Type} {view wholeView : Group → α}
    (agree : ∀ group ∈ (part.slice target).groups, ∀ other ∈ (whole.slice target).groups,
      group.event = other.event → view group = wholeView other) :
    (part.slice target).groups.map view = (whole.slice target).groups.map wholeView :=
  map_eq_map_of_map_eq excerpt.events_eq agree

end Excerpt

end Log

end NotebookSlice

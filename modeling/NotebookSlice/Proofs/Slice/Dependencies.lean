import Mathlib.Order.Bounds.Basic
import NotebookSlice.Proofs.Slice.Chronology

/-!
# Slices are closed under dependencies

The slice of a target keeps the least set of statements that contains all statements of the target
and, with each statement, the nearest definitions of the names that it uses.

The search reaches exactly the sites that the target needs, so the proof carries what is known about
sites over to the occurrences that they stand for: what is needed is eligible, is closed under
nearest definitions, and lies in each set that is so closed.
-/

namespace NotebookSlice

namespace Analyzer

/-- The facts that an analyzer finds about any text number the statements by place. -/
def Numbers (analyzer : Analyzer) : Prop :=
  ∀ text facts, analyzer.analyze text = .ok facts → facts.Numbered

/-- An analyzer that knows the facts about some texts. -/
def ofTable (table : List (String × Facts)) : Analyzer where
  name := "table"
  analyze text :=
    match table.lookup text with
    | some facts => .ok facts
    | none => .error .unknownText

theorem numbers_ofTable {table : List (String × Facts)}
    (numbered : ∀ entry ∈ table, entry.2.Numbered) : (ofTable table).Numbers := by
  intro text facts analyzed
  simp only [ofTable] at analyzed
  cases found : table.lookup text with
  | none => simp [found] at analyzed
  | some known =>
      simp only [found, Except.ok.injEq] at analyzed
      subst analyzed
      rcases List.lookup_eq_some_iff.mp found with ⟨before, after, rfl, _⟩
      exact numbered (text, known) (by simp)

end Analyzer

namespace Slice

/-- The statements that a slice keeps, group by group. -/
def occurrences (slice : Slice) : List Occurrence :=
  slice.groups.flatMap fun group => group.statements.map fun index => ⟨group.event, index⟩

end Slice

namespace Log

/-- All facts in the log number the statements by place. -/
def Numbered (log : Log) : Prop := ∀ event facts, log.facts? event = some facts → facts.Numbered

/-- The set contains all statements of the target and, with each statement, the nearest definitions
of the names that it uses. -/
structure Closed (log : Log) (target : EventId) (kept : Set Occurrence) : Prop where
  target_mem : ∀ index, (log.statement? ⟨target, index⟩).isSome → ⟨target, index⟩ ∈ kept
  source_mem : ∀ occurrence ∈ kept, ∀ name, log.Uses occurrence name →
    ∀ source, log.NearestDefinition target name occurrence source → source ∈ kept

theorem Consistent.numbered {log : Log} (consistent : log.Consistent)
    (numbers : log.analyzer.Numbers) :
    log.Numbered := by
  intro event facts known
  rw [consistent.facts?_eq, Option.map_eq_some_iff] at known
  rcases known with ⟨record, _, rfl⟩
  cases result : log.analyzer.analyze record.text with
  | ok facts => exact numbers record.text facts result
  | error error => exact rfl

theorem factsFor_numbered {log : Log} (numbered : log.Numbered) (record : Record) :
    (log.factsFor record).Numbered := by
  rw [factsFor]
  cases known : log.facts? record.event with
  | none => exact rfl
  | some facts => exact numbered record.event facts known

theorem Unfolding.numbered {log : Log} {timeline : Timeline} {position : Nat} {target : Record}
    (unfolding : log.Unfolding timeline position target) (numbered : log.Numbered) :
    timeline.Numbered := by
  intro candidate member
  rcases unfolding.exists_position member with ⟨place, record, _, _, rfl⟩
  exact factsFor_numbered numbered record

end Log

namespace Timeline

theorem mem_numbersAt {sites : List Site} {rank index : Nat} :
    index ∈ numbersAt sites rank ↔ ⟨rank, index⟩ ∈ sites := by
  simp only [numbersAt, List.mem_mergeSort, List.mem_eraseDups, List.mem_map,
    List.mem_filter, beq_iff_eq]
  constructor
  · rintro ⟨site, ⟨member, rfl⟩, rfl⟩
    exact member
  · intro member
    exact ⟨⟨rank, index⟩, ⟨member, rfl⟩, rfl⟩

/-- The occurrences that the groups of a timeline keep, read off the needed sites. -/
theorem flatMap_groups (timeline : Timeline) (nonempty : timeline.target.facts.isEmpty = false) :
    (timeline.groups.flatMap fun group =>
        group.statements.map fun index => (⟨group.event, index⟩ : Occurrence)) =
      timeline.members.zipIdx.flatMap fun (candidate, rank) =>
        (numbersAt timeline.needed rank).map fun index => ⟨candidate.record.event, index⟩ := by
  rw [groups, nonempty]
  simp only [Bool.false_eq_true, if_false]
  induction timeline.members.zipIdx with
  | nil => rfl
  | cons head tail ih =>
      rcases head with ⟨candidate, rank⟩
      rw [List.flatMap_cons, ← ih, List.filterMap_cons]
      cases numbers : numbersAt timeline.needed rank with
      | nil => simp
      | cons number others => simp [Candidate.keep, Candidate.group]

/-- Under a numbering by place, what the target needs are statements from which definitions may
come. -/
theorem exists_supplies_of_mem_needed {timeline : Timeline}
    (numbered : timeline.Numbered) {site : Site} (isNeeded : site ∈ timeline.needed) :
    ∃ statement, timeline.Supplies site statement := by
  apply mem_of_mem_needed (fun site => ∃ statement, timeline.Supplies site statement) _ _ isNeeded
  · intro seed seedMem
    rcases List.mem_map.mp seedMem with ⟨statement, member, rfl⟩
    have targetNumbered := numbered timeline.target (by simp [members])
    refine ⟨statement, timeline.target, ?_, Or.inr rfl, targetNumbered.mem_iff.mp ⟨member, rfl⟩⟩
    simp [members]
  · intro other _ source depends
    rcases (mem_sources_definitions_iff numbered).mp depends with ⟨_, _, name, _, nearest⟩
    rcases nearest.1 with ⟨statement, supplies, _⟩
    exact ⟨statement, supplies⟩

end Timeline

namespace Log

theorem slice_eq {log : Log} {timeline : Timeline} {event : EventId}
    (found : log.timeline? event = some timeline) :
    log.slice event = { target := some event, groups := timeline.groups } := by
  rw [slice, found]

/-- The slice of a session follows from its records up to the execution and from what the analyzer
finds about their texts. -/
theorem slice_run_empty_eq {analyzer : Analyzer} {operations : List Operation} {event : EventId}
    {timeline : Timeline} (history : List Record)
    (upTo : ((Journal.run operations).findIdx? (·.event == event)).map
      (fun position => (Journal.run operations).take (position + 1)) = some history)
    (found : Timeline.ofHistory? (fun record => (analyzer.analyze record.text).toOption.getD {})
      history = some timeline) :
    ((empty analyzer).run operations).slice event =
      { target := some event, groups := timeline.groups } := by
  have consistent := consistent_run_empty analyzer operations
  apply slice_eq
  rw [consistent.timeline?_eq, consistent.upTo?_eq, entries_run_empty, upTo, Option.bind_some,
    analyzer_run]
  exact found

/-- A slice keeps the occurrences of the sites that are needed. -/
theorem mem_occurrences_slice_iff {log : Log} {timeline : Timeline} {event : EventId}
    (found : log.timeline? event = some timeline) (nonempty : timeline.target.facts.isEmpty = false)
    {occurrence : Occurrence} :
    occurrence ∈ (log.slice event).occurrences ↔
      ∃ site ∈ timeline.needed, timeline.Locates site occurrence := by
  rw [slice_eq found, Slice.occurrences, Timeline.flatMap_groups timeline nonempty]
  simp only [List.mem_flatMap, Prod.exists, List.mem_zipIdx_iff_getElem?, List.mem_map,
    Timeline.mem_numbersAt]
  constructor
  · rintro ⟨candidate, rank, atRank, index, isNeeded, rfl⟩
    exact ⟨⟨rank, index⟩, isNeeded, candidate, atRank, rfl, rfl⟩
  · rintro ⟨site, isNeeded, candidate, atRank, sameEvent, sameIndex⟩
    refine ⟨candidate, site.rank, atRank, site.index, isNeeded, ?_⟩
    rw [sameEvent, sameIndex]

theorem exists_unfolding_of_facts? {log : Log} (consistent : log.Consistent) {event : EventId}
    {facts : Facts} (known : log.facts? event = some facts) :
    ∃ timeline position target, target.event = event ∧ log.timeline? event = some timeline ∧
      log.Unfolding timeline position target ∧ timeline.target.facts = facts := by
  have logged := consistent.logged_of_facts?_eq_some known
  rcases exists_unfolding consistent logged with ⟨timeline, position, target, rfl, found, unfolding⟩
  refine ⟨timeline, position, target, rfl, found, unfolding, ?_⟩
  rw [unfolding.covers.target_eq]
  simp [candidateAt, factsFor, known]

namespace Unfolding

variable {log : Log} {timeline : Timeline} {position : Nat} {target : Record}

theorem eligible_of_mem_needed (unfolding : log.Unfolding timeline position target)
    (numbered : log.Numbered) {site : Site} (isNeeded : site ∈ timeline.needed)
    {occurrence : Occurrence} (locates : timeline.Locates site occurrence) :
    log.Eligible target.event occurrence := by
  rcases Timeline.exists_supplies_of_mem_needed (unfolding.numbered numbered) isNeeded with
    ⟨statement, supplies⟩
  exact ((unfolding.supplies_iff locates).mp supplies).1

theorem mem_needed_of_statement (unfolding : log.Unfolding timeline position target)
    (numbered : log.Numbered) {index : Nat}
    (isStatement : (log.statement? ⟨target.event, index⟩).isSome) :
    ⟨timeline.earlier.length, index⟩ ∈ timeline.needed := by
  apply Timeline.mem_needed_of_mem_seeds
  rw [unfolding.statement?_eq (unfolding.locates_target index), Timeline.statementAt?,
    Timeline.getElem?_members_length, Option.bind_some] at isStatement
  rcases Option.isSome_iff_exists.mp isStatement with ⟨statement, atIndex⟩
  have targetNumbered := unfolding.numbered numbered timeline.target (by simp [Timeline.members])
  rcases targetNumbered.mem_iff.mpr atIndex with ⟨member, rfl⟩
  exact List.mem_map.mpr ⟨statement, member, rfl⟩

theorem mem_needed_of_nearest (unfolding : log.Unfolding timeline position target)
    (numbered : log.Numbered) {site : Site} (isNeeded : site ∈ timeline.needed)
    {occurrence source : Occurrence} (locates : timeline.Locates site occurrence) {name : String}
    (uses : log.Uses occurrence name)
    (nearest : log.NearestDefinition target.event name occurrence source) :
    ∃ sourceSite ∈ timeline.needed, timeline.Locates sourceSite source := by
  rcases unfolding.exists_locates_of_eligible nearest.eligible with ⟨sourceSite, locatesSource⟩
  refine ⟨sourceSite, ?_, locatesSource⟩
  apply Timeline.mem_needed_of_mem_sources isNeeded
  rcases uses with ⟨statement, isStatement, nameMem⟩
  rw [unfolding.statement?_eq locates] at isStatement
  rw [Timeline.mem_sources_definitions_iff (unfolding.numbered numbered)]
  exact ⟨statement, isStatement, name, nameMem,
    (unfolding.nearest_iff locates locatesSource).mpr nearest⟩

/-- What the target needs lies in each closed set. -/
theorem mem_of_closed (unfolding : log.Unfolding timeline position target) (numbered : log.Numbered)
    {kept : Set Occurrence} (closed : log.Closed target.event kept) {site : Site}
    (isNeeded : site ∈ timeline.needed) {occurrence : Occurrence}
    (locates : timeline.Locates site occurrence) : occurrence ∈ kept := by
  have timelineNumbered := unfolding.numbered numbered
  have keptSite : ∃ other ∈ kept, timeline.Locates site other := by
    apply Timeline.mem_of_mem_needed
      (fun site => ∃ other ∈ kept, timeline.Locates site other) _ _ isNeeded
    · intro seed seedMem
      have isNeeded := Timeline.mem_needed_of_mem_seeds seedMem
      rcases Timeline.exists_supplies_of_mem_needed timelineNumbered isNeeded with
        ⟨statement, supplies⟩
      rcases List.mem_map.mp seedMem with ⟨seedStatement, _, rfl⟩
      have located := unfolding.locates_target seedStatement.index
      refine ⟨_, closed.target_mem seedStatement.index ?_, located⟩
      rw [((unfolding.supplies_iff located).mp supplies).2]
      rfl
    · rintro other ⟨otherOccurrence, otherMem, locatesOther⟩ source depends
      rcases (Timeline.mem_sources_definitions_iff timelineNumbered).mp depends with
        ⟨statement, isStatement, name, nameMem, nearest⟩
      rcases Timeline.exists_locates_of_defines nearest.1 with ⟨sourceOccurrence, locatesSource⟩
      refine ⟨sourceOccurrence, ?_, locatesSource⟩
      apply closed.source_mem otherOccurrence otherMem name
      · exact ⟨statement, (unfolding.statement?_eq locatesOther).trans isStatement, nameMem⟩
      · exact (unfolding.nearest_iff locatesOther locatesSource).mp nearest
  rcases keptSite with ⟨other, otherMem, locatesOther⟩
  rwa [Timeline.occurrence_eq_of_locates locates locatesOther]

end Unfolding

theorem isLeast_occurrences_slice {log : Log} (consistent : log.Consistent)
    (numbered : log.Numbered) {target : EventId} {facts : Facts}
    (known : log.facts? target = some facts) (nonempty : facts.isEmpty = false) :
    (∀ occurrence ∈ (log.slice target).occurrences, log.Eligible target occurrence) ∧
      IsLeast {kept | log.Closed target kept}
        {occurrence | occurrence ∈ (log.slice target).occurrences} := by
  rcases exists_unfolding_of_facts? consistent known with
    ⟨timeline, position, record, rfl, found, unfolding, sameFacts⟩
  rw [← sameFacts] at nonempty
  have keeps : ∀ occurrence, occurrence ∈ (log.slice record.event).occurrences ↔
      ∃ site ∈ timeline.needed, timeline.Locates site occurrence :=
    fun occurrence => mem_occurrences_slice_iff found nonempty
  simp only [keeps]
  refine ⟨?_, ⟨?_, ?_⟩, ?_⟩
  · rintro occurrence ⟨site, isNeeded, locates⟩
    exact unfolding.eligible_of_mem_needed numbered isNeeded locates
  · intro index isStatement
    exact ⟨_, unfolding.mem_needed_of_statement numbered isStatement,
      unfolding.locates_target index⟩
  · rintro occurrence ⟨site, isNeeded, locates⟩ name uses source nearest
    exact unfolding.mem_needed_of_nearest numbered isNeeded locates uses nearest
  · rintro kept closed occurrence ⟨site, isNeeded, locates⟩
    exact unfolding.mem_of_closed numbered closed isNeeded locates

/-- The slice of a logged execution with statements keeps eligible statements only, and it keeps the
least set of statements that contains those of the execution and is closed under nearest
definitions. -/
theorem slice_isLeast_closed (analyzer : Analyzer) (numbers : analyzer.Numbers)
    (operations : List Operation) (target : EventId) (facts : Facts)
    (known : ((empty analyzer).run operations).facts? target = some facts)
    (nonempty : facts.isEmpty = false) :
    let log := (empty analyzer).run operations
    (∀ occurrence ∈ (log.slice target).occurrences, log.Eligible target occurrence) ∧
      IsLeast {kept | log.Closed target kept}
        {occurrence | occurrence ∈ (log.slice target).occurrences} := by
  have consistent := consistent_run_empty analyzer operations
  have numbered : ((empty analyzer).run operations).Numbered :=
    consistent.numbered (by rwa [analyzer_run])
  exact isLeast_occurrences_slice consistent numbered known nonempty

end Log

namespace Sample

/-- Facts about the cells of a small session. -/
def table : List (String × Facts) :=
  [("x = 1", ⟨[⟨0, 0, 0, .ofList ["x"], ∅⟩]⟩),
   ("y = x\nx = 2", ⟨[⟨0, 0, 0, .ofList ["y"], .ofList ["x"]⟩, ⟨1, 1, 1, .ofList ["x"], ∅⟩]⟩),
   ("x = z()", ⟨[⟨0, 0, 0, .ofList ["x"], .ofList ["z"]⟩]⟩),
   ("w = x + y", ⟨[⟨0, 0, 0, .ofList ["w"], .ofList ["x", "y"]⟩]⟩)]

/-- A session that starts over, reports two cells in the wrong order, and has a cell that fails. -/
def operations : List Operation :=
  [.append ⟨⟨"a"⟩, ⟨"e0"⟩, "x = 1", some 9, false⟩,
   .reset,
   .append ⟨⟨"a"⟩, ⟨"e1"⟩, "y = x\nx = 2", some 2, false⟩,
   .append ⟨⟨"b"⟩, ⟨"e2"⟩, "x = 1", some 1, false⟩,
   .append ⟨⟨"c"⟩, ⟨"e3"⟩, "x = z()", none, true⟩,
   .append ⟨⟨"c"⟩, ⟨"e4"⟩, "w = x + y", some 3, false⟩]

/-- The log of the session. -/
def log : Log := (Log.empty (Analyzer.ofTable table)).run operations

theorem numbers_table : (Analyzer.ofTable table).Numbers :=
  Analyzer.numbers_ofTable (by decide)

theorem numbered_log : log.Numbered :=
  (Log.consistent_run_empty _ operations).numbered (by rw [Log.analyzer_run]; exact numbers_table)

theorem logged_log : log.Logged ⟨"e4"⟩ := by
  rw [Log.Logged, log, Log.entries_run_empty]
  decide +kernel

/-- The facts about the last cell of the session. -/
def facts : Facts := ⟨[⟨0, 0, 0, .ofList ["w"], .ofList ["x", "y"]⟩]⟩

theorem facts?_log : log.facts? ⟨"e4"⟩ = some facts := by
  have consistent := Log.consistent_run_empty (Analyzer.ofTable table) operations
  rw [log, consistent.facts?_eq, Log.entries_run_empty, Log.analyzer_run]
  decide +kernel

end Sample

namespace Log

theorem slice_isLeast_closed_sample :
    (Analyzer.ofTable Sample.table).Numbers ∧ Sample.log.facts? ⟨"e4"⟩ = some Sample.facts ∧
      Sample.facts.isEmpty = false ∧
      (∀ occurrence ∈ (Sample.log.slice ⟨"e4"⟩).occurrences,
        Sample.log.Eligible ⟨"e4"⟩ occurrence) ∧
      IsLeast {kept | Sample.log.Closed ⟨"e4"⟩ kept}
        {occurrence | occurrence ∈ (Sample.log.slice ⟨"e4"⟩).occurrences} :=
  ⟨Sample.numbers_table, Sample.facts?_log, rfl,
    slice_isLeast_closed (Analyzer.ofTable Sample.table) Sample.numbers_table
      Sample.operations ⟨"e4"⟩
      Sample.facts Sample.facts?_log rfl⟩

end Log

end NotebookSlice

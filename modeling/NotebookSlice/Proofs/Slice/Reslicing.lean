import NotebookSlice.Proofs.Slice.Irrelevance

/-!
# Slicing a slice

The groups of a slice can be logged as executions of their own, each with its kept text. If an
analyzer finds in these texts the kept statements, numbered anew, then the target has a slice with
the same groups in the new log, and this slice keeps everything.

The new log is an excerpt of the old one, in which the origin of a statement is the statement that
it was before it was numbered anew. A record without a count may take its ordinal from another
record than it did before. But the counts that are present ascend along a slice, so the ordinals in
force do as well, and the records keep their order.
-/

namespace NotebookSlice

/-! ### Ordinals along ascending counts -/

theorem ordinalAt_eq_getLast? (records : List Record) (position : Nat) :
    ordinalAt records position =
      ((((records.take (position + 1)).filterMap (·.count)).getLast?).map UInt32.toNat).getD 0 := by
  rw [ordinalAt, List.getLast?_filterMap]

/-- If the counts that are present ascend, then so do the ordinals in force. -/
theorem ordinalAt_le {records : List Record}
    (ascend : (records.filterMap (·.count)).Pairwise (· ≤ ·)) {first second : Nat}
    (notAfter : first ≤ second) : ordinalAt records first ≤ ordinalAt records second := by
  rcases List.take_prefix_take_left (Nat.succ_le_succ notAfter) (l := records) with ⟨between, split⟩
  have counts : (records.take (second + 1)).filterMap (·.count) =
      (records.take (first + 1)).filterMap (·.count) ++ between.filterMap (·.count) := by
    rw [← List.filterMap_append, split]
  have upToSecond : ((records.take (second + 1)).filterMap (·.count)).Pairwise (· ≤ ·) :=
    ascend.sublist ((List.take_sublist _ _).filterMap _)
  rw [counts, List.pairwise_append] at upToSecond
  rw [ordinalAt_eq_getLast?, ordinalAt_eq_getLast?, counts, List.getLast?_append]
  -- Without a count in between, the same count is in force at both positions.
  cases after : (between.filterMap (·.count)).getLast? with
  | none => simp
  | some count =>
      cases before : ((records.take (first + 1)).filterMap (·.count)).getLast? with
      | none => simp
      | some earlier =>
          have ascends := upToSecond.2.2 earlier (List.mem_of_getLast? before) count
            (List.mem_of_getLast? after)
          simpa using UInt32.le_iff_toNat_le.mp ascends

namespace Log

variable {log : Log} {target : EventId}

/-! ### The log of a slice -/

/-- What a group keeps, as the record of an execution. -/
def keptRecord (log : Log) (group : Group) : Record where
  cell := group.cell
  event := group.event
  text := group.text
  count := group.count
  failed := (log.record? group.event).any (·.failed)

/-- The log of the groups of a slice, in their order. -/
def sliceLog (log : Log) (target : EventId) (analyzer : Analyzer) : Log :=
  (empty analyzer).run ((log.slice target).groups.map fun group => .append (log.keptRecord group))

/-- The facts are about the statements that a group keeps: in the same order, with the same
definitions and uses, and numbered from zero. -/
structure Restates (log : Log) (group : Group) (facts : Facts) : Prop where
  numbered : facts.Numbered
  statements : List.Forall₂ (fun index statement =>
    ∃ original, log.statement? ⟨group.event, index⟩ = some original ∧
      statement.defs = original.defs ∧
        statement.uses = original.uses) group.statements facts.statements

/-- No kept text is blank, and the analyzer finds the kept statements in each of them. -/
def Rereads (log : Log) (target : EventId) (analyzer : Analyzer) : Prop :=
  ∀ group ∈ (log.slice target).groups, Text.isBlankText group.text = false ∧
    ∃ facts, analyzer.analyze group.text = .ok facts ∧ log.Restates group facts

/-- The statement that a statement of the new log was in the old one. -/
def originIn (groups : List Group) (occurrence : Occurrence) : Occurrence where
  event := occurrence.event
  index :=
    ((groups.find? (·.event == occurrence.event)).bind (·.statements[occurrence.index]?)).getD 0

theorem consistent_sliceLog (log : Log) (target : EventId) (analyzer : Analyzer) :
    (log.sliceLog target analyzer).Consistent :=
  consistent_run_empty _ _

namespace Restates

variable {group : Group} {facts : Facts}

theorem exists_original (restates : log.Restates group facts) {index : Nat} {statement : Statement}
    (atIndex : facts.statements[index]? = some statement) :
    ∃ number original, group.statements[index]? = some number ∧
      log.statement? ⟨group.event, number⟩ = some original ∧
      statement.defs = original.defs ∧ statement.uses = original.uses := by
  rcases List.forall₂_iff_get.mp restates.statements with ⟨sameLength, same⟩
  rcases List.getElem?_eq_some_iff.mp atIndex with ⟨within, rfl⟩
  have groupWithin : index < group.statements.length := sameLength ▸ within
  rcases same index groupWithin within with ⟨original, found, sameDefs, sameUses⟩
  exact ⟨_, original, List.getElem?_eq_getElem groupWithin, found, sameDefs, sameUses⟩

theorem length_eq (restates : log.Restates group facts) :
    facts.statements.length = group.statements.length :=
  restates.statements.length_eq.symm

end Restates

namespace Sliceable

variable (sliceable : log.Sliceable target) {analyzer : Analyzer}
  (rereads : log.Rereads target analyzer)
include sliceable

theorem distinct_events : ((log.slice target).groups.map (·.event)).Nodup := by
  rcases sliceable.wellShaped with ⟨_, _, _, shaped⟩
  exact shaped.distinct

theorem originIn_eq {group : Group} (member : group ∈ (log.slice target).groups)
    {index number : Nat} (atIndex : group.statements[index]? = some number) :
    originIn (log.slice target).groups ⟨group.event, index⟩ = ⟨group.event, number⟩ := by
  have found := (find?_label_eq_some_iff sliceable.distinct_events).mpr ⟨member, rfl⟩
  simp only [originIn, found, Option.bind_some, atIndex, Option.getD_some]

theorem failed_keptRecord {group : Group} (member : group ∈ (log.slice target).groups)
    (notTarget : group.event ≠ target) : (log.keptRecord group).failed = false := by
  rcases sliceable.wellShaped with ⟨_, _, rfl, shaped⟩
  rcases sliceable.logged_of_mem_groups member with ⟨record, recordMem, sameEvent⟩
  have found := sliceable.consistent.find?_eq_some_iff.mpr ⟨recordMem, sameEvent⟩
  have succeeded := shaped.not_failed group member notTarget record recordMem sameEvent
  simp only [keptRecord, sliceable.consistent.record?_eq, found, Option.any_some, succeeded]

include rereads

theorem entries_sliceLog :
    (log.sliceLog target analyzer).entries = (log.slice target).groups.map log.keptRecord := by
  have asRecords :
      ((log.slice target).groups.map fun group => Operation.append (log.keptRecord group)) =
      ((log.slice target).groups.map log.keptRecord).map Operation.append := by
    rw [List.map_map]
    rfl
  rw [sliceLog, asRecords, entries_run_append]
  · rw [List.map_map]
    exact sliceable.distinct_events
  · intro record member
    rcases List.mem_map.mp member with ⟨group, groupMem, rfl⟩
    exact (rereads group groupMem).1

theorem keptRecord_mem_entries {group : Group} (member : group ∈ (log.slice target).groups) :
    log.keptRecord group ∈ (log.sliceLog target analyzer).entries := by
  rw [sliceable.entries_sliceLog rereads]
  exact List.mem_map_of_mem member

theorem exists_group_of_logged {event : EventId}
    (logged : (log.sliceLog target analyzer).Logged event) :
    ∃ group ∈ (log.slice target).groups, group.event = event := by
  rcases logged with ⟨record, member, rfl⟩
  rw [sliceable.entries_sliceLog rereads, List.mem_map] at member
  rcases member with ⟨group, groupMem, rfl⟩
  exact ⟨group, groupMem, rfl⟩

theorem facts?_sliceLog {group : Group} (member : group ∈ (log.slice target).groups) :
    ∃ facts, (log.sliceLog target analyzer).facts? group.event = some facts ∧
      log.Restates group facts := by
  rcases rereads group member with ⟨_, facts, understood, restates⟩
  have known := (consistent_sliceLog log target analyzer).facts?_eq_some
    (sliceable.keptRecord_mem_entries rereads member)
  have sameAnalyzer : (log.sliceLog target analyzer).analyzer = analyzer := analyzer_run _ _
  change _ =
    some (((log.sliceLog target analyzer).analyzer.analyze group.text).toOption.getD {}) at known
  rw [sameAnalyzer, understood] at known
  exact ⟨facts, known, restates⟩

theorem numbered_sliceLog : (log.sliceLog target analyzer).Numbered := by
  intro event facts known
  have logged := (consistent_sliceLog log target analyzer).logged_of_facts?_eq_some known
  rcases sliceable.exists_group_of_logged rereads logged with ⟨group, member, rfl⟩
  rcases sliceable.facts?_sliceLog rereads member with ⟨groupFacts, groupKnown, restates⟩
  rw [known, Option.some.injEq] at groupKnown
  rw [groupKnown]
  exact restates.numbered

/-! ### Order and eligibility in the log of a slice -/

theorem pairwise_positionOf_sliceLog :
    (log.slice target).groups.Pairwise fun first second =>
      (log.sliceLog target analyzer).positionOf first.event <
        (log.sliceLog target analyzer).positionOf second.event := by
  have ordered := pairwise_positionOf (consistent_sliceLog log target analyzer)
  rwa [sliceable.entries_sliceLog rereads, List.pairwise_map] at ordered

theorem pairwise_key_sliceLog :
    (log.slice target).groups.Pairwise fun first second =>
      (log.sliceLog target analyzer).key first.event <
        (log.sliceLog target analyzer).key second.event := by
  rcases sliceable.wellShaped with ⟨_, _, _, shaped⟩
  have ascend : ((log.sliceLog target analyzer).entries.filterMap (·.count)).Pairwise (· ≤ ·) := by
    rw [sliceable.entries_sliceLog rereads, List.filterMap_map]
    exact shaped.counts_ascend
  apply (sliceable.pairwise_positionOf_sliceLog rereads).imp
  intro first second less
  have notAbove := ordinalAt_le ascend (Nat.le_of_lt less)
  rw [key_lt_key_iff, ordinal, ordinal]
  omega

/-- All kept statements are eligible in the log of the slice. -/
theorem eligible_sliceLog_iff {group : Group} (member : group ∈ (log.slice target).groups)
    {index : Nat} :
    (log.sliceLog target analyzer).Eligible target ⟨group.event, index⟩ ↔
      index < group.statements.length := by
  rcases sliceable.facts?_sliceLog rereads member with ⟨facts, known, restates⟩
  have isStatement : ((log.sliceLog target analyzer).statement? ⟨group.event, index⟩).isSome ↔
      index < group.statements.length := by
    rw [statement?, known, Option.bind_some, ← restates.length_eq]
    simp
  rw [eligible_iff_of_mem (consistent_sliceLog log target analyzer)
    (sliceable.keptRecord_mem_entries rereads member) rfl, isStatement]
  constructor
  · exact fun both => both.1
  · intro within
    refine ⟨within, ?_⟩
    by_cases isTarget : group.event = target
    · exact Or.inl isTarget
    · right
      rcases sliceable.wellShaped with ⟨record, _, rfl, shaped⟩
      rcases shaped.exists_last with ⟨last, lastMem, lastHeading, upToLast⟩
      have lastEvent : last.event = record.event := congrArg Heading.event lastHeading
      rcases upToLast group member with rfl | less
      · exact absurd lastEvent isTarget
      -- The keys of the old log order the groups, and both orders of the new log follow that one.
      · have earlier := (lt_iff_lt_of_pairwise shaped.keys_increase
          (sliceable.pairwise_positionOf_sliceLog rereads) member lastMem).mp less
        have before := (lt_iff_lt_of_pairwise shaped.keys_increase
          (sliceable.pairwise_key_sliceLog rereads) member lastMem).mp less
        rw [lastEvent] at earlier before
        exact ⟨Nat.le_of_lt earlier, sliceable.failed_keptRecord member isTarget, before⟩

theorem sliceable_sliceLog : (log.sliceLog target analyzer).Sliceable target := by
  refine ⟨consistent_sliceLog log target analyzer, sliceable.numbered_sliceLog rereads, ?_⟩
  rcases sliceable.wellShaped with ⟨record, _, rfl, shaped⟩
  rcases shaped.exists_last with ⟨last, lastMem, lastHeading, _⟩
  have lastEvent : last.event = record.event := congrArg Heading.event lastHeading
  rcases sliceable.facts?_sliceLog rereads lastMem with ⟨facts, known, restates⟩
  rcases sliceable.exists_record lastMem with ⟨_, _, _, nonempty⟩
  rw [lastEvent] at known
  refine ⟨facts, known, ?_⟩
  rw [Facts.isEmpty, List.isEmpty_eq_false_iff, ← List.length_pos_iff, restates.length_eq,
    List.length_pos_iff]
  exact nonempty

theorem exists_origin {occurrence : Occurrence}
    (eligible : (log.sliceLog target analyzer).Eligible target occurrence) :
    ∃ group ∈ (log.slice target).groups, ∃ number, occurrence.event = group.event ∧
      group.statements[occurrence.index]? = some number ∧
      originIn (log.slice target).groups occurrence = ⟨group.event, number⟩ := by
  have logged := logged_of_eligible (consistent_sliceLog log target analyzer) eligible
  rcases sliceable.exists_group_of_logged rereads logged with ⟨group, member, sameEvent⟩
  cases occurrence with
  | mk event index =>
      change group.event = event at sameEvent
      subst sameEvent
      have within := (sliceable.eligible_sliceLog_iff rereads member).mp eligible
      have atIndex := List.getElem?_eq_getElem within
      exact ⟨group, member, _, rfl, atIndex, sliceable.originIn_eq member atIndex⟩

/-- The log of a slice is an excerpt of the log that was sliced. -/
theorem excerpt_sliceLog :
    (log.sliceLog target analyzer).Excerpt log target (originIn (log.slice target).groups) where
  part_sliceable := sliceable.sliceable_sliceLog rereads
  whole_sliceable := sliceable
  event_origin _ := rfl
  eligible_origin occurrence eligible := by
    rcases sliceable.exists_origin rereads eligible with
      ⟨group, member, number, _, atIndex, isOrigin⟩
    rw [isOrigin]
    apply sliceable.eligible
    exact (sliceable.mem_statements_iff member).mp (List.mem_of_getElem? atIndex)
  statement_origin occurrence statement eligible found := by
    rcases sliceable.exists_origin rereads eligible with
      ⟨group, member, number, sameEvent, atIndex, isOrigin⟩
    rcases sliceable.facts?_sliceLog rereads member with ⟨facts, known, restates⟩
    rw [statement?, sameEvent, known, Option.bind_some] at found
    rcases restates.exists_original found with
      ⟨other, original, atOther, isOriginal, sameDefs, sameUses⟩
    rw [atIndex, Option.some.injEq] at atOther
    rw [isOrigin, atOther]
    exact ⟨original, isOriginal, sameDefs, sameUses⟩
  key_lt := by
    intro first second firstLogged secondLogged less
    rcases sliceable.exists_group_of_logged rereads firstLogged with ⟨group, member, rfl⟩
    rcases sliceable.exists_group_of_logged rereads secondLogged with ⟨other, otherMember, rfl⟩
    rcases sliceable.wellShaped with ⟨_, _, _, shaped⟩
    exact (lt_iff_lt_of_pairwise
      (sliceable.pairwise_key_sliceLog rereads) shaped.keys_increase member
      otherMember).mp less
  index_lt first second firstEligible secondEligible sameEvent less := by
    rcases sliceable.exists_origin rereads firstEligible with
      ⟨group, member, number, firstEvent, atFirst, firstOrigin⟩
    rcases sliceable.exists_origin rereads secondEligible with
      ⟨other, otherMember, otherNumber, secondEvent, atSecond, secondOrigin⟩
    have sameGroup : group = other :=
      List.inj_on_of_nodup_map sliceable.distinct_events member otherMember
        (firstEvent.symm.trans (sameEvent.trans secondEvent))
    subst sameGroup
    rw [firstOrigin, secondOrigin]
    rcases sliceable.wellShaped with ⟨_, _, _, shaped⟩
    rcases List.getElem?_eq_some_iff.mp atFirst with ⟨firstBound, rfl⟩
    rcases List.getElem?_eq_some_iff.mp atSecond with ⟨secondBound, rfl⟩
    exact List.pairwise_iff_getElem.mp (shaped.statements_increase group member) _ _ firstBound
      secondBound less
  retains occurrence kept := by
    rcases List.mem_flatMap.mp kept with ⟨group, member, inGroup⟩
    rcases List.mem_map.mp inGroup with ⟨number, numberMem, rfl⟩
    rcases List.getElem?_of_mem numberMem with ⟨index, atIndex⟩
    refine ⟨⟨group.event, index⟩, ?_, sliceable.originIn_eq member atIndex⟩
    rw [sliceable.eligible_sliceLog_iff rereads member]
    exact (List.getElem?_eq_some_iff.mp atIndex).1

/-! ### The slice in the log of a slice -/

theorem heading_eq_of_event_eq {group other : Group}
    (member : group ∈ ((log.sliceLog target analyzer).slice target).groups)
    (otherMember : other ∈ (log.slice target).groups) (sameEvent : group.event = other.event) :
    group.heading = other.heading := by
  rcases (sliceable.sliceable_sliceLog rereads).exists_record member with
    ⟨record, recordMem, isKept, _⟩
  have sameRecord : record = log.keptRecord other := by
    apply List.inj_on_of_nodup_map (consistent_sliceLog log target analyzer).distinct recordMem
      (sliceable.keptRecord_mem_entries rereads otherMember)
    rwa [isKept] at sameEvent
  rw [isKept, sameRecord]
  rfl

theorem statements_eq_range_of_event_eq {group other : Group}
    (member : group ∈ ((log.sliceLog target analyzer).slice target).groups)
    (otherMember : other ∈ (log.slice target).groups) (sameEvent : group.event = other.event) :
    group.statements = List.range other.statements.length := by
  have excerpt := sliceable.excerpt_sliceLog rereads
  rcases excerpt.part_sliceable.wellShaped with ⟨_, _, _, shaped⟩
  apply (shaped.statements_increase group member).eq_of_mem_iff List.pairwise_lt_range
  intro index
  rw [excerpt.part_sliceable.mem_statements_iff member, sameEvent, List.mem_range,
    ← sliceable.eligible_sliceLog_iff rereads otherMember]
  constructor
  · exact excerpt.part_sliceable.eligible
  · intro eligible
    -- What is eligible in the new log was kept in the old one.
    rw [excerpt.mem_iff_origin_mem eligible]
    have within := (sliceable.eligible_sliceLog_iff rereads otherMember).mp eligible
    rw [sliceable.originIn_eq otherMember (List.getElem?_eq_getElem within),
      ← sliceable.mem_statements_iff otherMember]
    exact List.getElem_mem within

end Sliceable

/-- In the log of the groups of a slice, read by an analyzer that finds the kept statements in the
kept texts, the target has the same groups in the same order, and every statement of every group is
kept. -/
theorem slice_sliceLog (analyzer : Analyzer) (operations : List Operation)
    (numbered : ((empty analyzer).run operations).Numbered) (target : EventId) (facts : Facts)
    (known : ((empty analyzer).run operations).facts? target = some facts)
    (nonempty : facts.isEmpty = false) (reader : Analyzer)
    (rereads : ((empty analyzer).run operations).Rereads target reader) :
    let log := (empty analyzer).run operations
    let again := log.sliceLog target reader
    (again.slice target).target = some target ∧
      (again.slice target).groups.map (fun group => (group.heading, group.statements)) =
        (log.slice target).groups.map
          (fun group => (group.heading, List.range group.statements.length)) := by
  intro log again
  have sliceable : log.Sliceable target :=
    ⟨consistent_run_empty analyzer operations, numbered, facts, known, nonempty⟩
  have excerpt := sliceable.excerpt_sliceLog rereads
  have againSliceable := excerpt.part_sliceable
  constructor
  · rcases againSliceable.hasStatements with ⟨_, againKnown, _⟩
    have logged := againSliceable.consistent.logged_of_facts?_eq_some againKnown
    exact (exists_wellShaped againSliceable.consistent againSliceable.numbered logged).1
  · apply excerpt.map_groups_eq
    intro group member other otherMember sameEvent
    rw [sliceable.heading_eq_of_event_eq rereads member otherMember sameEvent,
      sliceable.statements_eq_range_of_event_eq rereads member otherMember sameEvent]

end Log

namespace Sample

/-- Facts about the cells of a session and about the lines that a slice keeps of them. -/
def keptTable : List (String × Facts) :=
  [("x = 1", ⟨[⟨0, 0, 0, .ofList ["x"], ∅⟩]⟩),
   ("y = x\nx = 2", ⟨[⟨0, 0, 0, .ofList ["y"], .ofList ["x"]⟩, ⟨1, 1, 1, .ofList ["x"], ∅⟩]⟩),
   ("x = 2", ⟨[⟨0, 0, 0, .ofList ["x"], ∅⟩]⟩),
   ("w = x", ⟨[⟨0, 0, 0, .ofList ["w"], .ofList ["x"]⟩]⟩)]

/-- A session whose later records take their ordinals from the first one, which the slice of the
last one leaves out. -/
def uncounted : List Operation :=
  [.append ⟨⟨"a"⟩, ⟨"e0"⟩, "x = 1", some 7, false⟩,
   .append ⟨⟨"b"⟩, ⟨"e1"⟩, "y = x\nx = 2", none, false⟩,
   .append ⟨⟨"c"⟩, ⟨"e2"⟩, "w = x", none, true⟩]

/-- The log of the session with missing counts. -/
def uncountedLog : Log := (Log.empty (Analyzer.ofTable keptTable)).run uncounted

theorem numbered_uncountedLog : uncountedLog.Numbered := by
  apply (Log.consistent_run_empty (Analyzer.ofTable keptTable) uncounted).numbered
  rw [Log.analyzer_run]
  exact Analyzer.numbers_ofTable (by decide)

theorem groups_uncountedLog :
    (uncountedLog.slice ⟨"e2"⟩).groups =
      [⟨⟨"b"⟩, ⟨"e1"⟩, none, [1], ["x = 2"]⟩, ⟨⟨"c"⟩, ⟨"e2"⟩, none, [0], ["w = x"]⟩] := by
  rw [uncountedLog, Log.slice_run_empty_eq (Journal.run uncounted) (by decide +kernel)
    (Timeline.ofHistory?_eq_of_pairwise rfl (by decide +kernel))]
  simp only [Timeline.groups, Timeline.numbersAt_eq_insertionSort]
  decide +kernel

theorem facts?_uncountedLog (event : EventId) :
    uncountedLog.facts? event = ((Journal.run uncounted).find? (·.event == event)).map fun record =>
      ((Analyzer.ofTable keptTable).analyze record.text).toOption.getD {} := by
  have consistent := Log.consistent_run_empty (Analyzer.ofTable keptTable) uncounted
  rw [uncountedLog, consistent.facts?_eq, Log.entries_run_empty, Log.analyzer_run]
  rfl

/-- The facts about the last cell of the session with missing counts. -/
def uncountedFacts : Facts := ⟨[⟨0, 0, 0, .ofList ["w"], .ofList ["x"]⟩]⟩

theorem facts?_uncountedLog_target : uncountedLog.facts? ⟨"e2"⟩ = some uncountedFacts := by
  rw [facts?_uncountedLog]
  decide +kernel

theorem rereads_uncountedLog : uncountedLog.Rereads ⟨"e2"⟩ (Analyzer.ofTable keptTable) := by
  rw [Log.Rereads, groups_uncountedLog, List.forall_mem_cons, List.forall_mem_singleton]
  constructor
  · refine ⟨by decide +kernel, ⟨[⟨0, 0, 0, .ofList ["x"], ∅⟩]⟩, by decide +kernel, by decide, ?_⟩
    refine .cons ⟨⟨1, 1, 1, .ofList ["x"], ∅⟩, ?_, rfl, rfl⟩ .nil
    rw [Log.statement?, facts?_uncountedLog]
    decide +kernel
  · refine ⟨by decide +kernel, uncountedFacts, by decide +kernel, by decide, ?_⟩
    refine .cons ⟨⟨0, 0, 0, .ofList ["w"], .ofList ["x"]⟩, ?_, rfl, rfl⟩ .nil
    rw [Log.statement?, facts?_uncountedLog]
    decide +kernel

end Sample

namespace Log

theorem slice_sliceLog_sample :
    Sample.uncountedLog.Numbered ∧
      Sample.uncountedLog.facts? ⟨"e2"⟩ = some Sample.uncountedFacts ∧
      Sample.uncountedLog.Rereads ⟨"e2"⟩ (Analyzer.ofTable Sample.keptTable) ∧
      ((Sample.uncountedLog.sliceLog ⟨"e2"⟩ (Analyzer.ofTable Sample.keptTable)).slice
        ⟨"e2"⟩).groups.map
          (fun group => (group.heading, group.statements)) =
        [(⟨⟨"b"⟩, ⟨"e1"⟩, none⟩, [0]), (⟨⟨"c"⟩, ⟨"e2"⟩, none⟩, [0])] := by
  refine ⟨Sample.numbered_uncountedLog, Sample.facts?_uncountedLog_target,
    Sample.rereads_uncountedLog, ?_⟩
  have again := slice_sliceLog (Analyzer.ofTable Sample.keptTable) Sample.uncounted
    Sample.numbered_uncountedLog ⟨"e2"⟩ Sample.uncountedFacts Sample.facts?_uncountedLog_target rfl
    (Analyzer.ofTable Sample.keptTable) Sample.rereads_uncountedLog
  apply again.2.trans
  change (Sample.uncountedLog.slice ⟨"e2"⟩).groups.map _ = _
  rw [Sample.groups_uncountedLog]
  rfl

end Log

end NotebookSlice

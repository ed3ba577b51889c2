import NotebookSlice.Proofs.Slice.Order

/-!
# Shape of a slice

The groups of a slice follow the timeline of its target. They belong to different executions, stand
in the order of their keys and end with the target, and the statements in each of them ascend. An
execution that failed has a group only if it is the target.

Everything about the order follows from one fact: the headings of the groups are a sublist of the
headings on the timeline. Counts ascend because a count that is present is the ordinal in force, and
the keys begin with that ordinal.
-/

namespace NotebookSlice

/-- How a group names its execution. -/
structure Heading where
  cell : CellId
  event : EventId
  count : Option UInt32
deriving DecidableEq, Repr, Inhabited

/-- The heading of an execution. -/
def Record.heading (record : Record) : Heading := ⟨record.cell, record.event, record.count⟩

/-- The heading of a group. -/
def Group.heading (group : Group) : Heading := ⟨group.cell, group.event, group.count⟩

/-! ### Groups of a timeline -/

namespace Timeline

variable {timeline : Timeline}

/-- The executions of which some statement is needed, with their ranks. -/
def contributors (timeline : Timeline) : List (Candidate × Nat) :=
  timeline.members.zipIdx.filter fun (_, rank) => !(numbersAt timeline.needed rank).isEmpty

theorem groups_eq_map_contributors (nonempty : timeline.target.facts.isEmpty = false) :
    timeline.groups = timeline.contributors.map fun (candidate, rank) =>
      candidate.keep (numbersAt timeline.needed rank) := by
  rw [groups, nonempty, contributors]
  simp only [Bool.false_eq_true, if_false]
  induction timeline.members.zipIdx with
  | nil => rfl
  | cons head tail ih =>
      rcases head with ⟨candidate, rank⟩
      rw [List.filterMap_cons, List.filter_cons]
      cases numbers : numbersAt timeline.needed rank with
      | nil => simpa [numbers] using ih
      | cons number others => simpa [numbers] using ih

theorem groups_eq_whole (isEmpty : timeline.target.facts.isEmpty = true) :
    timeline.groups = [timeline.target.whole] := by
  rw [groups, if_pos isEmpty]

theorem mem_contributors {candidate : Candidate} {rank : Nat} :
    (candidate, rank) ∈ timeline.contributors ↔
      timeline.members[rank]? = some candidate ∧ numbersAt timeline.needed rank ≠ [] := by
  simp [contributors, List.mem_zipIdx_iff_getElem?]

theorem eq_whole_or_eq_keep {group : Group} (member : group ∈ timeline.groups) :
    group = timeline.target.whole ∨
      ∃ candidate rank, (candidate, rank) ∈ timeline.contributors ∧
        group = candidate.keep (numbersAt timeline.needed rank) := by
  cases isEmpty : timeline.target.facts.isEmpty with
  | true =>
      rw [groups_eq_whole isEmpty, List.mem_singleton] at member
      exact Or.inl member
  | false =>
      rw [groups_eq_map_contributors isEmpty, List.mem_map] at member
      rcases member with ⟨⟨candidate, rank⟩, contributes, rfl⟩
      exact Or.inr ⟨candidate, rank, contributes, rfl⟩

theorem pairwise_statements {group : Group} (member : group ∈ timeline.groups) :
    group.statements.Pairwise (· < ·) := by
  rcases eq_whole_or_eq_keep member with rfl | ⟨candidate, rank, _, rfl⟩
  · exact List.Pairwise.nil
  · exact pairwise_numbersAt timeline.needed rank

theorem headings_groups_sublist (timeline : Timeline) :
    (timeline.groups.map Group.heading).Sublist (timeline.members.map (·.record.heading)) := by
  cases isEmpty : timeline.target.facts.isEmpty with
  | true =>
      rw [groups_eq_whole isEmpty, members, List.map_append]
      exact List.sublist_append_right _ _
  | false =>
      have ofMembers : timeline.members.map (·.record.heading) =
          timeline.members.zipIdx.map (·.1.record.heading) := by
        conv_lhs => rw [← List.zipIdx_map_fst 0 timeline.members, List.map_map]
        rfl
      rw [groups_eq_map_contributors isEmpty, List.map_map, ofMembers]
      exact List.filter_sublist.map _

theorem numbersAt_target (numbered : timeline.Numbered) :
    numbersAt timeline.needed timeline.earlier.length =
      List.range timeline.target.facts.statements.length := by
  apply (pairwise_numbersAt _ _).eq_of_mem_iff List.pairwise_lt_range
  intro index
  rw [mem_numbersAt, List.mem_range]
  constructor
  · intro isNeeded
    rcases exists_supplies_of_mem_needed numbered isNeeded with
      ⟨statement, candidate, atRank, _, atIndex⟩
    rw [getElem?_members_length, Option.some.injEq] at atRank
    subst atRank
    exact (List.getElem?_eq_some_iff.mp atIndex).1
  · intro within
    have targetNumbered := numbered timeline.target (by simp [members])
    rcases targetNumbered.mem_iff.mpr (List.getElem?_eq_getElem within) with ⟨member, sameIndex⟩
    apply mem_needed_of_mem_seeds
    refine List.mem_map.mpr ⟨_, member, ?_⟩
    rw [sameIndex]

/-- The target contributes all of its statements and comes last. -/
theorem getLast?_groups (numbered : timeline.Numbered)
    (nonempty : timeline.target.facts.isEmpty = false) :
    timeline.groups.getLast? =
      some (timeline.target.keep (List.range timeline.target.facts.statements.length)) := by
  have contributes : numbersAt timeline.needed timeline.earlier.length ≠ [] := by
    rw [numbersAt_target numbered]
    intro none
    rw [List.range_eq_nil, List.length_eq_zero_iff] at none
    simp [Facts.isEmpty, none] at nonempty
  rw [groups_eq_map_contributors nonempty, contributors, members_zipIdx, List.filter_append,
    List.filter_cons_of_pos (by simpa using contributes)]
  simp [numbersAt_target numbered]

theorem exists_getLast?_groups (numbered : timeline.Numbered) :
    ∃ last, timeline.groups.getLast? = some last ∧ last.heading = timeline.target.record.heading ∧
      last.statements = List.range timeline.target.facts.statements.length := by
  cases isEmpty : timeline.target.facts.isEmpty with
  | true =>
      have noStatements : timeline.target.facts.statements = [] := by
        simpa [Facts.isEmpty] using isEmpty
      refine ⟨timeline.target.whole, ?_, rfl, ?_⟩
      · rw [groups_eq_whole isEmpty, List.getLast?_singleton]
      · rw [noStatements]
        rfl
  | false => exact ⟨_, getLast?_groups numbered isEmpty, rfl, rfl⟩

/-- An execution that failed has a group only if it is the target. -/
theorem failed_eq_false_or_isTarget (numbered : timeline.Numbered)
    {candidate : Candidate} {rank : Nat} (contributes : (candidate, rank) ∈ timeline.contributors) :
    candidate.record.failed = false ∨ candidate = timeline.target := by
  rcases mem_contributors.mp contributes with ⟨atRank, nonempty⟩
  rcases List.exists_mem_of_ne_nil _ nonempty with ⟨index, kept⟩
  rcases exists_supplies_of_mem_needed numbered (mem_numbersAt.mp kept) with
    ⟨_, other, otherAtRank, supplier, _⟩
  rw [atRank, Option.some.injEq] at otherAtRank
  subst other
  rcases supplier with succeeded | isLast
  · exact Or.inl succeeded
  · right
    change rank = _ at isLast
    rw [isLast, getElem?_members_length, Option.some.injEq] at atRank
    exact atRank.symm

end Timeline

/-! ### Keys and counts -/

namespace Log

variable {log : Log}

/-- The ordinal in force for an execution. -/
def ordinal (log : Log) (event : EventId) : Nat := ordinalAt log.entries (log.positionOf event)

theorem key_lt_key_iff {first second : EventId} :
    log.key first < log.key second ↔
      log.ordinal first < log.ordinal second ∨
        log.ordinal first = log.ordinal second ∧ log.positionOf first < log.positionOf second := by
  rw [key, key, Prod.Lex.toLex_lt_toLex]
  rfl

theorem ordinal_le_of_key_lt {first second : EventId} (less : log.key first < log.key second) :
    log.ordinal first ≤ log.ordinal second := by
  rw [key_lt_key_iff] at less
  omega

/-- A count that is present is the ordinal in force. -/
theorem ordinal_eq_of_count (consistent : log.Consistent) {record : Record}
    (member : record ∈ log.entries) {count : UInt32} (counted : record.count = some count) :
    log.ordinal record.event = count.toNat := by
  rcases List.getElem?_of_mem member with ⟨position, atPosition⟩
  rw [ordinal, positionOf_eq consistent atPosition, ordinalAt, List.take_add_one, atPosition]
  simp [counted]

namespace Unfolding

variable {timeline : Timeline} {position : Nat} {target : Record}

theorem pairwise_key_members (unfolding : log.Unfolding timeline position target) :
    timeline.members.Pairwise fun first second =>
      log.key first.record.event < log.key second.record.event := by
  apply unfolding.covers.pairwise_members.imp_of_mem
  intro first second firstMem secondMem before
  rcases unfolding.exists_position firstMem with ⟨place, record, _, atPlace, rfl⟩
  rcases unfolding.exists_position secondMem with ⟨otherPlace, other, _, atOtherPlace, rfl⟩
  exact (key_lt_iff unfolding.consistent atPlace atOtherPlace).mpr before

theorem pairwise_key_groups (unfolding : log.Unfolding timeline position target) :
    timeline.groups.Pairwise fun first second => log.key first.event < log.key second.event := by
  have onMembers : (timeline.members.map (·.record.heading)).Pairwise fun first second =>
      log.key first.event < log.key second.event :=
    List.pairwise_map.mpr unfolding.pairwise_key_members
  have onGroups := onMembers.sublist timeline.headings_groups_sublist
  exact (List.pairwise_map (f := Group.heading)).mp onGroups

theorem record_mem_entries (unfolding : log.Unfolding timeline position target)
    {candidate : Candidate} (member : candidate ∈ timeline.members) :
    candidate.record ∈ log.entries := by
  rcases unfolding.exists_position member with ⟨_, record, _, atPlace, rfl⟩
  exact List.mem_of_getElem? atPlace

theorem exists_heading_eq (unfolding : log.Unfolding timeline position target) {group : Group}
    (member : group ∈ timeline.groups) :
    ∃ record ∈ log.entries, group.heading = record.heading := by
  have listed := timeline.headings_groups_sublist.subset (List.mem_map_of_mem member)
  rcases List.mem_map.mp listed with ⟨candidate, candidateMem, same⟩
  exact ⟨candidate.record, unfolding.record_mem_entries candidateMem, same.symm⟩

theorem failed_eq_false_of_mem_groups (unfolding : log.Unfolding timeline position target)
    (numbered : log.Numbered) {group : Group} (member : group ∈ timeline.groups)
    (notTarget : group.event ≠ target.event) {record : Record} (recordMem : record ∈ log.entries)
    (sameEvent : record.event = group.event) : record.failed = false := by
  have targetEvent : timeline.target.record.event = target.event := by
    rw [unfolding.covers.target_eq]
    rfl
  rcases Timeline.eq_whole_or_eq_keep member with rfl | ⟨candidate, rank, contributes, rfl⟩
  · exact absurd targetEvent notTarget
  · have candidateMem := List.mem_of_getElem? (Timeline.mem_contributors.mp contributes).1
    have sameRecord : record = candidate.record :=
      List.inj_on_of_nodup_map unfolding.consistent.distinct recordMem
        (unfolding.record_mem_entries candidateMem) sameEvent
    rcases Timeline.failed_eq_false_or_isTarget (unfolding.numbered numbered) contributes with
      succeeded | rfl
    · rwa [sameRecord]
    · exact absurd targetEvent notTarget

theorem nodup_events_groups (unfolding : log.Unfolding timeline position target) :
    (timeline.groups.map (·.event)).Nodup := by
  rw [List.Nodup, List.pairwise_map]
  apply unfolding.pairwise_key_groups.imp
  intro first second less same
  rw [same] at less
  exact lt_irrefl _ less

theorem ordinal_eq_of_group_count (unfolding : log.Unfolding timeline position target)
    {group : Group} (member : group ∈ timeline.groups) {count : UInt32}
    (counted : group.count = some count) :
    log.ordinal group.event = count.toNat := by
  rcases unfolding.exists_heading_eq member with ⟨record, recordMem, same⟩
  have sameEvent : group.event = record.event := congrArg Heading.event same
  have sameCount : group.count = record.count := congrArg Heading.count same
  rw [sameEvent]
  exact ordinal_eq_of_count unfolding.consistent recordMem (sameCount.symm.trans counted)

theorem pairwise_counts_groups (unfolding : log.Unfolding timeline position target) :
    (timeline.groups.filterMap (·.count)).Pairwise (· ≤ ·) := by
  rw [List.pairwise_filterMap]
  apply unfolding.pairwise_key_groups.imp_of_mem
  intro first second firstMem secondMem less firstCount firstCounted secondCount secondCounted
  rw [UInt32.le_iff_toNat_le, ← unfolding.ordinal_eq_of_group_count firstMem firstCounted,
    ← unfolding.ordinal_eq_of_group_count secondMem secondCounted]
  exact ordinal_le_of_key_lt less

theorem exists_last (unfolding : log.Unfolding timeline position target) (numbered : log.Numbered) :
    ∃ last, timeline.groups.getLast? = some last ∧ last.heading = target.heading ∧
      last.statements = List.range (log.factsFor target).statements.length := by
  have ends := Timeline.exists_getLast?_groups (unfolding.numbered numbered)
  rw [unfolding.covers.target_eq] at ends
  exact ends

end Unfolding

/-- In the order of keys, what is not last has a smaller key than the last. -/
theorem eq_or_key_lt_of_getLast? {groups : List Group}
    (ordered : groups.Pairwise fun first second => log.key first.event < log.key second.event)
    {last group : Group} (isLast : groups.getLast? = some last) (member : group ∈ groups) :
    group = last ∨ log.key group.event < log.key last.event := by
  rcases List.getLast?_eq_some_iff.mp isLast with ⟨before, rfl⟩
  rcases List.mem_append.mp member with inBefore | inLast
  · right
    exact (List.pairwise_append.mp ordered).2.2 group inBefore last (List.mem_singleton_self last)
  · left
    exact List.mem_singleton.mp inLast

/-- The shape of the slice of a record that the log holds. -/
structure WellShaped (log : Log) (target : Record) (groups : List Group) : Prop where
  /-- Each group is about a logged execution. -/
  heading_logged : ∀ group ∈ groups, ∃ record ∈ log.entries, group.heading = record.heading
  distinct : (groups.map (·.event)).Nodup
  keys_increase : groups.Pairwise fun first second => log.key first.event < log.key second.event
  /-- The counts that are present ascend. -/
  counts_ascend : (groups.filterMap (·.count)).Pairwise (· ≤ ·)
  count_le : ∀ group ∈ groups, ∀ count, group.count = some count →
    count.toNat ≤ log.ordinal target.event
  target_last : groups.getLast?.map Group.heading = some target.heading
  /-- No group but that of the target is about an execution that failed. -/
  not_failed : ∀ group ∈ groups, group.event ≠ target.event →
    ∀ record ∈ log.entries, record.event = group.event → record.failed = false
  statements_increase : ∀ group ∈ groups, group.statements.Pairwise (· < ·)
  target_complete : ∀ group ∈ groups, group.event = target.event →
    group.statements = List.range (log.factsFor target).statements.length
  /-- A target without statements stands alone, with all of its lines. -/
  whole : (log.factsFor target).isEmpty = true →
    groups = [⟨target.cell, target.event, target.count, [], target.lines⟩]

theorem Unfolding.wellShaped {timeline : Timeline} {position : Nat} {target : Record}
    (unfolding : log.Unfolding timeline position target) (numbered : log.Numbered) :
    log.WellShaped target timeline.groups := by
  have ordered := unfolding.pairwise_key_groups
  rcases unfolding.exists_last numbered with ⟨last, isLast, lastHeading, lastStatements⟩
  have lastEvent : last.event = target.event := congrArg Heading.event lastHeading
  have upToLast : ∀ group ∈ timeline.groups, group = last ∨
      log.key group.event < log.key last.event :=
    fun group member => eq_or_key_lt_of_getLast? ordered isLast member
  exact
    { heading_logged := fun group member => unfolding.exists_heading_eq member
      distinct := unfolding.nodup_events_groups
      keys_increase := ordered
      counts_ascend := unfolding.pairwise_counts_groups
      count_le := by
        intro group member count counted
        rw [← unfolding.ordinal_eq_of_group_count member counted, ← lastEvent]
        rcases upToLast group member with rfl | less
        · exact le_refl _
        · exact ordinal_le_of_key_lt less
      target_last := by rw [isLast, Option.map_some, lastHeading]
      not_failed := by
        intro group member notTarget record recordMem sameEvent
        exact unfolding.failed_eq_false_of_mem_groups numbered member notTarget recordMem sameEvent
      statements_increase := fun group member => Timeline.pairwise_statements member
      target_complete := by
        intro group member isTarget
        rcases upToLast group member with rfl | less
        · exact lastStatements
        · rw [isTarget, lastEvent] at less
          exact absurd less (lt_irrefl _)
      whole := by
        intro isEmpty
        have targetEmpty : timeline.target.facts.isEmpty = true := by
          rw [unfolding.covers.target_eq]
          exact isEmpty
        rw [Timeline.groups_eq_whole targetEmpty, unfolding.covers.target_eq]
        rfl }

theorem WellShaped.exists_last {target : Record} {groups : List Group}
    (shaped : log.WellShaped target groups) :
    ∃ last ∈ groups, last.heading = target.heading ∧
      ∀ group ∈ groups, group = last ∨ log.key group.event < log.key last.event := by
  rcases Option.map_eq_some_iff.mp shaped.target_last with ⟨last, isLast, same⟩
  refine ⟨last, List.mem_of_getLast? isLast, same, ?_⟩
  exact fun group member => eq_or_key_lt_of_getLast? shaped.keys_increase isLast member

theorem exists_wellShaped (consistent : log.Consistent) (numbered : log.Numbered) {target : EventId}
    (logged : log.Logged target) :
    (log.slice target).target = some target ∧
      ∃ record ∈ log.entries, record.event = target ∧
        log.WellShaped record (log.slice target).groups := by
  rcases exists_unfolding consistent logged with ⟨timeline, position, record, rfl, found, unfolding⟩
  rw [slice_eq found]
  exact ⟨rfl, record, List.mem_of_getElem? unfolding.atPosition, rfl, unfolding.wellShaped numbered⟩

/-- The slice of a logged execution names it as its target and has the shape of a slice. -/
theorem slice_wellShaped (analyzer : Analyzer) (numbers : analyzer.Numbers)
    (operations : List Operation) (target : EventId)
    (logged : ((empty analyzer).run operations).Logged target) :
    let log := (empty analyzer).run operations
    (log.slice target).target = some target ∧
      ∃ record ∈ log.entries, record.event = target ∧
        log.WellShaped record (log.slice target).groups := by
  intro log
  have consistent : log.Consistent := consistent_run_empty analyzer operations
  have numbered : log.Numbered := consistent.numbered (by rwa [analyzer_run])
  exact exists_wellShaped consistent numbered logged

theorem slice_wellShaped_sample :
    (Analyzer.ofTable Sample.table).Numbers ∧ Sample.log.Logged ⟨"e4"⟩ ∧
      (Sample.log.slice ⟨"e4"⟩).target = some ⟨"e4"⟩ ∧
      ∃ record ∈ Sample.log.entries, record.event = ⟨"e4"⟩ ∧
        Sample.log.WellShaped record (Sample.log.slice ⟨"e4"⟩).groups :=
  ⟨Sample.numbers_table, Sample.logged_log,
    slice_wellShaped (Analyzer.ofTable Sample.table) Sample.numbers_table Sample.operations ⟨"e4"⟩
      Sample.logged_log⟩

end Log

end NotebookSlice

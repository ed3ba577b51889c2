import NotebookSlice.Proofs.Slice.Excerpt

/-!
# Edges within a cell

The nearest definition of a name is found in two ways: within a cell by a scan backwards over its
statements, which gives the edges of the cell, and in a slice by a search among the sites of all
definitions on a timeline. This file says what the edges are, and that for the statements that a
slice keeps both ways lead to the same statement.

In the chronology of a log nothing stands between two statements of one execution but statements of
that execution. So a nearest definition within the cell is the nearest of all, and a nearest of all
that lies within the cell is an edge.
-/

namespace NotebookSlice

/-! ### Edges and their order -/

namespace Edge

/-- The strict order of edges: by source, then by target, then by name. -/
def Precedes (first second : Edge) : Prop :=
  first.source < second.source ∨ first.source = second.source ∧
    (first.target < second.target ∨ first.target = second.target ∧ first.name < second.name)

theorem before_iff {first second : Edge} :
    first.before second = true ↔ first.Precedes second ∨ first = second := by
  cases first
  cases second
  simp only [before, Precedes, Bool.or_eq_true, Bool.and_eq_true, decide_eq_true_eq, beq_iff_eq,
    Edge.mk.injEq, ← String.not_lt]
  grind [String.lt_asymm, NameSet.lt_of_not_lt_of_ne, String.lt_irrefl]

theorem before_trans (first second third : Edge) (early : first.before second = true)
    (late : second.before third = true) : first.before third = true := by
  rw [before_iff] at *
  rcases early with early | rfl
  · rcases late with late | rfl
    · left
      have names : first.name < second.name → second.name < third.name → first.name < third.name :=
        String.lt_trans
      unfold Precedes at *
      grind
    · exact Or.inl early
  · exact late

theorem before_total (first second : Edge) :
    (first.before second || second.before first) = true := by
  rw [Bool.or_eq_true, before_iff, before_iff]
  cases first
  cases second
  simp only [Precedes, Edge.mk.injEq]
  grind [NameSet.lt_of_not_lt_of_ne]

end Edge

namespace Facts

variable {facts : Facts} {name : String}

theorem lastDefinition_append_singleton (name : String) (earlier : List Statement)
    (last : Statement) :
    lastDefinition name (earlier ++ [last]) =
      if last.defs.contains name then some earlier.length else lastDefinition name earlier := by
  rw [lastDefinition, lastDefinition, List.zipIdx_append, List.reverse_append]
  cases defined : last.defs.contains name <;> simp [defined]

/-- The scan backwards stops at the last statement that defines the name. -/
theorem lastDefinition_eq_some_iff {earlier : List Statement} {place : Nat} :
    lastDefinition name earlier = some place ↔
      (∃ statement, earlier[place]? = some statement ∧ name ∈ statement.defs) ∧
        ∀ later statement, place < later → earlier[later]? = some statement →
          name ∉ statement.defs := by
  induction earlier using List.reverseRecOn with
  | nil => simp [lastDefinition]
  | append_singleton earlier last ih =>
      rw [lastDefinition_append_singleton]
      by_cases defined : name ∈ last.defs
      · rw [if_pos (NameSet.contains_eq_true.mpr defined), Option.some.injEq]
        constructor
        · rintro rfl
          refine ⟨⟨last, by simp, defined⟩, ?_⟩
          intro later statement beyond atLater
          have within := (List.getElem?_eq_some_iff.mp atLater).1
          simp only [List.length_append, List.length_singleton] at within
          omega
        · rintro ⟨⟨statement, atPlace, _⟩, noneLater⟩
          have within := (List.getElem?_eq_some_iff.mp atPlace).1
          simp only [List.length_append, List.length_singleton] at within
          rcases Nat.lt_or_eq_of_le (Nat.le_of_lt_succ within) with below | rfl
          · exact absurd defined (noneLater earlier.length last below (by simp))
          · rfl
      · rw [if_neg (mt NameSet.contains_eq_true.mp defined), ih]
        constructor
        · rintro ⟨⟨statement, atPlace, isDefined⟩, noneLater⟩
          have within := (List.getElem?_eq_some_iff.mp atPlace).1
          refine ⟨⟨statement, by rwa [List.getElem?_append_left within], isDefined⟩, ?_⟩
          intro later other beyond atLater
          rw [List.getElem?_append] at atLater
          split at atLater
          · exact noneLater later other beyond atLater
          · rw [List.mem_singleton.mp (List.mem_of_getElem? atLater)]
            exact defined
        · rintro ⟨⟨statement, atPlace, isDefined⟩, noneLater⟩
          rw [List.getElem?_append] at atPlace
          split at atPlace
          · refine ⟨⟨statement, atPlace, isDefined⟩, ?_⟩
            intro later other beyond atLater
            have within := (List.getElem?_eq_some_iff.mp atLater).1
            exact noneLater later other beyond (by rwa [List.getElem?_append_left within])
          · rw [List.mem_singleton.mp (List.mem_of_getElem? atPlace)] at isDefined
            exact absurd isDefined defined

/-- The edge leads from a statement that defines its name to a later one that uses it, and no
statement between the two defines the name. -/
structure Links (facts : Facts) (edge : Edge) : Prop where
  before : edge.source < edge.target
  uses : ∃ statement, facts.statements[edge.target]? = some statement ∧ edge.name ∈ statement.uses
  defines : ∃ statement, facts.statements[edge.source]? = some statement ∧
    edge.name ∈ statement.defs
  nearest : ∀ place statement, edge.source < place → place < edge.target →
    facts.statements[place]? = some statement → edge.name ∉ statement.defs

theorem lastDefinition_take_eq_some_iff {target source : Nat} :
    lastDefinition name (facts.statements.take target) = some source ↔
      source < target ∧
        (∃ statement, facts.statements[source]? = some statement ∧ name ∈ statement.defs) ∧
        ∀ place statement, source < place → place < target →
          facts.statements[place]? = some statement →
          name ∉ statement.defs := by
  rw [lastDefinition_eq_some_iff]
  constructor
  · rintro ⟨⟨statement, atSource, isDefined⟩, noneLater⟩
    rw [List.getElem?_take] at atSource
    split at atSource
    · next below =>
      refine ⟨below, ⟨statement, atSource, isDefined⟩, ?_⟩
      intro place other beyond inside atPlace
      exact noneLater place other beyond (by rwa [List.getElem?_take_of_lt inside])
    · simp at atSource
  · rintro ⟨below, ⟨statement, atSource, isDefined⟩, noneLater⟩
    refine ⟨⟨statement, by rwa [List.getElem?_take_of_lt below], isDefined⟩, ?_⟩
    intro place other beyond atPlace
    rw [List.getElem?_take] at atPlace
    split at atPlace
    · next inside => exact noneLater place other beyond inside atPlace
    · simp at atPlace

theorem mem_edges_iff {edge : Edge} : edge ∈ facts.edges ↔ facts.Links edge := by
  simp only [edges, edgesInto, List.mem_mergeSort, List.mem_flatMap, Prod.exists,
    List.mem_zipIdx_iff_getElem?, List.mem_filterMap, Option.map_eq_some_iff,
    lastDefinition_take_eq_some_iff]
  constructor
  · rintro ⟨statement, target, atTarget, name, isUsed, source, ⟨before, defines, nearest⟩, rfl⟩
    exact ⟨before, ⟨statement, atTarget, isUsed⟩, defines, nearest⟩
  · rintro ⟨before, ⟨statement, atTarget, isUsed⟩, defines, nearest⟩
    exact ⟨statement, edge.target, atTarget, edge.name, isUsed, edge.source,
      ⟨before, defines, nearest⟩, rfl⟩

/-- No edge is found twice: the edges into different statements differ, and so do those for
different names. -/
theorem nodup_edges (facts : Facts) :
    (facts.statements.zipIdx.flatMap fun (statement, target) =>
      facts.edgesInto target statement).Nodup := by
  have target_eq : ∀ {statement target edge}, edge ∈ facts.edgesInto target statement →
      edge.target = target := by
    intro statement target edge member
    rcases List.mem_filterMap.mp member with ⟨name, _, found⟩
    rcases Option.map_eq_some_iff.mp found with ⟨source, _, rfl⟩
    rfl
  rw [List.nodup_flatMap]
  constructor
  · rintro ⟨statement, target⟩ _
    simp only [edgesInto, List.Nodup, List.pairwise_filterMap]
    apply statement.uses.ascending.imp
    intro first second less edge found other otherFound same
    rcases Option.map_eq_some_iff.mp found with ⟨_, _, rfl⟩
    rcases Option.map_eq_some_iff.mp otherFound with ⟨_, _, rfl⟩
    rw [Edge.mk.injEq] at same
    exact absurd less (same.2.2 ▸ String.lt_irrefl first)
  · apply (pairwise_snd_zipIdx facts.statements).imp
    rintro ⟨statement, target⟩ ⟨other, otherTarget⟩ less edge member otherMember
    exact absurd ((target_eq member).symm.trans (target_eq otherMember)) (Nat.ne_of_lt less)

theorem pairwise_edges (facts : Facts) : facts.edges.Pairwise Edge.Precedes := by
  apply (pairwise_mergeSort_and Edge.before_trans Edge.before_total Ne.symm facts.nodup_edges).imp
  rintro first second ⟨notAfter, different⟩
  exact (Edge.before_iff.mp notAfter).resolve_right different

end Facts

/-! ### Uses that a slice follows -/

namespace Log

variable {log : Log} {target : EventId}

/-- In the search for the slice of the target, the use of a name in a statement leads to another
statement. -/
def Follows (log : Log) (target : EventId) (name : String) (occurrence source : Occurrence) :
    Prop :=
  ∃ timeline site sourceSite, log.timeline? target = some timeline ∧
    timeline.Locates site occurrence ∧
    timeline.Locates sourceSite source ∧ log.Uses occurrence name ∧
    site.nearestBefore? (Timeline.sitesOf timeline.definitions name).toArray = some sourceSite

namespace Sliceable

variable (sliceable : log.Sliceable target) {name : String}
include sliceable

/-- What the search follows is the nearest definition. -/
theorem follows_iff {occurrence source : Occurrence} (eligible : log.Eligible target occurrence) :
    log.Follows target name occurrence source ↔
      log.Uses occurrence name ∧ log.NearestDefinition target name occurrence source := by
  rcases sliceable.hasStatements with ⟨facts, known, _⟩
  rcases exists_unfolding_of_facts? sliceable.consistent known with
    ⟨timeline, position, target, rfl, found, unfolding, _⟩
  have numbered := unfolding.numbered sliceable.numbered
  constructor
  · rintro ⟨other, site, sourceSite, otherFound, locates, locatesSource, uses, nearest⟩
    rw [found, Option.some.injEq] at otherFound
    subst otherFound
    rw [Timeline.nearestBefore?_sitesOf_eq_some_iff numbered] at nearest
    exact ⟨uses, (unfolding.nearest_iff locates locatesSource).mp nearest⟩
  · rintro ⟨uses, nearest⟩
    rcases unfolding.exists_locates_of_eligible eligible with ⟨site, locates⟩
    rcases unfolding.exists_locates_of_eligible nearest.eligible with ⟨sourceSite, locatesSource⟩
    refine ⟨timeline, site, sourceSite, found, locates, locatesSource, uses, ?_⟩
    rw [Timeline.nearestBefore?_sitesOf_eq_some_iff numbered]
    exact (unfolding.nearest_iff locates locatesSource).mpr nearest

/-- There is one nearest definition at most. -/
theorem eq_of_nearest {occurrence source other : Occurrence}
    (nearest : log.NearestDefinition target name occurrence source)
    (otherNearest : log.NearestDefinition target name occurrence other) : other = source := by
  apply eq_of_eligible_of_time_eq sliceable.consistent otherNearest.eligible nearest.eligible
  apply le_antisymm
  · exact nearest.latest other otherNearest.eligible otherNearest.defines otherNearest.before
  · exact otherNearest.latest source nearest.eligible nearest.defines nearest.before

end Sliceable

variable {event : EventId} {facts : Facts} {edge : Edge}

theorem statement?_eq_of_facts? (known : log.facts? event = some facts) (index : Nat) :
    log.statement? ⟨event, index⟩ = facts.statements[index]? := by
  rw [statement?, known, Option.bind_some]

/-- Statements of one execution are eligible together. -/
theorem Eligible.of_event_eq {occurrence other : Occurrence}
    (eligible : log.Eligible target occurrence) (sameEvent : other.event = occurrence.event)
    (isStatement : (log.statement? other).isSome) :
    log.Eligible target other := by
  refine ⟨isStatement, ?_⟩
  rw [sameEvent]
  exact eligible.2

/-- The edges into an eligible statement are its nearest definitions within the execution. -/
theorem links_iff (consistent : log.Consistent) (known : log.facts? event = some facts)
    (eligible : log.Eligible target ⟨event, edge.target⟩) :
    facts.Links edge ↔ log.Uses ⟨event, edge.target⟩ edge.name ∧
      log.NearestDefinition target edge.name ⟨event, edge.target⟩ ⟨event, edge.source⟩ := by
  have logged : log.Logged event := logged_of_eligible consistent eligible
  have within : ∀ {first second : Nat},
      log.time ⟨event, first⟩ < log.time ⟨event, second⟩ ↔ first < second := by
    intro first second
    have ordered :=
      time_lt_iff consistent (show log.Logged (⟨event, first⟩ : Occurrence).event from logged)
      (show log.Logged (⟨event, second⟩ : Occurrence).event from logged)
    simpa using ordered
  constructor
  · rintro ⟨before, ⟨user, atTarget, isUsed⟩, ⟨definer, atSource, isDefined⟩, nearest⟩
    rw [← statement?_eq_of_facts? known] at atTarget atSource
    refine ⟨⟨user, atTarget, isUsed⟩, eligible.of_event_eq rfl (by rw [atSource]; rfl),
      ⟨definer, atSource, isDefined⟩, within.mpr before, ?_⟩
    rintro ⟨otherEvent, index⟩ otherEligible ⟨other, isStatement, otherDefines⟩ otherBefore
    rw [time_lt_iff consistent (logged_of_eligible consistent otherEligible) logged] at otherBefore
    rcases otherBefore with earlier | ⟨sameEvent, below⟩
    · exact le_of_lt (time_lt_of_key_lt earlier)
    · -- A definition of the same execution cannot stand between the two ends of the edge.
      change otherEvent = event at sameEvent
      subst sameEvent
      rw [statement?_eq_of_facts? known] at isStatement
      apply le_of_not_gt
      intro beyond
      exact nearest index other (within.mp beyond) below isStatement otherDefines
  · rintro ⟨⟨user, atTarget, isUsed⟩, sourceEligible, ⟨definer, atSource, isDefined⟩,
      before, latest⟩
    rw [statement?_eq_of_facts? known] at atTarget atSource
    refine ⟨within.mp before, ⟨user, atTarget, isUsed⟩, ⟨definer, atSource, isDefined⟩, ?_⟩
    intro place other beyond inside atPlace isDefinedThere
    rw [← statement?_eq_of_facts? known] at atPlace
    have placeEligible : log.Eligible target ⟨event, place⟩ :=
      eligible.of_event_eq rfl (by rw [atPlace]; rfl)
    have notLater := latest _ placeEligible ⟨other, atPlace, isDefinedThere⟩ (within.mpr inside)
    exact absurd (within.mpr beyond) (not_lt_of_ge notLater)

/-- The edges of a cell are exactly the nearest definitions within it, in strictly ascending order.
For the statements that a slice keeps, they are exactly the uses that the slice follows within the
execution: the source of an edge is kept in the same group, and the search follows the use to no
other statement. -/
theorem edges_agree_with_slice (analyzer : Analyzer) (operations : List Operation)
    (numbered : ((empty analyzer).run operations).Numbered) (target : EventId) :
    (∀ facts : Facts, (∀ edge, edge ∈ facts.edges ↔ facts.Links edge) ∧
      facts.edges.Pairwise Edge.Precedes) ∧
      let log := (empty analyzer).run operations
      ∀ group ∈ (log.slice target).groups, ∀ facts, log.facts? group.event = some facts →
        ∀ edge : Edge, edge.target ∈ group.statements →
          (edge ∈ facts.edges ↔
            log.Follows target edge.name ⟨group.event, edge.target⟩ ⟨group.event, edge.source⟩) ∧
          (edge ∈ facts.edges → edge.source ∈ group.statements ∧
            ∀ source, log.Follows target edge.name ⟨group.event, edge.target⟩ source →
              source = ⟨group.event, edge.source⟩) := by
  refine ⟨fun facts => ⟨fun edge => Facts.mem_edges_iff, facts.pairwise_edges⟩, ?_⟩
  intro log group member facts known edge kept
  have consistent : log.Consistent := consistent_run_empty analyzer operations
  have inSlice : ⟨group.event, edge.target⟩ ∈ (log.slice target).occurrences :=
    List.mem_flatMap.mpr ⟨group, member, List.mem_map_of_mem kept⟩
  have sliceable := consistent.sliceable_of_mem numbered inSlice
  have eligible := sliceable.eligible inSlice
  rw [Facts.mem_edges_iff, links_iff consistent known eligible, sliceable.follows_iff eligible]
  refine ⟨Iff.rfl, ?_⟩
  rintro ⟨uses, nearest⟩
  constructor
  · rw [sliceable.mem_statements_iff member]
    exact sliceable.closed.source_mem _ inSlice edge.name uses _ nearest
  · intro source follows
    rw [sliceable.follows_iff eligible] at follows
    exact sliceable.eq_of_nearest nearest follows.2

end Log

namespace Sample

/-- Facts about a cell that binds `x`, binds it anew from itself, and uses it. -/
def rebindingFacts : Facts :=
  ⟨[⟨0, 0, 0, .ofList ["x"], ∅⟩, ⟨1, 1, 1, .ofList ["x"], .ofList ["x"]⟩,
    ⟨2, 2, 2, .ofList ["y"], .ofList ["x"]⟩]⟩

/-- The two cells, executed in order. -/
def rebinding : List Operation :=
  [.append ⟨⟨"a"⟩, ⟨"e1"⟩, "x = 1\nx = x + 1\ny = x", some 1, false⟩,
   .append ⟨⟨"b"⟩, ⟨"e2"⟩, "print(y)", some 3, false⟩]

/-- The log of the session. -/
def rebindingLog : Log :=
  (Log.empty (Analyzer.ofTable [("x = 1\nx = x + 1\ny = x", rebindingFacts),
    ("print(y)", ⟨[⟨0, 0, 0, ∅, .ofList ["print", "y"]⟩]⟩)])).run rebinding

theorem consistent_rebindingLog : rebindingLog.Consistent := Log.consistent_run_empty _ _

theorem numbered_rebindingLog : rebindingLog.Numbered :=
  consistent_rebindingLog.numbered
    (by rw [rebindingLog, Log.analyzer_run]; exact Analyzer.numbers_ofTable (by decide))

theorem facts?_rebindingLog : rebindingLog.facts? ⟨"e1"⟩ = some rebindingFacts := by
  rw [consistent_rebindingLog.facts?_eq, rebindingLog, Log.entries_run_empty, Log.analyzer_run]
  decide +kernel

theorem groups_rebindingLog : (rebindingLog.slice ⟨"e2"⟩).groups =
    [⟨⟨"a"⟩, ⟨"e1"⟩, some 1, [0, 1, 2], ["x = 1", "x = x + 1", "y = x"]⟩,
     ⟨⟨"b"⟩, ⟨"e2"⟩, some 3, [0], ["print(y)"]⟩] := by
  rw [rebindingLog, Log.slice_run_empty_eq (Journal.run rebinding) (by decide +kernel)
    (Timeline.ofHistory?_eq_of_pairwise rfl (by decide +kernel))]
  simp only [Timeline.groups, Timeline.numbersAt_eq_insertionSort]
  decide +kernel

end Sample

namespace Log

theorem edges_agree_with_slice_sample :
    Sample.rebindingLog.Numbered ∧
      ∃ group ∈ (Sample.rebindingLog.slice ⟨"e2"⟩).groups, group.event = ⟨"e1"⟩ ∧
        group.statements = [0, 1, 2] ∧
        Sample.rebindingLog.facts? group.event = some Sample.rebindingFacts ∧
        (⟨1, 2, "x"⟩ ∈ Sample.rebindingFacts.edges ∧ ⟨0, 2, "x"⟩ ∉ Sample.rebindingFacts.edges) ∧
        Sample.rebindingLog.Follows ⟨"e2"⟩ "x" ⟨group.event, 2⟩ ⟨group.event, 1⟩ ∧
        ∀ source, Sample.rebindingLog.Follows ⟨"e2"⟩ "x" ⟨group.event, 2⟩ source →
          source = ⟨group.event, 1⟩ := by
  refine ⟨Sample.numbered_rebindingLog,
    ⟨⟨"a"⟩, ⟨"e1"⟩, some 1, [0, 1, 2], ["x = 1", "x = x + 1", "y = x"]⟩, ?_⟩
  have member := Sample.groups_rebindingLog ▸ List.mem_cons_self
  have agreement := edges_agree_with_slice _ Sample.rebinding Sample.numbered_rebindingLog ⟨"e2"⟩
  have isEdge : ⟨1, 2, "x"⟩ ∈ Sample.rebindingFacts.edges :=
    ((agreement.1 Sample.rebindingFacts).1 _).mpr
      ⟨by decide, ⟨_, rfl, by decide⟩, ⟨_, rfl, by decide⟩,
        fun _ _ beyond inside => absurd inside (Nat.not_lt.mpr beyond)⟩
  have noEdge : ⟨0, 2, "x"⟩ ∉ Sample.rebindingFacts.edges := by
    intro isEdge
    exact (((agreement.1 Sample.rebindingFacts).1 _).mp isEdge).nearest 1 _ (by decide)
      (by decide) rfl (by decide)
  have kept :=
    agreement.2 _ member Sample.rebindingFacts Sample.facts?_rebindingLog ⟨1, 2, "x"⟩ (by decide)
  exact ⟨member, rfl, rfl, Sample.facts?_rebindingLog, ⟨isEdge, noEdge⟩, kept.1.mp isEdge,
    (kept.2 isEdge).2⟩

end Log

end NotebookSlice

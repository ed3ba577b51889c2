import NotebookSlice.Proofs.Slice.Shape

/-!
# The search as a loop

A slice can be computed with a queue: take the first site that waits, follow the uses of its
statement, and let each source that was not seen before join the end. This file runs that
computation with a guard at every difference and at every access by place, which stops it with a
fault instead of giving a default. Nothing is assumed about the analyzer: its facts may give
statements numbers that repeat, that are out of order, or that no statement has.

No guard is ever violated and the loop ends, in as many rounds as there are seeds and sources that
joined. The result is the slice of the log. So the slice does not depend on any default, and a
source joins once at most and never if it was a seed.

The argument follows the loop. Everything that was taken or waits is needed by the target and lies
on the timeline; with each site that was taken, its sources were taken or wait. At the end nothing
waits, so what was taken is closed.
-/

namespace NotebookSlice

/-- What stops a guarded computation. -/
inductive Fault where
  /-- A difference would be below zero. -/
  | underflow
  /-- A place lies behind the end of a list. -/
  | outOfRange
  /-- A loop is not over after the given number of rounds. -/
  | unfinished
deriving DecidableEq, Repr, Inhabited

namespace Guarded

/-! ### The computation -/

/-- The difference of two numbers, if it is one. -/
def minus (first second : Nat) : Except Fault Nat :=
  if second ≤ first then .ok (first - second) else .error .underflow

/-- The item at a place, if there is one. -/
def item {α : Type} (items : List α) (place : Nat) : Except Fault α :=
  match items[place]? with
  | some found => .ok found
  | none => .error .outOfRange

/-- The records up to an execution, which must stand where the index says. -/
def history (log : Log) (target : EventId) : Except Fault (Option (List Record)) :=
  match log.position? target with
  | none => .ok none
  | some position => do
    let _ ← item log.entries position
    return some (log.entries.take (position + 1))

/-- The executions that may take part in the slice of the last of the records, in the order of their
moments. -/
def members (facts : Record → Facts) (history : List Record) : Except Fault (List Candidate) := do
  let last ← minus history.length 1
  let candidates := Timeline.candidates facts history
  let target ← item candidates last
  return (candidates.filter fun candidate =>
    candidate.moment.position == last ||
      candidate.moment.precedes target.moment).mergeSort Candidate.notAfter

/-- The definitions in all executions but the failed ones; the last execution may have failed. -/
def definitions (members : List Candidate) : Except Fault (List Definition) := do
  let last ← minus members.length 1
  return members.zipIdx.flatMap fun (candidate, rank) =>
    if candidate.record.failed && rank != last then [] else candidate.definitions rank

/-- The state of the loop. -/
structure Work where
  /-- The statements that were seen. -/
  visited : List Occurrence
  /-- The sites that wait, first come, first served. -/
  waiting : List Site
  /-- The sites that were taken from those that wait. -/
  taken : List Site := []
  /-- The statements that joined because a use led to them, in this order. -/
  joined : List Occurrence := []
deriving DecidableEq, Repr, Inhabited

/-- A source that was not seen before joins those that wait. -/
def Work.join (work : Work) (source : Site) (occurrence : Occurrence) : Work :=
  { work with
    visited := occurrence :: work.visited
    waiting := work.waiting ++ [source]
    joined := work.joined ++ [occurrence] }

/-- Follows the use of a name at a site. -/
def follow (members : List Candidate) (definitions : List Definition) (site : Site) (work : Work)
    (name : String) : Except Fault Work :=
  let sites := Timeline.sitesOf definitions name
  let before := countPassing (·.precedes site) sites.toArray
  if before = 0 then return work
  else do
    let place ← minus before 1
    let source ← item sites place
    let candidate ← item members source.rank
    let occurrence : Occurrence := ⟨candidate.record.event, source.index⟩
    return if occurrence ∈ work.visited then work else work.join source occurrence

/-- Takes a site and follows the uses of its statement; a number that no statement has is passed
over. -/
def round (members : List Candidate) (definitions : List Definition) (site : Site) (work : Work) :
    Except Fault Work := do
  let candidate ← item members site.rank
  let work := { work with taken := work.taken ++ [site] }
  match candidate.facts.statements[site.index]? with
  | none => return work
  | some statement => statement.uses.toList.foldlM (follow members definitions site) work

/-- Takes sites until none waits, for a number of rounds at most. -/
def loop (members : List Candidate) (definitions : List Definition) : Nat → Work → Except Fault Work
  | rounds, work =>
    match work.waiting with
    | [] => return work
    | site :: later =>
      match rounds with
      | 0 => .error .unfinished
      | rounds + 1 => do
        let next ← round members definitions site { work with waiting := later }
        loop members definitions rounds next

/-- What is kept of the executions of which a site was taken. -/
def groups (members : List Candidate) (taken : List Site) : Except Fault (List Group) :=
  (taken.map (·.rank)).eraseDups.mergeSort.mapM fun rank => do
    let candidate ← item members rank
    return candidate.keep (Timeline.numbersAt taken rank)

/-- The result of a guarded computation, with the statements from which it started and those that
joined. -/
structure Trace where
  slice : Slice
  seeds : List Occurrence := []
  joined : List Occurrence := []
deriving DecidableEq, Repr, Inhabited

/-- The slice of an execution, in a number of rounds at most. -/
def slice (log : Log) (target : EventId) (rounds : Nat) : Except Fault Trace := do
  match ← history log target with
  | none => return ⟨{}, [], []⟩
  | some history =>
    let members ← members log.factsFor history
    let last ← minus members.length 1
    let candidate ← item members last
    if candidate.facts.isEmpty then return ⟨⟨some target, [candidate.whole]⟩, [], []⟩
    else
      let definitions ← definitions members
      let seeds := candidate.facts.statements.map fun statement =>
        ⟨candidate.record.event, statement.index⟩
      let waiting := candidate.facts.statements.map fun statement => ⟨last, statement.index⟩
      let work ← loop members definitions rounds { visited := seeds, waiting }
      let groups ← groups members work.taken
      return ⟨⟨some target, groups⟩, seeds, work.joined⟩

/-! ### What comes before the loop -/

theorem minus_one_bind {α : Type} (number : Nat) (next : Nat → Except Fault α) :
    (minus (number + 1) 1 >>= next) = next number := by
  rw [minus, if_pos (Nat.le_add_left 1 number)]
  rfl

theorem item_bind {α β : Type} {items : List α} {place : Nat} {found : α}
    (atPlace : items[place]? = some found) (next : α → Except Fault β) :
    (item items place >>= next) = next found := by
  rw [item, atPlace]
  rfl

theorem history_eq {log : Log} (consistent : log.Consistent) (target : EventId) :
    history log target = .ok (log.upTo? target) := by
  rw [history, Log.upTo?, consistent.position?_eq]
  cases found : log.entries.findIdx? (·.event == target) with
  | none => rfl
  | some position =>
      rcases consistent.findIdx?_eq_some_iff.mp found with ⟨record, atPosition, _⟩
      exact item_bind atPosition _

section Unfolding

variable {log : Log} {timeline : Timeline} {position : Nat} {target : Record}

/-- The target is sorted behind all others that may take part. -/
theorem members_eq (unfolding : log.Unfolding timeline position target) :
    members log.factsFor (log.entries.take (position + 1)) = .ok timeline.members := by
  have within := (List.getElem?_eq_some_iff.mp unfolding.atPosition).1
  have length : (log.entries.take (position + 1)).length = position + 1 := by
    rw [List.length_take]
    omega
  have targetAt : (Timeline.candidates log.factsFor (log.entries.take (position + 1)))[position]? =
      some timeline.target := by
    rw [Timeline.getElem?_candidates, List.getElem?_take_of_succ, unfolding.atPosition,
      unfolding.covers.target_eq, Option.map_some,
      Timeline.candidateAt_take _ (Nat.lt_succ_self position)]
  have targetPosition : timeline.target.moment.position = position := by
    rw [unfolding.covers.target_eq]
    rfl
  rw [members, length, minus_one_bind, item_bind targetAt]
  change Except.ok _ = Except.ok _
  congr 1
  have irreflexive : Std.Irrefl fun first second : Candidate =>
      first.moment.precedes second.moment = true :=
    ⟨fun candidate => Moment.precedes_irrefl candidate.moment⟩
  have antisymmetric : Std.Antisymm fun first second : Candidate =>
      first.moment.precedes second.moment = true := by
    refine ⟨fun first second before after => ?_⟩
    rw [Moment.precedes_iff] at before after
    omega
  apply (Timeline.pairwise_mergeSort_filter log.factsFor _ _).eq_of_mem_iff
    unfolding.covers.pairwise_members
  intro candidate
  rw [List.mem_mergeSort, List.mem_filter, Timeline.mem_candidates_take, Timeline.members,
    List.mem_append, List.mem_singleton, unfolding.covers.mem_earlier_iff,
    Bool.or_eq_true, beq_iff_eq]
  constructor
  · rintro ⟨⟨place, record, below, atPlace, rfl⟩, isLast | before⟩
    · right
      have samePlace : place = position := isLast
      rw [samePlace, unfolding.atPosition, Option.some.injEq] at atPlace
      rw [unfolding.covers.target_eq, samePlace, atPlace]
    · left
      refine ⟨place, record, ?_, atPlace, rfl, before⟩
      rcases Nat.lt_or_eq_of_le (Nat.le_of_lt_succ below) with less | rfl
      · exact less
      · rw [unfolding.covers.target_eq] at before
        exact absurd before (Moment.precedes_irrefl _)
  · rintro (⟨place, record, below, atPlace, rfl, before⟩ | rfl)
    · exact ⟨⟨place, record, Nat.lt_succ_of_lt below, atPlace, rfl⟩, Or.inr before⟩
    · exact ⟨⟨position, target, Nat.lt_succ_self position, unfolding.atPosition,
        unfolding.covers.target_eq⟩, Or.inl targetPosition⟩

end Unfolding

theorem length_members (timeline : Timeline) :
    timeline.members.length = timeline.earlier.length + 1 := by
  simp [Timeline.members]

theorem last_bind {α : Type} (timeline : Timeline) (next : Nat → Except Fault α) :
    (minus timeline.members.length 1 >>= next) = next timeline.earlier.length := by
  rw [length_members, minus_one_bind]

theorem definitions_eq (timeline : Timeline) :
    definitions timeline.members = .ok timeline.definitions := by
  rw [definitions, last_bind, Timeline.definitions_eq_flatMap]
  change Except.ok _ = Except.ok _
  congr 1
  apply List.flatMap_congr
  rintro ⟨candidate, rank⟩ _
  simp [Timeline.contribution]

/-! ### One use -/

variable {timeline : Timeline}

theorem rank_lt_of_mem_definitions {definition : Definition}
    (member : definition ∈ timeline.definitions) :
    definition.site.rank < timeline.members.length := by
  rw [Timeline.definitions_eq_flatMap, List.mem_flatMap] at member
  rcases member with ⟨⟨candidate, rank⟩, atRank, contributed⟩
  rw [Candidate.site_rank_of_mem_definitions (Timeline.mem_contribution.mp contributed).2]
  exact (List.getElem?_eq_some_iff.mp (List.mem_zipIdx_iff_getElem?.mp atRank)).1

/-- The source to which the use of a name at a site leads. -/
def source? (timeline : Timeline) (site : Site) (name : String) : Option Site :=
  site.nearestBefore? (Timeline.sitesOf timeline.definitions name).toArray

theorem exists_definition_of_source? {site source : Site} {name : String}
    (leads : source? timeline site name = some source) :
    ∃ definition ∈ timeline.definitions, definition.site = source := by
  exact ⟨⟨name, source⟩, Timeline.mem_sitesOf.mp (Site.mem_of_nearestBefore?_eq_some leads), rfl⟩

/-- Following a use violates no guard: it leads nowhere and changes nothing, or it leads to a site
of the timeline, which joins unless its statement was seen. -/
theorem follow_cases (site : Site) (work : Work) (name : String) :
    (source? timeline site name = none ∧
      follow timeline.members timeline.definitions site work name = .ok work) ∨
      ∃ source occurrence, source? timeline site name = some source ∧
        timeline.Locates source occurrence ∧
        follow timeline.members timeline.definitions site work name =
          .ok (if occurrence ∈ work.visited then work else work.join source occurrence) := by
  have bound :=
    countPassing_le_size (·.precedes site) (Timeline.sitesOf timeline.definitions name).toArray
  rw [List.size_toArray] at bound
  simp only [source?, Site.nearestBefore?, follow]
  cases counted : countPassing (·.precedes site)
    (Timeline.sitesOf timeline.definitions name).toArray with
  | zero => exact Or.inl ⟨rfl, rfl⟩
  | succ place =>
      right
      rw [counted] at bound
      have atPlace := List.getElem?_eq_getElem (Nat.lt_of_succ_le bound)
      generalize (Timeline.sitesOf timeline.definitions name)[place] = source at atPlace
      have inRange :=
        rank_lt_of_mem_definitions (Timeline.mem_sitesOf.mp (List.mem_of_getElem? atPlace))
      have atRank := List.getElem?_eq_getElem inRange
      generalize timeline.members[source.rank] = candidate at atRank
      refine ⟨source, ⟨candidate.record.event, source.index⟩, by simpa using atPlace,
        ⟨candidate, atRank, rfl, rfl⟩, ?_⟩
      rw [if_neg (Nat.succ_ne_zero place), minus_one_bind, item_bind atPlace, item_bind atRank]
      rfl

/-! ### The invariant -/

/-- The sites that were taken or wait. -/
def Work.sites (work : Work) : List Site := work.taken ++ work.waiting

theorem Work.mem_sites_join {work : Work} {source site : Site} {occurrence : Occurrence} :
    site ∈ (work.join source occurrence).sites ↔ site ∈ work.sites ∨ site = source := by
  simp [Work.sites, Work.join, or_assoc]

theorem Work.mem_joined_join {work : Work} {source : Site} {occurrence other : Occurrence} :
    other ∈ (work.join source occurrence).joined ↔ other ∈ work.joined ∨ other = occurrence := by
  simp [Work.join]

/-- What was taken or waits was seen, is on the timeline and is needed, and it includes the seeds.
What was seen is a seed or joined; each statement joined once and from a definition, and none that
is a seed. -/
structure Progress (timeline : Timeline) (seeds : List Occurrence) (work : Work) : Prop where
  visited_iff : ∀ occurrence, occurrence ∈ work.visited ↔
    ∃ site ∈ work.sites, timeline.Locates site occurrence
  located : ∀ site ∈ work.sites, ∃ occurrence, timeline.Locates site occurrence
  needed : ∀ site ∈ work.sites, site ∈ timeline.needed
  seeds_mem : ∀ site ∈ timeline.seeds, site ∈ work.sites
  seen_iff : ∀ occurrence, occurrence ∈ work.visited ↔ occurrence ∈ seeds ∨ occurrence ∈ work.joined
  joined_defines : ∀ occurrence ∈ work.joined, ∃ definition ∈ timeline.definitions,
    timeline.Locates definition.site occurrence
  nodup_joined : work.joined.Nodup
  joined_apart : ∀ occurrence ∈ work.joined, occurrence ∉ seeds
  count : work.sites.length = seeds.length + work.joined.length

/-- With each site that was taken, its sources were taken or wait. -/
def Work.Closed (timeline : Timeline) (work : Work) : Prop :=
  ∀ site ∈ work.taken, ∀ source ∈ timeline.sources timeline.definitions site, source ∈ work.sites

variable {seeds : List Occurrence} {work : Work}

theorem Progress.join (progress : Progress timeline seeds work) {source : Site}
    {occurrence : Occurrence} (locates : timeline.Locates source occurrence)
    (isNeeded : source ∈ timeline.needed)
    (defines : ∃ definition ∈ timeline.definitions, definition.site = source)
    (fresh : occurrence ∉ work.visited) :
    Progress timeline seeds (work.join source occurrence) where
  visited_iff other := by
    simp only [Work.mem_sites_join]
    change other ∈ occurrence :: work.visited ↔ _
    rw [List.mem_cons, progress.visited_iff]
    constructor
    · rintro (rfl | ⟨site, member, locatesOther⟩)
      · exact ⟨source, Or.inr rfl, locates⟩
      · exact ⟨site, Or.inl member, locatesOther⟩
    · rintro ⟨site, member | rfl, locatesOther⟩
      · exact Or.inr ⟨site, member, locatesOther⟩
      · exact Or.inl (Timeline.occurrence_eq_of_locates locatesOther locates)
  located site member := by
    rcases Work.mem_sites_join.mp member with member | rfl
    · exact progress.located site member
    · exact ⟨occurrence, locates⟩
  needed site member := by
    rcases Work.mem_sites_join.mp member with member | rfl
    · exact progress.needed site member
    · exact isNeeded
  seeds_mem site member := Work.mem_sites_join.mpr (Or.inl (progress.seeds_mem site member))
  seen_iff other := by
    rw [Work.mem_joined_join, ← or_assoc, ← progress.seen_iff]
    exact List.mem_cons.trans or_comm
  joined_defines other member := by
    rcases Work.mem_joined_join.mp member with member | rfl
    · exact progress.joined_defines other member
    · rcases defines with ⟨definition, isDefinition, rfl⟩
      exact ⟨definition, isDefinition, locates⟩
  nodup_joined := by
    refine List.nodup_append.mpr ⟨progress.nodup_joined, List.nodup_singleton occurrence, ?_⟩
    intro other member last isLast same
    rw [same, List.mem_singleton.mp isLast] at member
    exact fresh ((progress.seen_iff occurrence).mpr (Or.inr member))
  joined_apart other member := by
    rcases Work.mem_joined_join.mp member with member | rfl
    · exact progress.joined_apart other member
    · exact fun isSeed => fresh ((progress.seen_iff other).mpr (Or.inl isSeed))
  count := by
    have count := progress.count
    simp only [Work.sites, Work.join, List.length_append, List.length_singleton] at count ⊢
    omega

/-! ### One round -/

section Unfolding

variable {log : Log} {position : Nat} {target : Record}

theorem site_eq_of_locates (unfolding : log.Unfolding timeline position target)
    {first second : Site} {occurrence : Occurrence}
    (locatesFirst : timeline.Locates first occurrence)
    (locatesSecond : timeline.Locates second occurrence) : first = second := by
  rcases (unfolding.time_le_iff locatesFirst locatesSecond).mp (le_refl _) with same | before
  · exact same
  · exact absurd ((unfolding.precedes_iff_time_lt locatesFirst locatesSecond).mp before)
      (lt_irrefl _)

/-- Following the uses of some names keeps the invariant, and what they lead to waits or was
taken. -/
theorem foldlM_follow (unfolding : log.Unfolding timeline position target) (site : Site)
    (names : List String)
    (leads : ∀ name ∈ names, ∀ source, source? timeline site name = some source →
      source ∈ timeline.needed)
    (progress : Progress timeline seeds work) :
    ∃ next, names.foldlM (follow timeline.members timeline.definitions site) work = .ok next ∧
      Progress timeline seeds next ∧ next.taken = work.taken ∧ work.sites ⊆ next.sites ∧
      ∀ name ∈ names, ∀ source, source? timeline site name = some source → source ∈ next.sites := by
  induction names generalizing work with
  | nil => exact ⟨work, rfl, progress, rfl, fun _ member => member, by simp⟩
  | cons name names ih =>
      -- The first use keeps the invariant and leads, if anywhere, to a site that was taken or
      -- waits.
      have first : ∃ middle,
          follow timeline.members timeline.definitions site work name = .ok middle ∧
          Progress timeline seeds middle ∧ middle.taken = work.taken ∧ work.sites ⊆ middle.sites ∧
          ∀ source, source? timeline site name = some source → source ∈ middle.sites := by
        rcases follow_cases site work name with
          ⟨nowhere, followed⟩ | ⟨source, occurrence, found, locates, followed⟩
        · exact ⟨work, followed, progress, rfl, fun _ member => member, by simp [nowhere]⟩
        · by_cases seen : occurrence ∈ work.visited
          · rw [if_pos seen] at followed
            refine ⟨work, followed, progress, rfl, fun _ member => member, ?_⟩
            intro other otherFound
            rw [found, Option.some.injEq] at otherFound
            rcases (progress.visited_iff occurrence).mp seen with ⟨known, member, locatesKnown⟩
            rwa [← otherFound, site_eq_of_locates unfolding locates locatesKnown]
          · rw [if_neg seen] at followed
            have isNeeded := leads name List.mem_cons_self source found
            refine ⟨work.join source occurrence, followed,
              progress.join locates isNeeded (exists_definition_of_source? found) seen, rfl,
              fun _ member => Work.mem_sites_join.mpr (Or.inl member), ?_⟩
            intro other otherFound
            rw [found, Option.some.injEq] at otherFound
            exact Work.mem_sites_join.mpr (Or.inr otherFound.symm)
      rcases first with ⟨middle, followed, middleProgress, middleTaken, middleSites, found⟩
      rcases ih (fun other member => leads other (List.mem_cons_of_mem _ member))
        middleProgress with
        ⟨next, followedAll, nextProgress, nextTaken, nextSites, foundAll⟩
      refine ⟨next, ?_, nextProgress, nextTaken.trans middleTaken,
        fun _ member => nextSites (middleSites member), ?_⟩
      · rw [List.foldlM_cons, followed]
        exact followedAll
      · intro other member source leadsTo
        rcases List.mem_cons.mp member with rfl | member
        · exact nextSites (found source leadsTo)
        · exact foundAll other member source leadsTo

/-- A round keeps the invariant, and takes the first site that waits. -/
theorem exists_round (unfolding : log.Unfolding timeline position target)
    (progress : Progress timeline seeds work) (closed : work.Closed timeline) {site : Site}
    {later : List Site} (waits : work.waiting = site :: later) :
    ∃ next,
      round timeline.members timeline.definitions site { work with waiting := later } = .ok next ∧
      Progress timeline seeds next ∧ next.Closed timeline ∧ next.taken = work.taken ++ [site] := by
  let current : Work := { work with waiting := later, taken := work.taken ++ [site] }
  have sameSites : current.sites = work.sites := by simp [current, Work.sites, waits]
  have currentProgress : Progress timeline seeds current :=
    { progress with
      visited_iff := sameSites ▸ progress.visited_iff
      located := sameSites ▸ progress.located
      needed := sameSites ▸ progress.needed
      seeds_mem := sameSites ▸ progress.seeds_mem
      count := sameSites ▸ progress.count }
  have siteMem : site ∈ work.sites := by simp [Work.sites, waits]
  rcases progress.located site siteMem with ⟨occurrence, candidate, atRank, _⟩
  have statementAt : timeline.statementAt? site = candidate.facts.statements[site.index]? := by
    rw [Timeline.statementAt?, atRank, Option.bind_some]
  rw [round, item_bind atRank]
  cases found : candidate.facts.statements[site.index]? with
  | none =>
      refine ⟨current, rfl, currentProgress, ?_, rfl⟩
      intro taken takenMem source depends
      rw [sameSites]
      rcases List.mem_append.mp takenMem with earlier | isSite
      · exact closed taken earlier source depends
      · rw [List.mem_singleton.mp isSite, Timeline.sources, statementAt, found] at depends
        simp at depends
  | some statement =>
      have isSource : ∀ name ∈ statement.uses.toList,
          ∀ source, source? timeline site name = some source →
          source ∈ timeline.sources timeline.definitions site := by
        intro name isUsed source leadsTo
        exact Timeline.mem_sources_iff.mpr
          ⟨statement, statementAt.trans found, name, isUsed, leadsTo⟩
      have leads : ∀ name ∈ statement.uses.toList,
          ∀ source, source? timeline site name = some source →
          source ∈ timeline.needed := by
        intro name isUsed source leadsTo
        exact Timeline.mem_needed_of_mem_sources (progress.needed site siteMem)
          (isSource name isUsed source leadsTo)
      rcases foldlM_follow unfolding site statement.uses.toList leads currentProgress with
        ⟨next, followed, nextProgress, nextTaken, nextSites, foundAll⟩
      refine ⟨next, followed, nextProgress, ?_, nextTaken⟩
      intro taken takenMem source depends
      rw [nextTaken] at takenMem
      rcases List.mem_append.mp takenMem with earlier | isSite
      · exact nextSites (sameSites ▸ closed taken earlier source depends)
      · rw [List.mem_singleton.mp isSite] at depends
        rcases Timeline.mem_sources_iff.mp depends with ⟨other, otherFound, name, isUsed, leadsTo⟩
        rw [statementAt, found, Option.some.injEq] at otherFound
        subst otherFound
        exact foundAll name isUsed source leadsTo

/-! ### All rounds -/

/-- No more statements join than there are definitions. -/
theorem Progress.length_joined_le (progress : Progress timeline seeds work) :
    work.joined.length ≤ timeline.definitions.length := by
  let occurrences : List Occurrence := timeline.definitions.filterMap fun definition =>
    timeline.members[definition.site.rank]?.map fun candidate =>
      ⟨candidate.record.event, definition.site.index⟩
  have listed : work.joined ⊆ occurrences := by
    intro occurrence member
    rcases progress.joined_defines occurrence member with
      ⟨definition, isDefinition, candidate, atRank, event, index⟩
    refine List.mem_filterMap.mpr ⟨definition, isDefinition, ?_⟩
    rw [atRank, Option.map_some, event, index]
  calc work.joined.length ≤
    occurrences.length := (List.subperm_of_subset progress.nodup_joined listed).length_le
    _ ≤ timeline.definitions.length := List.length_filterMap_le _ _

/-- The loop ends after one round for each site that is taken. The induction is on the number of
rounds that are left until all seeds and all definitions would have been taken. -/
theorem exists_loop (unfolding : log.Unfolding timeline position target) (left : Nat)
    (progress : Progress timeline seeds work) (closed : work.Closed timeline)
    (enough : seeds.length + timeline.definitions.length ≤ work.taken.length + left) :
    ∃ final, (∀ rounds, final.taken.length ≤ work.taken.length + rounds →
        loop timeline.members timeline.definitions rounds work = .ok final) ∧
      work.taken.length ≤ final.taken.length ∧ final.waiting = [] ∧ Progress timeline seeds final ∧
      final.Closed timeline := by
  induction left generalizing work with
  | zero =>
      have count := progress.count
      have bound := progress.length_joined_le
      simp only [Work.sites, List.length_append] at count
      have exhausted : work.waiting = [] := List.length_eq_zero_iff.mp (by omega)
      refine ⟨work, ?_, le_refl _, exhausted, progress, closed⟩
      intro rounds _
      rw [loop, exhausted]
      rfl
  | succ left ih =>
      cases waits : work.waiting with
      | nil =>
          refine ⟨work, ?_, le_refl _, waits, progress, closed⟩
          intro rounds _
          rw [loop, waits]
          rfl
      | cons site later =>
          rcases exists_round unfolding progress closed waits with
            ⟨next, passed, nextProgress, nextClosed, nextTaken⟩
          have oneMore : next.taken.length = work.taken.length + 1 := by
            rw [nextTaken, List.length_append, List.length_singleton]
          rcases ih nextProgress nextClosed (by omega) with
            ⟨final, ends, grows, exhausted, finalProgress, finalClosed⟩
          refine ⟨final, ?_, by omega, exhausted, finalProgress, finalClosed⟩
          intro rounds within
          cases rounds with
          | zero => omega
          | succ rounds =>
              rw [loop, waits]
              change (do let next ← round _ _ _ _; loop _ _ rounds next) = _
              rw [passed]
              exact ends rounds (by omega)

end Unfolding

/-- At the end, what was taken is what is needed. -/
theorem Progress.mem_taken_iff (progress : Progress timeline seeds work)
    (closed : work.Closed timeline) (exhausted : work.waiting = []) {site : Site} :
    site ∈ work.taken ↔ site ∈ timeline.needed := by
  have sites : work.sites = work.taken := by rw [Work.sites, exhausted, List.append_nil]
  constructor
  · intro isTaken
    exact progress.needed site (sites ▸ isTaken)
  · intro isNeeded
    apply Timeline.mem_of_mem_needed (· ∈ work.taken) _ _ isNeeded
    · exact fun seed isSeed => sites ▸ progress.seeds_mem seed isSeed
    · exact fun taken isTaken source depends => sites ▸ closed taken isTaken source depends

/-! ### What comes after the loop -/

theorem mapM_item_keep {members : List Candidate} {taken : List Site}
    {kept : List (Candidate × Nat)}
    (standing : ∀ candidate rank, (candidate, rank) ∈ kept → members[rank]? = some candidate) :
    ((kept.map (·.2)).mapM fun rank => do
        let candidate ← item members rank
        return candidate.keep (Timeline.numbersAt taken rank)) =
      (.ok (kept.map fun (candidate, rank) => candidate.keep (Timeline.numbersAt taken rank)) :
        Except Fault (List Group)) := by
  induction kept with
  | nil => rfl
  | cons head tail ih =>
      rcases head with ⟨candidate, rank⟩
      rw [List.map_cons, List.mapM_cons, item_bind (standing candidate rank List.mem_cons_self),
        ih fun other otherRank member => standing other otherRank (List.mem_cons_of_mem _ member)]
      rfl

/-- Only which sites were taken matters to what is kept, and all of their executions are on the
timeline. -/
theorem groups_eq {taken : List Site} (nonempty : timeline.target.facts.isEmpty = false)
    (located : ∀ site ∈ taken, ∃ occurrence, timeline.Locates site occurrence)
    (same : ∀ site, site ∈ taken ↔ site ∈ timeline.needed) :
    groups timeline.members taken = .ok timeline.groups := by
  have sameNumbers : ∀ rank,
      Timeline.numbersAt taken rank = Timeline.numbersAt timeline.needed rank := by
    intro rank
    apply (Timeline.pairwise_numbersAt _ _).eq_of_mem_iff (Timeline.pairwise_numbersAt _ _)
    intro index
    rw [Timeline.mem_numbersAt, Timeline.mem_numbersAt, same]
  have ranks : (taken.map (·.rank)).eraseDups.mergeSort = timeline.contributors.map (·.2) := by
    apply (pairwise_mergeSort_eraseDups _).eq_of_mem_iff
    · rw [List.pairwise_map]
      exact timeline.pairwise_rank_members.filter _
    · intro rank
      simp only [List.mem_mergeSort, List.mem_eraseDups, List.mem_map, Prod.exists,
        Timeline.mem_contributors]
      constructor
      · rintro ⟨site, isTaken, rfl⟩
        rcases located site isTaken with ⟨_, candidate, atRank, _⟩
        refine ⟨candidate, site.rank, ⟨atRank, ?_⟩, rfl⟩
        exact List.ne_nil_of_mem (Timeline.mem_numbersAt.mpr ((same site).mp isTaken))
      · rintro ⟨candidate, _, ⟨_, some⟩, rfl⟩
        rcases List.exists_mem_of_ne_nil _ some with ⟨index, kept⟩
        exact ⟨⟨_, index⟩, (same _).mpr (Timeline.mem_numbersAt.mp kept), rfl⟩
  rw [groups, ranks,
    mapM_item_keep fun candidate rank member => (Timeline.mem_contributors.mp member).1,
    Timeline.groups_eq_map_contributors nonempty]
  simp only [sameNumbers]

/-! ### The whole computation -/

/-- The statements of the target, by their numbers. -/
def seedsOf (timeline : Timeline) : List Occurrence :=
  timeline.target.facts.statements.map fun statement =>
    ⟨timeline.target.record.event, statement.index⟩

theorem progress_start (timeline : Timeline) :
    Progress timeline (seedsOf timeline)
      { visited := seedsOf timeline, waiting := timeline.seeds } where
  visited_iff occurrence := by
    simp only [Work.sites, List.nil_append, seedsOf, Timeline.seeds, List.mem_map]
    constructor
    · rintro ⟨statement, member, rfl⟩
      exact ⟨_, ⟨statement, member, rfl⟩, timeline.target,
        timeline.getElem?_members_length, rfl, rfl⟩
    · rintro ⟨_, ⟨statement, member, rfl⟩, locates⟩
      refine ⟨statement, member, ?_⟩
      exact Timeline.occurrence_eq_of_locates
        ⟨timeline.target, timeline.getElem?_members_length, rfl, rfl⟩ locates
  located site member := by
    rcases List.mem_map.mp member with ⟨statement, _, rfl⟩
    exact ⟨⟨_, statement.index⟩, timeline.target, timeline.getElem?_members_length, rfl, rfl⟩
  needed site member := Timeline.mem_needed_of_mem_seeds member
  seeds_mem site member := member
  seen_iff := by simp
  joined_defines := by simp
  nodup_joined := List.nodup_nil
  joined_apart := by simp
  count := by simp [Work.sites, Timeline.seeds, seedsOf]

/-- For a logged target, what is left is to run the loop and to collect the groups. -/
theorem slice_eq {log : Log} {timeline : Timeline} {position : Nat} {target : Record}
    (unfolding : log.Unfolding timeline position target) (rounds : Nat) :
    slice log target.event rounds =
      if timeline.target.facts.isEmpty then
        .ok ⟨⟨some target.event, [timeline.target.whole]⟩, [], []⟩
      else do
        let work ← loop timeline.members timeline.definitions rounds
          { visited := seedsOf timeline, waiting := timeline.seeds }
        let groups ← groups timeline.members work.taken
        return ⟨⟨some target.event, groups⟩, seedsOf timeline, work.joined⟩ := by
  have isLogged := unfolding.consistent.findIdx?_eq_some_iff.mpr ⟨target, unfolding.atPosition, rfl⟩
  rw [slice, history_eq unfolding.consistent, unfolding.consistent.upTo?_eq, isLogged]
  change (do let members ← members log.factsFor (log.entries.take (position + 1)); _) = _
  rw [members_eq unfolding]
  change (do let last ← minus timeline.members.length 1; _) = _
  rw [last_bind, item_bind timeline.getElem?_members_length]
  split
  · rfl
  · rw [definitions_eq]
    rfl

/-- The guarded computation of the slice of a target ends with the trace. -/
structure Ends (log : Log) (target : EventId) (trace : Trace) : Prop where
  /-- There is one round for each seed and for each statement that joined; with so many, no fault
  occurs. -/
  slice_eq_ok : ∀ rounds, trace.seeds.length + trace.joined.length ≤ rounds →
    slice log target rounds = .ok trace
  slice_eq : trace.slice = log.slice target
  kept_iff : ∀ occurrence, occurrence ∈ (log.slice target).occurrences ↔
    occurrence ∈ trace.seeds ∨ occurrence ∈ trace.joined
  nodup_joined : trace.joined.Nodup
  joined_apart : ∀ occurrence ∈ trace.joined, occurrence ∉ trace.seeds

theorem ends_of_not_logged {log : Log} {target : EventId} (consistent : log.Consistent)
    (unknown : log.upTo? target = none) : Ends log target ⟨{}, [], []⟩ := by
  have isEmpty : log.slice target = {} := by
    rw [Log.slice, Log.timeline?, unknown]
    rfl
  refine ⟨?_, isEmpty.symm, ?_, List.nodup_nil, by simp⟩
  · intro rounds _
    rw [slice, history_eq consistent, unknown]
    rfl
  · simp [isEmpty, Slice.occurrences]

/-- A target without statements is kept whole, without a search. -/
theorem ends_of_isEmpty {log : Log} {timeline : Timeline} {position : Nat} {target : Record}
    (unfolding : log.Unfolding timeline position target)
    (found : log.timeline? target.event = some timeline)
    (isEmpty : timeline.target.facts.isEmpty = true) :
    Ends log target.event ⟨⟨some target.event, [timeline.target.whole]⟩, [], []⟩ := by
  have isWhole : log.slice target.event = ⟨some target.event, [timeline.target.whole]⟩ := by
    rw [Log.slice_eq found, Timeline.groups_eq_whole isEmpty]
  refine ⟨?_, isWhole.symm, ?_, List.nodup_nil, by simp⟩
  · intro rounds _
    rw [slice_eq unfolding, if_pos isEmpty]
  · simp [isWhole, Slice.occurrences, Candidate.whole, Candidate.group]

theorem exists_ends {log : Log} {timeline : Timeline} {position : Nat} {target : Record}
    (unfolding : log.Unfolding timeline position target)
    (found : log.timeline? target.event = some timeline)
    (nonempty : timeline.target.facts.isEmpty = false) : ∃ trace, Ends log target.event trace := by
  rcases exists_loop unfolding _ (progress_start timeline) (by simp [Work.Closed])
    (Nat.le_add_left _ _) with
    ⟨final, ends, _, exhausted, progress, closed⟩
  have sites : final.sites = final.taken := by rw [Work.sites, exhausted, List.append_nil]
  have groups := groups_eq nonempty (sites ▸ progress.located) fun site =>
    progress.mem_taken_iff closed exhausted
  refine ⟨⟨⟨some target.event, timeline.groups⟩, seedsOf timeline, final.joined⟩, ?_, ?_, ?_,
    progress.nodup_joined, progress.joined_apart⟩
  · intro rounds within
    have enough : final.taken.length ≤ 0 + rounds := by
      rw [← sites, progress.count, Nat.zero_add]
      exact within
    rw [slice_eq unfolding, if_neg (by simp [nonempty]), ends rounds enough]
    change (do let groups ← Guarded.groups timeline.members final.taken; _) = _
    rw [groups]
    rfl
  · rw [Log.slice_eq found]
  · intro occurrence
    rw [Log.mem_occurrences_slice_iff found nonempty, ← progress.seen_iff,
      progress.visited_iff, sites]
    simp only [progress.mem_taken_iff closed exhausted]

end Guarded

/-- Slicing is safe whatever the analyzer says: with a guard at every difference and every access by
place, the computation of the slice of any execution ends without a fault and gives the slice of the
log. It takes a round for each seed and for each statement that joined because a use led to it; a
statement joins once at most, and not at all if it was a seed. -/
theorem Log.slice_never_faults (analyzer : Analyzer) (operations : List Operation)
    (target : EventId) :
    ∃ trace, Guarded.Ends ((empty analyzer).run operations) target trace := by
  have consistent := consistent_run_empty analyzer operations
  cases upTo : ((empty analyzer).run operations).upTo? target with
  | none => exact ⟨_, Guarded.ends_of_not_logged consistent upTo⟩
  | some history =>
      rcases exists_unfolding consistent (consistent.logged_of_upTo?_eq_some upTo) with
        ⟨timeline, position, record, rfl, found, unfolding⟩
      cases isEmpty : timeline.target.facts.isEmpty with
      | true => exact ⟨_, Guarded.ends_of_isEmpty unfolding found isEmpty⟩
      | false => exact Guarded.exists_ends unfolding found isEmpty

end NotebookSlice

import Mathlib.Data.List.Basic
import NotebookSlice.Slice.Search

/-!
# Search for dependencies

This file gives the meaning of the two searches behind a slice.

Halving finds the point at which a test stops passing, so among ascending sites
`Site.nearestBefore?` finds the last one before a site. Following sources with `reach` gives the
least set that contains the sites that wait and is closed under sources: it contains them, it is
closed, and it lies within each closed set that contains them.
-/

namespace NotebookSlice

/-! ### Halving -/

/-- The point stays within the stretch that is halved. -/
theorem halve_eq {α : Type} {test : α → Bool} {items : Array α} {point : Nat}
    (split : ∀ place, items[place]?.any test = true ↔ place < point) {base size : Nat}
    (lower : base ≤ point) (upper : point ≤ base + size) :
    halve test items base size = point := by
  fun_induction halve test items base size with
  | case1 base size small passes =>
      have beforePoint := (split base).mp passes
      omega
  | case2 base size small fails =>
      have notBefore := mt (split base).mpr fails
      omega
  | case3 base size large middle passes ih =>
      have beforePoint := (split middle).mp passes
      apply ih
      · omega
      · omega
  | case4 base size large middle fails ih =>
      have notBefore := mt (split middle).mpr fails
      apply ih
      · exact lower
      · omega

theorem countPassing_eq {α : Type} {test : α → Bool} {items : Array α} {point : Nat}
    (split : ∀ place, items[place]?.any test = true ↔ place < point) :
    countPassing test items = point := by
  apply halve_eq split (Nat.zero_le point)
  rcases Nat.lt_or_ge items.size point with beyond | within
  · have passes := (split items.size).mpr beyond
    simp at passes
  · omega

/-- No more items are counted than there are, whether or not those that pass come first. -/
theorem halve_le_size {α : Type} {test : α → Bool} {items : Array α} {base size : Nat}
    (within : base + size ≤ items.size) : halve test items base size ≤ items.size := by
  fun_induction halve test items base size with
  | case1 base size small passes =>
      rcases (Option.any_eq_true _ _).mp passes with ⟨_, found, _⟩
      exact (Array.getElem?_eq_some_iff.mp found).1
  | case2 base size small fails => omega
  | case3 base size large middle passes ih => exact ih (by omega)
  | case4 base size large middle fails ih => exact ih (by omega)

theorem countPassing_le_size {α : Type} (test : α → Bool) (items : Array α) :
    countPassing test items ≤ items.size :=
  halve_le_size (by omega)

/-- When what passes comes before what does not, the passing items are those at the start. -/
theorem any_getElem?_iff_lt_length_takeWhile {α : Type} {test : α → Bool} {items : List α}
    (sorted : items.Pairwise fun first second => test second = true → test first = true)
    (place : Nat) :
    items[place]?.any test = true ↔ place < (items.takeWhile test).length := by
  induction items generalizing place with
  | nil => simp
  | cons head tail ih =>
      rcases List.pairwise_cons.mp sorted with ⟨headFirst, tailSorted⟩
      by_cases passes : test head = true
      · cases place with
        | zero => simp [passes]
        | succ place => simpa [passes] using ih tailSorted place
      · have nonePass : ∀ item ∈ tail, ¬test item = true :=
          fun item member itemPasses => passes (headFirst item member itemPasses)
        cases place with
        | zero => simp [passes]
        | succ place =>
            simp only [List.getElem?_cons_succ, List.takeWhile_cons, passes, Bool.false_eq_true,
              if_false, List.length_nil, Nat.not_lt_zero, iff_false]
            intro found
            rcases (Option.any_eq_true _ _).mp found with ⟨item, atPlace, itemPasses⟩
            exact nonePass item (List.mem_of_getElem? atPlace) itemPasses

/-! ### The nearest site -/

namespace Site

theorem precedes_iff {first second : Site} :
    first.precedes second = true ↔
      first.rank < second.rank ∨ first.rank = second.rank ∧ first.index < second.index := by
  simp [precedes]

theorem precedes_irrefl (site : Site) : ¬site.precedes site = true := by
  rw [precedes_iff]
  omega

theorem precedes_trans {first second third : Site} (before : first.precedes second = true)
    (after : second.precedes third = true) : first.precedes third = true := by
  rw [precedes_iff] at *
  omega

/-- Sites in ascending order, each once. -/
def Ascending (sites : List Site) : Prop :=
  sites.Pairwise fun first second => first.precedes second = true

theorem Ascending.passing_first {sites : List Site} (ascending : Ascending sites) (site : Site) :
    sites.Pairwise fun first second => second.precedes site = true → first.precedes site = true :=
  ascending.imp fun before => precedes_trans before

/-- The sites before a site are those whose place is below their number. -/
theorem any_precedes_iff_lt_countPassing {sites : List Site}
    (ascending : Ascending sites) (site : Site) (place : Nat) :
    sites[place]?.any (·.precedes site) = true ↔
      place < countPassing (·.precedes site) sites.toArray := by
  have split := any_getElem?_iff_lt_length_takeWhile (ascending.passing_first site)
  have point : countPassing (·.precedes site) sites.toArray =
      (sites.takeWhile (·.precedes site)).length := by
    apply countPassing_eq
    intro place
    simpa using split place
  rw [point]
  exact split place

/-- What is found is among the sites, in whatever order they are. -/
theorem mem_of_nearestBefore?_eq_some {sites : List Site} {site source : Site}
    (found : site.nearestBefore? sites.toArray = some source) : source ∈ sites := by
  rw [nearestBefore?] at found
  split at found
  · simp at found
  · rw [List.getElem?_toArray] at found
    exact List.mem_of_getElem? found

theorem nearestBefore?_eq_none_iff {sites : List Site} (ascending : Ascending sites) {site : Site} :
    site.nearestBefore? sites.toArray = none ↔ ∀ other ∈ sites, ¬other.precedes site = true := by
  have split := any_precedes_iff_lt_countPassing ascending site
  simp only [nearestBefore?]
  generalize countPassing (·.precedes site) sites.toArray = point at split
  cases point with
  | zero =>
      simp only [true_iff]
      intro other member before
      rcases List.getElem?_of_mem member with ⟨place, atPlace⟩
      exact Nat.not_lt_zero place ((split place).mp (by simp [atPlace, before]))
  | succ last =>
      rcases (Option.any_eq_true _ _).mp ((split last).mpr (Nat.lt_succ_self last)) with
        ⟨source, atLast, before⟩
      simp only [List.getElem?_toArray, atLast, reduceCtorEq, false_iff]
      intro none
      exact none source (List.mem_of_getElem? atLast) before

/-- What is found comes before the site, and nothing else that does so comes after it. -/
theorem nearest_of_nearestBefore?_eq_some {sites : List Site} (ascending : Ascending sites)
    {site source : Site} (found : site.nearestBefore? sites.toArray = some source) :
    source ∈ sites ∧ source.precedes site = true ∧
      ∀ other ∈ sites, other.precedes site = true →
        other = source ∨ other.precedes source = true := by
  have split := any_precedes_iff_lt_countPassing ascending site
  simp only [nearestBefore?] at found
  generalize countPassing (·.precedes site) sites.toArray = point at split found
  cases point with
  | zero => simp at found
  | succ last =>
      simp only [List.getElem?_toArray] at found
      refine ⟨List.mem_of_getElem? found, ?_, ?_⟩
      · simpa [found] using (split last).mpr (Nat.lt_succ_self last)
      · intro other member before
        rcases List.getElem?_of_mem member with ⟨place, atPlace⟩
        have placeBelow := (split place).mp (by simp [atPlace, before])
        rcases Nat.lt_or_eq_of_le (Nat.le_of_lt_succ placeBelow) with earlier | rfl
        · right
          rcases List.getElem?_eq_some_iff.mp atPlace with ⟨placeBound, rfl⟩
          rcases List.getElem?_eq_some_iff.mp found with ⟨lastBound, rfl⟩
          exact List.pairwise_iff_getElem.mp ascending place last placeBound lastBound earlier
        · left
          exact Option.some.inj (atPlace.symm.trans found)

/-- Among ascending sites, the nearest one before a site comes before it, and nothing else that does
so comes after the nearest. -/
theorem nearestBefore?_eq_some_iff {sites : List Site} (ascending : Ascending sites)
    {site source : Site} :
    site.nearestBefore? sites.toArray = some source ↔
      source ∈ sites ∧ source.precedes site = true ∧
        ∀ other ∈ sites, other.precedes site = true →
          other = source ∨ other.precedes source = true := by
  constructor
  · exact nearest_of_nearestBefore?_eq_some ascending
  · rintro ⟨member, before, nearest⟩
    cases found : site.nearestBefore? sites.toArray with
    | none => exact absurd before ((nearestBefore?_eq_none_iff ascending).mp found source member)
    | some other =>
        rcases nearest_of_nearestBefore?_eq_some ascending found with
          ⟨otherMember, otherBefore, otherNearest⟩
        rcases nearest other otherMember otherBefore with rfl | otherFirst
        · rfl
        · rcases otherNearest source member before with rfl | sourceFirst
          · rfl
          · exact absurd (precedes_trans otherFirst sourceFirst) (precedes_irrefl other)

end Site

/-! ### Following sources -/

@[simp]
theorem mem_among {sources sites : List Site} {site : Site} :
    site ∈ among sources sites ↔ site ∈ sites ∧ site ∈ sources := by
  simp [among]

@[simp]
theorem mem_apart {sources sites : List Site} {site : Site} :
    site ∈ apart sources sites ↔ site ∈ sites ∧ site ∉ sources := by
  simp [apart]

variable {sources : Site → List Site} {unreached waiting : List Site}

theorem mem_reach_of_mem_waiting {site : Site} (waits : site ∈ waiting) :
    site ∈ reach sources unreached waiting := by
  fun_induction reach sources unreached waiting with
  | case1 => exact waits
  | case2 unreached head later ih =>
      rcases List.mem_cons.mp waits with rfl | inLater
      · exact List.mem_cons_self
      · exact List.mem_cons_of_mem _ (ih (List.mem_append_left _ inLater))

/-- What was not reached before and is a source of something reached is reached. -/
theorem mem_reach_of_mem_sources {site source : Site}
    (reached : site ∈ reach sources unreached waiting) (depends : source ∈ sources site)
    (fresh : source ∈ unreached) :
    source ∈ reach sources unreached waiting := by
  fun_induction reach sources unreached waiting with
  | case1 => simp at reached
  | case2 unreached head later ih =>
      -- A source of the head joins those that wait, so it is reached later.
      have ofHead : source ∈ sources head → source ∈ reach sources (apart (sources head) unreached)
          (later ++ among (sources head) unreached) := by
        intro sourceOfHead
        apply mem_reach_of_mem_waiting
        exact List.mem_append_right _ (mem_among.mpr ⟨fresh, sourceOfHead⟩)
      apply List.mem_cons_of_mem
      rcases List.mem_cons.mp reached with rfl | reachedLater
      · exact ofHead depends
      · by_cases sourceOfHead : source ∈ sources head
        · exact ofHead sourceOfHead
        · exact ih reachedLater (mem_apart.mpr ⟨fresh, sourceOfHead⟩)

/-- What is reached lies in each set that contains what waits and is closed under sources. -/
theorem mem_of_mem_reach {kept : Site → Prop} (starts : ∀ site ∈ waiting, kept site)
    (closed : ∀ site, kept site → ∀ source ∈ sources site, source ∈ unreached → kept source)
    {site : Site} (reached : site ∈ reach sources unreached waiting) : kept site := by
  fun_induction reach sources unreached waiting with
  | case1 => simp at reached
  | case2 unreached head later ih =>
      have keptHead : kept head := starts head List.mem_cons_self
      rcases List.mem_cons.mp reached with rfl | reachedLater
      · exact keptHead
      · apply ih _ _ reachedLater
        · intro waiting waits
          rcases List.mem_append.mp waits with inLater | joined
          · exact starts waiting (List.mem_cons_of_mem _ inLater)
          · rcases mem_among.mp joined with ⟨fresh, sourceOfHead⟩
            exact closed head keptHead waiting sourceOfHead fresh
        · intro site keptSite source depends fresh
          exact closed site keptSite source depends (mem_apart.mp fresh).1

/-! ### Definitions on a timeline -/

theorem pairwise_snd_zipIdx {α : Type} (items : List α) :
    items.zipIdx.Pairwise fun first second => first.2 < second.2 := by
  rw [← List.pairwise_map (f := Prod.snd), List.zipIdx_map_snd]
  exact List.pairwise_lt_range'

namespace Facts

/-- Each statement has its place among the statements as its number. -/
def Numbered (facts : Facts) : Prop :=
  facts.statements.map (·.index) = List.range facts.statements.length

instance (facts : Facts) : Decidable facts.Numbered :=
  inferInstanceAs (Decidable (facts.statements.map (·.index) = List.range facts.statements.length))

theorem Numbered.index_eq {facts : Facts} (numbered : facts.Numbered) {place : Nat}
    {statement : Statement} (atPlace : facts.statements[place]? = some statement) :
    statement.index = place := by
  rcases List.getElem?_eq_some_iff.mp atPlace with ⟨within, rfl⟩
  simpa [within] using congrArg (·[place]?) numbered

theorem Numbered.pairwise_index_lt {facts : Facts} (numbered : facts.Numbered) :
    facts.statements.Pairwise fun first second => first.index < second.index := by
  rw [← List.pairwise_map (f := Statement.index), numbered]
  exact List.pairwise_lt_range

theorem Numbered.mem_iff {facts : Facts} (numbered : facts.Numbered) {index : Nat}
    {statement : Statement} :
    statement ∈ facts.statements ∧ statement.index = index ↔
      facts.statements[index]? = some statement := by
  constructor
  · rintro ⟨member, rfl⟩
    rcases List.getElem?_of_mem member with ⟨place, atPlace⟩
    rwa [numbered.index_eq atPlace]
  · intro atIndex
    exact ⟨List.mem_of_getElem? atIndex, numbered.index_eq atIndex⟩

end Facts

namespace Candidate

theorem site_rank_of_mem_definitions {candidate : Candidate} {rank : Nat} {definition : Definition}
    (member : definition ∈ candidate.definitions rank) : definition.site.rank = rank := by
  simp only [definitions, List.mem_flatMap, List.mem_map] at member
  rcases member with ⟨statement, _, name, _, rfl⟩
  rfl

theorem mem_definitions_iff {candidate : Candidate}
    (numbered : candidate.facts.Numbered) {rank : Nat} {definition : Definition} :
    definition ∈ candidate.definitions rank ↔
      definition.site.rank = rank ∧
        ∃ statement, candidate.facts.statements[definition.site.index]? = some statement ∧
          definition.name ∈ statement.defs := by
  simp only [definitions, List.mem_flatMap, List.mem_map]
  constructor
  · rintro ⟨statement, member, name, nameMem, rfl⟩
    exact ⟨rfl, statement, numbered.mem_iff.mp ⟨member, rfl⟩, nameMem⟩
  · rintro ⟨rfl, statement, atIndex, nameMem⟩
    rcases numbered.mem_iff.mpr atIndex with ⟨member, sameIndex⟩
    refine ⟨statement, member, definition.name, nameMem, ?_⟩
    rw [sameIndex]

theorem pairwise_definitions {candidate : Candidate} (numbered : candidate.facts.Numbered)
    (rank : Nat) :
    (candidate.definitions rank).Pairwise fun first second =>
      first.name = second.name → first.site.precedes second.site = true := by
  simp only [definitions, List.pairwise_flatMap]
  constructor
  · intro statement _
    rw [List.pairwise_map]
    apply statement.defs.ascending.imp
    intro first second less same
    have equal : first = second := same
    exact absurd less (equal ▸ String.lt_irrefl first)
  · apply numbered.pairwise_index_lt.imp
    intro first second less definition definitionMem other otherMem _
    rcases List.mem_map.mp definitionMem with ⟨name, _, rfl⟩
    rcases List.mem_map.mp otherMem with ⟨otherName, _, rfl⟩
    exact Site.precedes_iff.mpr (Or.inr ⟨rfl, less⟩)

end Candidate

namespace Timeline

/-- The facts about each execution number its statements. -/
def Numbered (timeline : Timeline) : Prop :=
  ∀ candidate ∈ timeline.members, candidate.facts.Numbered

/-- The site is a statement that definitions may come from: its execution did not fail, or is the
target. -/
def Supplies (timeline : Timeline) (site : Site) (statement : Statement) : Prop :=
  ∃ candidate, timeline.members[site.rank]? = some candidate ∧
    (candidate.record.failed = false ∨ site.rank = timeline.earlier.length) ∧
    candidate.facts.statements[site.index]? = some statement

/-- Definitions of the name may come from the site. -/
def Defines (timeline : Timeline) (site : Site) (name : String) : Prop :=
  ∃ statement, timeline.Supplies site statement ∧ name ∈ statement.defs

theorem members_zipIdx (timeline : Timeline) :
    timeline.members.zipIdx = timeline.earlier.zipIdx ++
      [(timeline.target, timeline.earlier.length)] := by
  simp [members, List.zipIdx_append]

theorem pairwise_rank_members (timeline : Timeline) :
    timeline.members.zipIdx.Pairwise fun first second => first.2 < second.2 :=
  pairwise_snd_zipIdx timeline.members

/-- The definitions that an execution of the given rank adds to a timeline. -/
def contribution (timeline : Timeline) (candidate : Candidate) (rank : Nat) : List Definition :=
  if candidate.record.failed = true ∧ rank ≠ timeline.earlier.length then []
  else candidate.definitions rank

theorem mem_contribution {timeline : Timeline} {candidate : Candidate} {rank : Nat}
    {definition : Definition} :
    definition ∈ timeline.contribution candidate rank ↔
      (candidate.record.failed = false ∨ rank = timeline.earlier.length) ∧
        definition ∈ candidate.definitions rank := by
  rw [contribution]
  cases candidate.record.failed <;> by_cases isTarget : rank = timeline.earlier.length <;>
    simp [isTarget]

theorem definitions_eq_flatMap (timeline : Timeline) :
    timeline.definitions = timeline.members.zipIdx.flatMap fun (candidate, rank) =>
      timeline.contribution candidate rank := by
  rw [members_zipIdx, List.flatMap_append, definitions]
  congr 1
  · apply List.flatMap_congr
    rintro ⟨candidate, rank⟩ member
    have below : rank < timeline.earlier.length :=
      (List.getElem?_eq_some_iff.mp (List.mem_zipIdx_iff_getElem?.mp member)).1
    simp [contribution, Nat.ne_of_lt below]
  · simp [contribution]

theorem mem_definitions_iff {timeline : Timeline} (numbered : timeline.Numbered)
    {definition : Definition} :
    definition ∈ timeline.definitions ↔ timeline.Defines definition.site definition.name := by
  rw [definitions_eq_flatMap]
  simp only [List.mem_flatMap, Prod.exists, List.mem_zipIdx_iff_getElem?, mem_contribution]
  constructor
  · rintro ⟨candidate, rank, atRank, supplies, member⟩
    have candidateNumbered := numbered candidate (List.mem_of_getElem? atRank)
    rcases (Candidate.mem_definitions_iff candidateNumbered).mp member with
      ⟨rfl, statement, atIndex, nameMem⟩
    exact ⟨statement, ⟨candidate, atRank, supplies, atIndex⟩, nameMem⟩
  · rintro ⟨statement, ⟨candidate, atRank, supplies, atIndex⟩, nameMem⟩
    have candidateNumbered := numbered candidate (List.mem_of_getElem? atRank)
    refine ⟨candidate, definition.site.rank, atRank, supplies, ?_⟩
    exact (Candidate.mem_definitions_iff candidateNumbered).mpr ⟨rfl, statement, atIndex, nameMem⟩

theorem pairwise_contribution {timeline : Timeline} {candidate : Candidate}
    (numbered : candidate.facts.Numbered) (rank : Nat) :
    (timeline.contribution candidate rank).Pairwise fun first second =>
      first.name = second.name → first.site.precedes second.site = true := by
  rw [contribution]
  split
  · exact List.Pairwise.nil
  · exact Candidate.pairwise_definitions numbered rank

/-- The definitions of each name are listed in the order of their sites. -/
theorem pairwise_definitions {timeline : Timeline} (numbered : timeline.Numbered) :
    timeline.definitions.Pairwise fun first second =>
      first.name = second.name → first.site.precedes second.site = true := by
  rw [definitions_eq_flatMap, List.pairwise_flatMap]
  constructor
  · rintro ⟨candidate, rank⟩ member
    have atRank := List.mem_zipIdx_iff_getElem?.mp member
    exact pairwise_contribution (numbered candidate (List.mem_of_getElem? atRank)) rank
  · apply (pairwise_rank_members timeline).imp
    rintro ⟨candidate, rank⟩ ⟨other, otherRank⟩ less first firstMem second secondMem _
    have firstRank := Candidate.site_rank_of_mem_definitions (mem_contribution.mp firstMem).2
    have secondRank := Candidate.site_rank_of_mem_definitions (mem_contribution.mp secondMem).2
    apply Site.precedes_iff.mpr
    left
    rw [firstRank, secondRank]
    exact less

/-! ### What is needed -/

/-- The sites of the definitions of a name. -/
def sitesOf (definitions : List Definition) (name : String) : List Site :=
  (definitions.filter fun definition => definition.name == name).map (·.site)

theorem mem_sitesOf {definitions : List Definition} {name : String} {site : Site} :
    site ∈ sitesOf definitions name ↔ ⟨name, site⟩ ∈ definitions := by
  simp only [sitesOf, List.mem_map, List.mem_filter, beq_iff_eq]
  constructor
  · rintro ⟨definition, ⟨member, rfl⟩, rfl⟩
    exact member
  · intro member
    exact ⟨⟨name, site⟩, ⟨member, rfl⟩, rfl⟩

theorem ascending_sitesOf {timeline : Timeline} (numbered : timeline.Numbered) (name : String) :
    Site.Ascending (sitesOf timeline.definitions name) := by
  rw [Site.Ascending, sitesOf, List.pairwise_map, List.pairwise_filter]
  apply (pairwise_definitions numbered).imp
  intro first second ordered firstName secondName
  simp only [beq_iff_eq] at firstName secondName
  exact ordered (firstName.trans secondName.symm)

/-- The source is the nearest site before another from which definitions of the name come. -/
def Nearest (timeline : Timeline) (name : String) (site source : Site) : Prop :=
  timeline.Defines source name ∧ source.precedes site = true ∧
    ∀ other, timeline.Defines other name → other.precedes site = true →
      other = source ∨ other.precedes source = true

theorem nearestBefore?_sitesOf_eq_some_iff {timeline : Timeline} (numbered : timeline.Numbered)
    {name : String} {site source : Site} :
    site.nearestBefore? (sitesOf timeline.definitions name).toArray = some source ↔
      timeline.Nearest name site source := by
  rw [Site.nearestBefore?_eq_some_iff (ascending_sitesOf numbered name)]
  simp only [mem_sitesOf, mem_definitions_iff numbered, Nearest]

theorem mem_sources_iff {timeline : Timeline} {definitions : List Definition} {site source : Site} :
    source ∈ timeline.sources definitions site ↔
      ∃ statement, timeline.statementAt? site = some statement ∧ ∃ name ∈ statement.uses,
        site.nearestBefore? (sitesOf definitions name).toArray = some source := by
  rw [sources]
  cases timeline.statementAt? site with
  | none => simp
  | some statement => simp [List.mem_filterMap, sitesOf, NameSet.mem_def]

/-- Following the uses of a site leads to the nearest definitions of what it uses. -/
theorem mem_sources_definitions_iff {timeline : Timeline} (numbered : timeline.Numbered)
    {site source : Site} :
    source ∈ timeline.sources timeline.definitions site ↔
      ∃ statement, timeline.statementAt? site = some statement ∧ ∃ name ∈ statement.uses,
        timeline.Nearest name site source := by
  simp only [mem_sources_iff, nearestBefore?_sitesOf_eq_some_iff numbered]

/-- A source is the site of a definition, however the statements are numbered. -/
theorem mem_map_site_of_mem_sources {timeline : Timeline} {definitions : List Definition}
    {site source : Site} (depends : source ∈ timeline.sources definitions site) :
    source ∈ definitions.map (·.site) := by
  rcases mem_sources_iff.mp depends with ⟨statement, _, name, _, found⟩
  exact List.mem_map.mpr
    ⟨⟨name, source⟩, mem_sitesOf.mp (Site.mem_of_nearestBefore?_eq_some found), rfl⟩

theorem mem_needed_of_mem_seeds {timeline : Timeline} {site : Site} (seed : site ∈ timeline.seeds) :
    site ∈ timeline.needed :=
  mem_reach_of_mem_waiting seed

theorem mem_needed_of_mem_sources {timeline : Timeline} {site source : Site}
    (isNeeded : site ∈ timeline.needed)
    (depends : source ∈ timeline.sources timeline.definitions site) : source ∈ timeline.needed := by
  by_cases seed : source ∈ timeline.seeds
  · exact mem_needed_of_mem_seeds seed
  · apply mem_reach_of_mem_sources isNeeded depends
    rw [List.mem_eraseDups, mem_apart]
    exact ⟨mem_map_site_of_mem_sources depends, seed⟩

theorem mem_of_mem_needed {timeline : Timeline} (kept : Site → Prop)
    (starts : ∀ site ∈ timeline.seeds, kept site)
    (closed : ∀ site, kept site →
      ∀ source ∈ timeline.sources timeline.definitions site, kept source)
    {site : Site} (isNeeded : site ∈ timeline.needed) : kept site := by
  apply mem_of_mem_reach starts _ isNeeded
  intro site keptSite source depends _
  exact closed site keptSite source depends

end Timeline

end NotebookSlice

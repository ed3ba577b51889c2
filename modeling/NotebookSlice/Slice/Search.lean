import NotebookSlice.Slice.Halving
import NotebookSlice.Slice.Timeline

/-!
# Dependencies between executions

A site is a statement of an execution on a timeline. A statement that uses a name depends on the
nearest earlier site that defines the name. An execution that failed supplies no definitions, except
to itself when it is the target. Following the dependencies from the statements of the target gives
all sites that the target needs.
-/

namespace NotebookSlice

/-- A statement on a timeline: the rank of its execution, counted from the earliest, and its
number. -/
structure Site where
  rank : Nat
  index : Nat
deriving DecidableEq, Repr, Inhabited

namespace Site

/-- Whether a site comes before another. -/
def precedes (first second : Site) : Bool :=
  first.rank < second.rank || (first.rank == second.rank && first.index < second.index)

/-- The last of some sites in ascending order that comes before a site. -/
def nearestBefore? (site : Site) (sites : Array Site) : Option Site :=
  match countPassing (·.precedes site) sites with
  | 0 => none
  | before + 1 => sites[before]?

end Site

/-- A site together with a name that it defines. -/
structure Definition where
  name : String
  site : Site
deriving DecidableEq, Repr, Inhabited

namespace Candidate

/-- The definitions in an execution of the given rank. -/
def definitions (candidate : Candidate) (rank : Nat) : List Definition :=
  candidate.facts.statements.flatMap fun statement =>
    statement.defs.toList.map fun name => ⟨name, rank, statement.index⟩

end Candidate

/-- Those of some sites that are among the sources. -/
def among (sources sites : List Site) : List Site :=
  sites.filter fun site => decide (site ∈ sources)

/-- Those of some sites that are not among the sources. -/
def apart (sources sites : List Site) : List Site :=
  sites.filter fun site => !decide (site ∈ sources)

theorem length_among_add_length_apart (sources sites : List Site) :
    (among sources sites).length + (apart sources sites).length = sites.length := by
  simpa [among, apart, List.countP_eq_length_filter] using
    (List.length_eq_countP_add_countP (fun site => decide (site ∈ sources)) (l := sites)).symm

/-- The sites that are reached from those that wait, following `sources` through sites not reached
before. -/
def reach (sources : Site → List Site) (unreached waiting : List Site) : List Site :=
  match waiting with
  | [] => []
  | site :: later =>
    site :: reach sources (apart (sources site) unreached) (later ++ among (sources site) unreached)
termination_by unreached.length + waiting.length
decreasing_by
  have split := length_among_add_length_apart (sources site) unreached
  simp only [List.length_append, List.length_cons]
  omega

namespace Timeline

/-- All definitions that statements may depend on, in ascending order of their sites. -/
def definitions (timeline : Timeline) : List Definition :=
  (timeline.earlier.zipIdx.flatMap fun (candidate, rank) =>
    if candidate.record.failed then [] else candidate.definitions rank) ++
  timeline.target.definitions timeline.earlier.length

/-- The statement at a site. -/
def statementAt? (timeline : Timeline) (site : Site) : Option Statement :=
  timeline.members[site.rank]?.bind fun candidate => candidate.facts.statements[site.index]?

/-- The sites among the definitions that the statement at a site depends on directly. -/
def sources (timeline : Timeline) (definitions : List Definition) (site : Site) : List Site :=
  match timeline.statementAt? site with
  | none => []
  | some statement =>
    statement.uses.toList.filterMap fun name =>
      site.nearestBefore?
        ((definitions.filter fun definition => definition.name == name).map (·.site)).toArray

/-- The sites of the target's statements. -/
def seeds (timeline : Timeline) : List Site :=
  timeline.target.facts.statements.map fun statement => ⟨timeline.earlier.length, statement.index⟩

/-- All sites that the target needs. -/
def needed (timeline : Timeline) : List Site :=
  let definitions := timeline.definitions
  let seeds := timeline.seeds
  reach (timeline.sources definitions) (apart seeds (definitions.map (·.site))).eraseDups seeds

/-- The numbers of the statements of an execution among some sites, in ascending order. -/
def numbersAt (sites : List Site) (rank : Nat) : List Nat :=
  ((sites.filter fun site => site.rank == rank).map (·.index)).eraseDups.mergeSort

/-- What is kept of the executions; of a target about which no facts are known, the whole text. -/
def groups (timeline : Timeline) : List Group :=
  if timeline.target.facts.isEmpty then [timeline.target.whole]
  else
    let needed := timeline.needed
    timeline.members.zipIdx.filterMap fun (candidate, rank) =>
      match numbersAt needed rank with
      | [] => none
      | numbers => some (candidate.keep numbers)

end Timeline

end NotebookSlice

import NotebookSlice.Program
import NotebookSlice.Proofs.Slice.Dependencies

/-!
# Relabelling executions

Which statements a slice keeps follows from the facts about the executions on its timeline, from
which of these failed, and from their order. What else a candidate carries is only copied into its
group. So a change that keeps facts and failures passes through the computation of the groups:
`Timeline.groups_map`.

The identities of executions are such labels. A log that holds the same records under other events
gives the same slices under the other events, and the same programs.
-/

namespace NotebookSlice

/-! ### Timelines -/

/-- The change keeps the facts about a candidate and whether its execution failed, and it shows in a
group as the second change. -/
structure Relabels (change : Candidate → Candidate) (changeGroup : Group → Group) : Prop where
  facts_eq : ∀ candidate, (change candidate).facts = candidate.facts
  failed_eq : ∀ candidate, (change candidate).record.failed = candidate.record.failed
  whole_eq : ∀ candidate, (change candidate).whole = changeGroup candidate.whole
  keep_eq : ∀ candidate numbers,
    (change candidate).keep numbers = changeGroup (candidate.keep numbers)

namespace Timeline

/-- The timeline with every execution changed. -/
def map (change : Candidate → Candidate) (timeline : Timeline) : Timeline where
  earlier := timeline.earlier.map change
  target := change timeline.target

theorem members_map (change : Candidate → Candidate) (timeline : Timeline) :
    (timeline.map change).members = timeline.members.map change := by
  simp [members, map]

end Timeline

namespace Relabels

open Timeline

variable {change : Candidate → Candidate} {changeGroup : Group → Group}

theorem definitions_map (relabels : Relabels change changeGroup) (timeline : Timeline) :
    (timeline.map change).definitions = timeline.definitions := by
  simp only [definitions, Timeline.map, Candidate.definitions, List.zipIdx_map, List.flatMap_map,
    List.length_map, Prod.map, relabels.facts_eq, relabels.failed_eq, id_eq]

theorem sources_map (relabels : Relabels change changeGroup) (timeline : Timeline) :
    (timeline.map change).sources = timeline.sources := by
  funext definitions site
  have sameStatement : (timeline.map change).statementAt? site = timeline.statementAt? site := by
    simp only [statementAt?, members_map, List.getElem?_map, Option.bind_map, Function.comp_def,
      relabels.facts_eq]
  rw [sources, sources, sameStatement]

theorem needed_map (relabels : Relabels change changeGroup) (timeline : Timeline) :
    (timeline.map change).needed = timeline.needed := by
  have sameSeeds : (timeline.map change).seeds = timeline.seeds := by
    simp only [seeds, Timeline.map, List.length_map, relabels.facts_eq]
  rw [needed, needed, relabels.definitions_map, relabels.sources_map, sameSeeds]

theorem groups_map (relabels : Relabels change changeGroup) (timeline : Timeline) :
    (timeline.map change).groups = timeline.groups.map changeGroup := by
  have sameFacts : (timeline.map change).target.facts = timeline.target.facts := relabels.facts_eq _
  rw [groups, groups, sameFacts, relabels.needed_map, members_map]
  split
  · exact congrArg (fun group => [group]) (relabels.whole_eq timeline.target)
  · rw [List.zipIdx_map, List.filterMap_map, List.map_filterMap]
    apply List.filterMap_congr
    rintro ⟨candidate, rank⟩ _
    simp only [Function.comp_apply, Prod.map, id_eq]
    split
    · rfl
    · simp only [Option.map_some, relabels.keep_eq]

end Relabels

/-! ### Events -/

variable (rename : EventId → EventId)

/-- The record under another event. -/
def Record.renamed (record : Record) : Record := { record with event := rename record.event }

/-- The group under another event. -/
def Group.renamed (group : Group) : Group := { group with event := rename group.event }

/-- The slice under other events. -/
def Slice.renamed (slice : Slice) : Slice where
  target := slice.target.map rename
  groups := slice.groups.map (Group.renamed rename)

/-- The candidate under another event. -/
def Candidate.renamed (candidate : Candidate) : Candidate :=
  { candidate with record := candidate.record.renamed rename }

theorem relabels_renamed : Relabels (Candidate.renamed rename) (Group.renamed rename) where
  facts_eq _ := rfl
  failed_eq _ := rfl
  whole_eq _ := rfl
  keep_eq _ _ := rfl

/-- Programs do not show events. -/
theorem Template.render_renamed (template : Template) (slice : Slice) :
    template.render (slice.renamed rename) = template.render slice := by
  have sameEmpty : (slice.renamed rename).isEmpty = slice.isEmpty := List.isEmpty_map
  have sameLines : (slice.renamed rename).groups.flatMap template.groupLines =
      slice.groups.flatMap template.groupLines := by
    rw [Slice.renamed, List.flatMap_map]
    rfl
  rw [render, render, sameEmpty, sameLines]

theorem ordinals_map_renamed (inherited : Nat) (history : List Record) :
    ordinals inherited (history.map (Record.renamed rename)) = ordinals inherited history := by
  induction history generalizing inherited with
  | nil => rfl
  | cons record later ih => exact congrArg (_ :: ·) (ih _)

namespace Timeline

variable (facts : String → Facts) (history : List Record)

theorem candidates_map_renamed :
    candidates (fun record => facts record.text) (history.map (Record.renamed rename)) =
      (candidates (fun record => facts record.text) history).map (Candidate.renamed rename) := by
  rw [candidates, candidates, moments, ordinals_map_renamed, ← moments,
    List.zip_map_left, List.map_map, List.map_map]
  rfl

/-- As events play no part in the order of executions, a timeline is built in the same way under
others. -/
theorem ofHistory?_map_renamed :
    ofHistory? (fun record => facts record.text) (history.map (Record.renamed rename)) =
      (ofHistory? (fun record => facts record.text) history).map
        (Timeline.map (Candidate.renamed rename)) := by
  rw [ofHistory?_eq, ofHistory?_eq, candidates_map_renamed, List.getLast?_map, Option.map_map,
    Option.map_map]
  congr 1
  funext target
  have sorted : ∀ candidates : List Candidate,
      (candidates.map (Candidate.renamed rename)).mergeSort Candidate.notAfter =
        (candidates.mergeSort Candidate.notAfter).map (Candidate.renamed rename) := by
    intro candidates
    rw [List.map_mergeSort]
    intro _ _ _ _
    rfl
  simp only [Function.comp_apply, Timeline.map, List.filter_map, sorted]
  rfl

end Timeline

namespace Log

/-- The other log holds the records of the log, in the same order, under other events. -/
structure Renames (log other : Log) : Prop where
  consistent : log.Consistent
  other_consistent : other.Consistent
  analyzer_eq : other.analyzer = log.analyzer
  entries_eq : other.entries = log.entries.map (Record.renamed rename)

namespace Renames

variable {rename} {log other : Log}

theorem upTo?_eq (renames : Renames rename log other) {event : EventId}
    (logged : log.Logged event) :
    other.upTo? (rename event) = (log.upTo? event).map (List.map (Record.renamed rename)) := by
  rcases logged with ⟨record, member, rfl⟩
  rcases List.getElem?_of_mem member with ⟨position, atPosition⟩
  have otherAtPosition : other.entries[position]? = some (record.renamed rename) := by
    rw [renames.entries_eq, List.getElem?_map, atPosition, Option.map_some]
  have found := renames.consistent.findIdx?_eq_some_iff.mpr ⟨record, atPosition, rfl⟩
  have otherFound : other.entries.findIdx? (·.event == rename record.event) = some position :=
    renames.other_consistent.findIdx?_eq_some_iff.mpr ⟨_, otherAtPosition, rfl⟩
  rw [renames.other_consistent.upTo?_eq, renames.consistent.upTo?_eq, otherFound, found,
    Option.map_some, Option.map_some, Option.map_some, renames.entries_eq, List.map_take]

theorem timeline?_eq (renames : Renames rename log other) {event : EventId}
    (logged : log.Logged event) :
    other.timeline? (rename event) =
      (log.timeline? event).map (Timeline.map (Candidate.renamed rename)) := by
  rw [renames.other_consistent.timeline?_eq, renames.consistent.timeline?_eq,
    renames.upTo?_eq logged, renames.analyzer_eq]
  cases log.upTo? event with
  | none => rfl
  | some history =>
      exact Timeline.ofHistory?_map_renamed rename
        (fun text => (log.analyzer.analyze text).toOption.getD {}) history

theorem slice_eq (renames : Renames rename log other) {event : EventId}
    (logged : log.Logged event) :
    other.slice (rename event) = (log.slice event).renamed rename := by
  rw [slice, slice, renames.timeline?_eq logged]
  cases log.timeline? event with
  | none => rfl
  | some timeline =>
      simp only [Option.map_some, (relabels_renamed rename).groups_map, Slice.renamed]

theorem latest?_eq (renames : Renames rename log other) (cell : CellId) :
    other.latest? cell = (log.latest? cell).map (Record.renamed rename) := by
  rw [renames.other_consistent.latest?_eq, renames.consistent.latest?_eq, renames.entries_eq,
    List.filter_map, List.getLast?_map]
  rfl

theorem sliceLatest_eq (renames : Renames rename log other) (cell : CellId) :
    other.sliceLatest cell = (log.sliceLatest cell).renamed rename := by
  rw [sliceLatest, sliceLatest, renames.latest?_eq]
  cases latest : log.latest? cell with
  | none => rfl
  | some record =>
      have member := renames.consistent.mem_entries_of_latest?_eq_some latest
      exact renames.slice_eq ⟨record, member, rfl⟩

end Renames

end Log

end NotebookSlice

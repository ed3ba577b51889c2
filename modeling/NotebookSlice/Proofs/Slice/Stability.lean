import NotebookSlice.Program
import NotebookSlice.Proofs.Slice.Dependencies

/-!
# Later reports do not change a slice

A report puts at most one record at the end of a log. The slice of an execution is computed from the
records up to it and from the facts about these, and neither depends on what follows them. So the
slice of an execution stays the same whatever is reported later, even under an earlier count, for
the same cell or with an event that was logged before.
-/

namespace NotebookSlice

namespace Log

/-- A log extends another if both are consistent, they have the same analyzer, and the entries of
the other come first. -/
structure Extends (longer log : Log) : Prop where
  longer_consistent : longer.Consistent
  consistent : log.Consistent
  analyzer_eq : longer.analyzer = log.analyzer
  entries_prefix : log.entries <+: longer.entries

namespace Extends

variable {longer log : Log}

theorem trans {longest : Log} (second : longest.Extends longer) (first : longer.Extends log) :
    longest.Extends log where
  longer_consistent := second.longer_consistent
  consistent := first.consistent
  analyzer_eq := second.analyzer_eq.trans first.analyzer_eq
  entries_prefix := first.entries_prefix.trans second.entries_prefix

theorem getElem?_eq_some (longerExtends : longer.Extends log) {position : Nat} {record : Record}
    (atPosition : log.entries[position]? = some record) :
    longer.entries[position]? = some record := by
  rcases List.getElem?_eq_some_iff.mp atPosition with ⟨within, rfl⟩
  rw [List.prefix_iff_getElem?.mp longerExtends.entries_prefix position within]

/-- What was logged up to an execution stays the same. -/
theorem upTo?_eq (longerExtends : longer.Extends log) {event : EventId}
    (logged : log.Logged event) :
    longer.upTo? event = log.upTo? event := by
  rcases logged with ⟨record, member, rfl⟩
  rcases List.getElem?_of_mem member with ⟨position, atPosition⟩
  have found := longerExtends.consistent.findIdx?_eq_some_iff.mpr ⟨record, atPosition, rfl⟩
  have foundLater := longerExtends.longer_consistent.findIdx?_eq_some_iff.mpr
    ⟨record, longerExtends.getElem?_eq_some atPosition, rfl⟩
  have within := (List.getElem?_eq_some_iff.mp atPosition).1
  rw [longerExtends.longer_consistent.upTo?_eq, longerExtends.consistent.upTo?_eq,
    foundLater, found, Option.map_some, Option.map_some]
  rcases longerExtends.entries_prefix with ⟨rest, split⟩
  rw [← split, List.take_append_of_le_length within]

theorem timeline?_eq (longerExtends : longer.Extends log) {event : EventId}
    (logged : log.Logged event) : longer.timeline? event = log.timeline? event := by
  rw [longerExtends.longer_consistent.timeline?_eq, longerExtends.consistent.timeline?_eq,
    longerExtends.upTo?_eq logged, longerExtends.analyzer_eq]

theorem slice_eq (longerExtends : longer.Extends log) {event : EventId}
    (logged : log.Logged event) :
    longer.slice event = log.slice event := by
  rw [slice, slice, longerExtends.timeline?_eq logged]

end Extends

namespace Consistent

variable {log : Log}

theorem extends_append (consistent : log.Consistent) (record : Record) :
    (log.perform (.append record)).Extends log where
  longer_consistent := consistent.perform (.append record)
  consistent := consistent
  analyzer_eq := analyzer_perform log (.append record)
  entries_prefix := by
    rw [consistent.entries_perform, Journal.perform]
    split
    · exact List.prefix_rfl
    · exact List.prefix_append _ _

theorem extends_run_append (consistent : log.Consistent) (later : List Record) :
    (log.run (later.map Operation.append)).Extends log := by
  induction later generalizing log with
  | nil => exact ⟨consistent, consistent, rfl, List.prefix_rfl⟩
  | cons record later ih =>
      have step := consistent.extends_append record
      exact (ih step.longer_consistent).trans step

end Consistent

/-- A logged execution has a slice, and further reports change neither the slice nor its program. -/
theorem slice_run_append (analyzer : Analyzer) (operations : List Operation) (target : EventId)
    (logged : ((empty analyzer).run operations).Logged target) (later : List Record) :
    let log := (empty analyzer).run operations
    let longer := log.run (later.map Operation.append)
    (log.slice target).target = some target ∧ longer.slice target = log.slice target ∧
      ∀ template : Template, template.render (longer.slice target) =
        template.render (log.slice target) := by
  intro log longer
  have consistent : log.Consistent := consistent_run_empty analyzer operations
  have same : longer.slice target = log.slice target :=
    (consistent.extends_run_append later).slice_eq logged
  rcases exists_unfolding consistent logged with ⟨timeline, _, _, _, found, _⟩
  refine ⟨?_, same, ?_⟩
  · rw [slice_eq found]
  · intro template
    rw [same]

end Log

namespace Sample

/-- Later reports: one under an earlier count for the cell of the target, a blank one, one with the
event of the target, and one that redefines a name without a count. -/
def later : List Record :=
  [⟨⟨"c"⟩, ⟨"e5"⟩, "x = z()", some 0, false⟩,
   ⟨⟨"d"⟩, ⟨"e6"⟩, "  ", some 4, false⟩,
   ⟨⟨"d"⟩, ⟨"e4"⟩, "x = 1", some 4, false⟩,
   ⟨⟨"b"⟩, ⟨"e7"⟩, "y = x\nx = 2", none, false⟩]

end Sample

namespace Log

theorem slice_run_append_sample :
    Sample.log.Logged ⟨"e4"⟩ ∧ (Sample.log.slice ⟨"e4"⟩).target = some ⟨"e4"⟩ ∧
      (Sample.log.run (Sample.later.map Operation.append)).slice ⟨"e4"⟩ = Sample.log.slice ⟨"e4"⟩ ∧
      ∀ template : Template,
        template.render ((Sample.log.run (Sample.later.map Operation.append)).slice ⟨"e4"⟩) =
          template.render (Sample.log.slice ⟨"e4"⟩) :=
  ⟨Sample.logged_log,
    slice_run_append (Analyzer.ofTable Sample.table) Sample.operations
      ⟨"e4"⟩ Sample.logged_log Sample.later⟩

end Log

end NotebookSlice

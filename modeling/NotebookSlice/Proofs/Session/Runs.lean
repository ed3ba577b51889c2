import NotebookSlice.Proofs.Program.Recovery
import NotebookSlice.Proofs.Slice.Shape
import NotebookSlice.Session

/-!
# Runs of a session

A host reports executions to a session, resets it, turns its switch and updates its settings in any
order. The log sees the reports and the resets alone, and the settings and the switch see nothing of
these: each of the three parts of a session is found from the calls that concern it. So the program
of a cell is that of its last execution since the last reset, whatever the cell shows by now, and
under the marker that was given last.

The switch is kept next to the settings, which have one of their own, and the two may come apart. An
update reports that it turned the switch of the session.
-/

namespace NotebookSlice

/-! ### The last execution of a cell -/

theorem Timeline.groups_ne_nil (timeline : Timeline) : timeline.groups ≠ [] := by
  cases isEmpty : timeline.target.facts.isEmpty with
  | true => simp [groups_eq_whole isEmpty]
  | false =>
      have nonempty : timeline.target.facts.statements ≠ [] := by
        simpa [Facts.isEmpty] using isEmpty
      rcases List.exists_mem_of_ne_nil _ nonempty with ⟨statement, member⟩
      have isNeeded : ⟨timeline.earlier.length, statement.index⟩ ∈ timeline.needed :=
        mem_needed_of_mem_seeds (List.mem_map.mpr ⟨statement, member, rfl⟩)
      have contributes : (timeline.target, timeline.earlier.length) ∈ timeline.contributors :=
        mem_contributors.mpr ⟨timeline.getElem?_members_length,
          List.ne_nil_of_mem (mem_numbersAt.mpr isNeeded)⟩
      rw [groups_eq_map_contributors isEmpty]
      exact List.ne_nil_of_mem (List.mem_map_of_mem contributes)

namespace Log.Consistent

variable {log : Log}

theorem groups_slice_ne_nil (consistent : log.Consistent) {event : EventId}
    (logged : log.Logged event) :
    (log.slice event).groups ≠ [] := by
  rcases exists_unfolding consistent logged with ⟨timeline, _, _, _, found, _⟩
  rw [slice_eq found]
  exact timeline.groups_ne_nil

theorem latest?_eq_some_of_split (consistent : log.Consistent) {record : Record}
    {before after : List Record} (split : log.entries = before ++ record :: after)
    (last : ∀ later ∈ after, later.cell ≠ record.cell) : log.latest? record.cell = some record := by
  have noLater : after.filter (·.cell == record.cell) = [] := by simpa using last
  rw [consistent.latest?_eq, split, List.filter_append, List.filter_cons_of_pos (by simp), noLater,
    List.getLast?_concat]

theorem latest?_eq_none_iff (consistent : log.Consistent) {cell : CellId} :
    log.latest? cell = none ↔ ∀ record ∈ log.entries, record.cell ≠ cell := by
  rw [consistent.latest?_eq, List.getLast?_eq_none_iff]
  simp

theorem sliceLatest_eq_of_split (consistent : log.Consistent) {record : Record}
    {before after : List Record} (split : log.entries = before ++ record :: after)
    (last : ∀ later ∈ after, later.cell ≠ record.cell) :
    log.sliceLatest record.cell = log.slice record.event := by
  rw [sliceLatest, consistent.latest?_eq_some_of_split split last]

/-- Nothing is kept for a cell exactly if it was not executed. -/
theorem groups_sliceLatest_eq_nil_iff (consistent : log.Consistent) {cell : CellId} :
    (log.sliceLatest cell).groups = [] ↔ ∀ record ∈ log.entries, record.cell ≠ cell := by
  rw [← consistent.latest?_eq_none_iff, sliceLatest]
  cases latest : log.latest? cell with
  | none => simp
  | some record =>
      have member := consistent.mem_entries_of_latest?_eq_some latest
      simpa using consistent.groups_slice_ne_nil ⟨record, member, rfl⟩

end Log.Consistent

namespace Session

/-! ### Calls -/

/-- What a host can ask of a session. -/
inductive Call where
  | logCell (event : EventId) (cell : Cell)
  | logRecord (record : Record)
  | reset
  | setEnabled (enabled : Bool)
  | updateSettings (settings : Settings)
deriving DecidableEq, Repr, Inhabited

namespace Call

/-- What a call does to the log. -/
def operation? : Call → Option Operation
  | logCell event cell => (cell.record? event).map .append
  | logRecord record => some (.append record)
  | reset => some .reset
  | setEnabled _ => none
  | updateSettings _ => none

/-- The settings that a call gives. -/
def settings? : Call → Option Settings
  | updateSettings settings => some settings
  | _ => none

/-- The position into which a call brings the switch. -/
def enabled? : Call → Option Bool
  | setEnabled enabled => some enabled
  | updateSettings settings => some settings.enabled
  | _ => none

/-- The call turns the switch or updates the settings. -/
def Configures : Call → Prop
  | setEnabled _ => True
  | updateSettings _ => True
  | _ => False

instance : DecidablePred Configures
  | logCell _ _ => inferInstanceAs (Decidable False)
  | logRecord _ => inferInstanceAs (Decidable False)
  | reset => inferInstanceAs (Decidable False)
  | setEnabled _ => inferInstanceAs (Decidable True)
  | updateSettings _ => inferInstanceAs (Decidable True)

theorem operation?_eq_none_of_configures {call : Call} (configures : call.Configures) :
    call.operation? = none := by
  cases call with
  | setEnabled enabled => rfl
  | updateSettings settings => rfl
  | _ => exact configures.elim

theorem filterMap_operation?_filter (calls : List Call) :
    (calls.filter fun call => ¬call.Configures).filterMap operation? =
      calls.filterMap operation? := by
  rw [List.filterMap_filter]
  apply List.filterMap_congr
  intro call _
  by_cases configures : call.Configures
  · rw [operation?_eq_none_of_configures configures]
    simp
  · simp [configures]

end Call

/-- The session after a call. -/
def perform (session : Session) : Call → Session
  | .logCell event cell => (session.logCell event cell).1
  | .logRecord record => (session.logRecord record).1
  | .reset => session.reset
  | .setEnabled enabled => session.setEnabled enabled
  | .updateSettings settings => (session.updateSettings settings).1

/-- The session after some calls. -/
def run (session : Session) (calls : List Call) : Session := calls.foldl perform session

/-- A call reaches each part of a session on its own. -/
theorem perform_eq (session : Session) (call : Call) :
    session.perform call =
      { settings := call.settings?.getD session.settings
        enabled := call.enabled?.getD session.enabled
        log := session.log.run call.operation?.toList } := by
  cases call with
  | logCell event cell =>
      simp only [perform, logCell, Call.operation?]
      cases cell.record? event <;> rfl
  | _ => rfl

/-- Each part of a session is found from the calls that reach it: the last one for the settings and
for the switch, and all of them, in order, for the log. -/
theorem run_eq (session : Session) (calls : List Call) :
    session.run calls =
      { settings := (calls.filterMap Call.settings?).getLast?.getD session.settings
        enabled := (calls.filterMap Call.enabled?).getLast?.getD session.enabled
        log := session.log.run (calls.filterMap Call.operation?) } := by
  induction calls generalizing session with
  | nil => rfl
  | cons call later ih =>
      have step : session.run (call :: later) = (session.perform call).run later := rfl
      rw [step, ih, perform_eq]
      congr 1
      · cases settings : call.settings? <;> simp [settings, List.getLast?_cons]
      · cases enabled : call.enabled? <;> simp [enabled, List.getLast?_cons]
      · cases operation : call.operation? <;> simp [operation, Log.run]

theorem log_run (session : Session) (calls : List Call) :
    (session.run calls).log = session.log.run (calls.filterMap Call.operation?) := by
  rw [run_eq]

/-! ### Programs -/

theorem gatherCell_eq_empty_iff {session : Session} (consistent : session.log.Consistent)
    {cell : Cell} :
    session.gatherCell cell = "" ↔
      cell.kind ≠ .code ∨ ∀ record ∈ session.log.entries, record.cell ≠ cell.id := by
  rw [gatherCell]
  split
  · next isCode =>
    rw [Template.render_eq_empty_iff, consistent.groups_sliceLatest_eq_nil_iff]
    simp [isCode]
  · next notCode => simp [notCode]

theorem gatherCell_eq_gather {session : Session} (consistent : session.log.Consistent) {cell : Cell}
    (isCode : cell.kind = .code) {record : Record} {before after : List Record}
    (split : session.log.entries = before ++ record :: after) (ofCell : record.cell = cell.id)
    (last : ∀ later ∈ after, later.cell ≠ cell.id) :
    session.gatherCell cell = session.gather record.event := by
  rw [← ofCell] at last
  rw [gatherCell, if_pos isCode, gather, ← ofCell, consistent.sliceLatest_eq_of_split split last]

/-- What a host sees after any calls to a session, whatever log it started with. The program of a
cell is empty exactly if the cell is not code or was not executed since the last reset; otherwise it
is the program of the last execution of the cell, whatever the cell shows. Turning the switch and
updating the settings change neither the log nor a slice, the settings given last choose the marker,
the switch is where it was brought last, and an update reports whether it turns the switch. -/
theorem run_gathers_latest (analyzer : Analyzer) (earlier : List Operation) (settings : Settings)
    (calls : List Call) :
    let start := withLog settings ((Log.empty analyzer).run earlier)
    let session := start.run calls
    let unconfigured := start.run (calls.filter fun call => ¬call.Configures)
    let records := Journal.run (earlier ++ calls.filterMap Call.operation?)
    let given := (calls.filterMap Call.settings?).getLast?.getD settings
    (∀ cell : Cell,
      (session.gatherCell cell = "" ↔
        cell.kind ≠ .code ∨ ∀ record ∈ records, record.cell ≠ cell.id) ∧
      (cell.kind = .code → ∀ before record after, records = before ++ record :: after →
        record.cell = cell.id → (∀ later ∈ after, later.cell ≠ cell.id) →
          session.gatherCell cell = session.gather record.event)) ∧
      session.log = unconfigured.log ∧
      (∀ event, session.log.slice event = unconfigured.log.slice event ∧
        session.gather event =
          Template.render { marker := given.cellMarker } (session.log.slice event)) ∧
      session.enabled = (calls.filterMap Call.enabled?).getLast?.getD settings.enabled ∧
      ∀ next : Settings, (session.updateSettings next).2 = true ↔
        (session.updateSettings next).1.enabled ≠ session.enabled := by
  intro start session unconfigured records given
  have sessionLog : session.log =
      (Log.empty analyzer).run (earlier ++ calls.filterMap Call.operation?) := by
    rw [Log.run, List.foldl_append]
    exact log_run start calls
  have consistent : session.log.Consistent := by
    rw [sessionLog]
    exact Log.consistent_run_empty analyzer _
  have sameRecords : session.log.entries = records := by
    rw [sessionLog]
    exact Log.entries_run_empty analyzer _
  have sameLog : session.log = unconfigured.log := by
    rw [log_run, log_run, Call.filterMap_operation?_filter]
  have sameSettings : session.settings = given := by
    change (start.run calls).settings = given
    rw [run_eq]
    rfl
  refine ⟨?_, sameLog, ?_, ?_, ?_⟩
  · intro cell
    rw [← sameRecords]
    refine ⟨gatherCell_eq_empty_iff consistent, ?_⟩
    intro isCode before record after split ofCell last
    exact gatherCell_eq_gather consistent isCode split ofCell last
  · intro event
    refine ⟨by rw [sameLog], ?_⟩
    rw [gather, sameSettings]
    rfl
  · change (start.run calls).enabled = _
    rw [run_eq]
    rfl
  · intro next
    rw [updateSettings, bne_iff_ne]
    exact ne_comm

end Session

namespace Sample

/-- Reports before and after a reset, among them a blank text, a text that is not code and an event
that is already known, with the switch and the settings changed in between. -/
def calls : List Session.Call :=
  [.logCell ⟨"e5"⟩ ⟨⟨"d"⟩, .code, "x = 1", some 5, .finished⟩,
   .setEnabled false,
   .reset,
   .logCell ⟨"e6"⟩ ⟨⟨"a"⟩, .code, "x = 1", some 6, .error⟩,
   .updateSettings ⟨true, some "#"⟩,
   .logRecord ⟨⟨"b"⟩, ⟨"e7"⟩, "y = x\nx = 2", none, false⟩,
   .logRecord ⟨⟨"a"⟩, ⟨"e7"⟩, "x = z()", none, false⟩,
   .logCell ⟨"e8"⟩ ⟨⟨"a"⟩, .code, " ", some 7, .finished⟩,
   .logCell ⟨"e9"⟩ ⟨⟨"a"⟩, .markdown, "x", none, .finished⟩,
   .setEnabled false]

/-- A session whose log held some executions before these calls. -/
def session : Session := (Session.withLog ⟨true, none⟩ log).run calls

end Sample

namespace Session

theorem run_gathers_latest_sample :
    Journal.run (Sample.operations ++ Sample.calls.filterMap Call.operation?) =
        [⟨⟨"a"⟩, ⟨"e6"⟩, "x = 1", some 6, true⟩, ⟨⟨"b"⟩, ⟨"e7"⟩, "y = x\nx = 2", none, false⟩] ∧
      Sample.session.gatherCell ⟨⟨"a"⟩, .code, "y", none, .executing⟩ =
        Sample.session.gather ⟨"e6"⟩ ∧
      Sample.session.gatherCell ⟨⟨"d"⟩, .code, "x = 1", some 5, .finished⟩ = "" ∧
      Sample.session.gatherCell ⟨⟨"a"⟩, .markdown, "x", none, .finished⟩ = "" ∧
      Sample.session.gather ⟨"e6"⟩ =
        Template.render { marker := "#" } (Sample.session.log.slice ⟨"e6"⟩) ∧
      Sample.session.enabled = false := by
  have records : Journal.run (Sample.operations ++ Sample.calls.filterMap Call.operation?) =
      [⟨⟨"a"⟩, ⟨"e6"⟩, "x = 1", some 6, true⟩, ⟨⟨"b"⟩, ⟨"e7"⟩, "y = x\nx = 2", none, false⟩] := by
    decide +kernel
  obtain ⟨programs, _, slices, switch, _⟩ :=
    run_gathers_latest (Analyzer.ofTable Sample.table) Sample.operations ⟨true, none⟩ Sample.calls
  rw [records] at programs
  refine ⟨records, ?_, ?_, ?_, ?_, ?_⟩
  · exact (programs ⟨⟨"a"⟩, .code, "y", none, .executing⟩).2 rfl []
      ⟨⟨"a"⟩, ⟨"e6"⟩, "x = 1", some 6, true⟩
      [⟨⟨"b"⟩, ⟨"e7"⟩, "y = x\nx = 2", none, false⟩] rfl rfl (by decide)
  · exact (programs ⟨⟨"d"⟩, .code, "x = 1", some 5, .finished⟩).1.mpr (Or.inr (by decide))
  · exact (programs ⟨⟨"a"⟩, .markdown, "x", none, .finished⟩).1.mpr (Or.inl (by decide))
  · exact (slices ⟨"e6"⟩).2
  · exact switch

end Session

end NotebookSlice

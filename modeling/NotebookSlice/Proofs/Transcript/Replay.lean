import Mathlib.Data.List.Induction
import NotebookSlice.Proofs.Session.Runs
import NotebookSlice.Proofs.Slice.Relabelling
import NotebookSlice.Transcript

/-!
# Replaying a transcript

A replay reports the entries of a transcript one by one. The log refuses an entry for one of three
reasons: it is not code, it is blank, or its event is known. This file says which entries are kept
without running the log: an entry counts if it is executed and no earlier executed entry has its
event. A blank entry does not take its event away from later ones, and neither does an entry that is
not code.

Entries that do not count leave no trace, so they can be deleted. As identities are generated for
the entries that name none, the shorter transcript may get other ones; the two logs then differ by a
renaming that leaves the named events alone.
-/

namespace NotebookSlice

/-! ### Choosing by number -/

/-- The items whose numbers are chosen. -/
def select {α : Type} (items : List α) (chosen : Nat → Prop) [DecidablePred chosen] : List α :=
  (items.zipIdx.filter fun (_, number) => chosen number).map (·.1)

section Select

variable {α β : Type} (items : List α) (chosen : Nat → Prop) [DecidablePred chosen]

theorem select_concat (last : α) :
    select (items ++ [last]) chosen =
      select items chosen ++ if chosen items.length then [last] else [] := by
  by_cases isChosen : chosen items.length
  · simp [select, List.zipIdx_append, isChosen]
  · simp [select, List.zipIdx_append, isChosen]

theorem map_select (view : α → β) :
    (select items chosen).map view = select (items.map view) chosen := by
  simp only [select, List.zipIdx_map, List.filter_map, List.map_map]
  rfl

theorem select_congr {items : List α} {chosen other : Nat → Prop} [DecidablePred chosen]
    [DecidablePred other] (agree : ∀ number < items.length, chosen number ↔ other number) :
    select items chosen = select items other := by
  rw [select, select]
  congr 1
  apply List.filter_congr
  rintro ⟨item, number⟩ member
  rw [decide_eq_decide]
  exact agree number (List.snd_lt_of_mem_zipIdx member)

theorem select_sublist : (select items chosen).Sublist items := map_fst_filter_zipIdx_sublist _ _

end Select

namespace Transcript

/-! ### Reports -/

/-- An entry as it is reported. -/
structure Report where
  entry : Entry
  /-- The event that stands in if the entry names none. -/
  generated : EventId
deriving DecidableEq, Repr, Inhabited

namespace Report

/-- The event under which the entry is reported. -/
def event (report : Report) : EventId := report.entry.event.getD report.generated

/-- The entry is code, and it is not blank. -/
def Executed (report : Report) : Prop :=
  report.entry.cell.kind = .code ∧ Text.isBlankText report.entry.cell.source = false

instance (report : Report) : Decidable report.Executed :=
  inferInstanceAs (Decidable (_ ∧ _))

/-- What is logged of the entry if it counts. -/
def record (report : Report) : Record where
  cell := report.entry.cell.id
  event := report.event
  text := report.entry.cell.source
  count := report.entry.cell.count
  failed := decide (report.entry.cell.state = .error)

theorem event_eq_of_named {report : Report} {event : EventId}
    (named : report.entry.event = some event) :
    report.event = event := by
  rw [Report.event, named, Option.getD_some]

theorem event_eq_generated {report : Report} (unnamed : report.entry.event = none) :
    report.event = report.generated := by
  rw [event, unnamed, Option.getD_none]

end Report

/-- The entries as they are reported, of which number `n` gets the identity `fresh n` if it names
none. -/
def reports (transcript : Transcript) (fresh : Nat → EventId) : List Report :=
  transcript.entries.zipIdx.map fun (entry, number) => ⟨entry, fresh number⟩

theorem map_entry_reports (transcript : Transcript) (fresh : Nat → EventId) :
    (transcript.reports fresh).map (·.entry) = transcript.entries := by
  rw [reports, List.map_map]
  exact List.zipIdx_map_fst 0 _

/-- The report with the given number is an execution, and no earlier execution has its event. -/
def Counts (reports : List Report) (number : Nat) : Prop :=
  ∃ report ∈ reports[number]?, report.Executed ∧
    ∀ earlier ∈ reports.take number, earlier.Executed → earlier.event ≠ report.event

instance (reports : List Report) : DecidablePred (Counts reports) := fun _ =>
  inferInstanceAs (Decidable (∃ report ∈ _, _))

/-- The reports that count. -/
def kept (reports : List Report) : List Report := select reports (Counts reports)

theorem counts_concat_iff_of_lt (front : List Report) (last : Report) {number : Nat}
    (within : number < front.length) : Counts (front ++ [last]) number ↔ Counts front number := by
  rw [Counts, Counts, List.getElem?_append_left within, List.take_append_of_le_length within.le]

theorem counts_concat_length_iff (front : List Report) (last : Report) :
    Counts (front ++ [last]) front.length ↔
      last.Executed ∧ ∀ earlier ∈ front, earlier.Executed → earlier.event ≠ last.event := by
  simp [Counts]

theorem kept_concat (front : List Report) (last : Report) :
    kept (front ++ [last]) =
      kept front ++ if Counts (front ++ [last]) front.length then [last] else [] := by
  rw [kept, select_concat, kept,
    select_congr fun _ within => counts_concat_iff_of_lt front last within]

/-! ### What a replay logs -/

/-- The records after a report. -/
def accept (records : List Record) (report : Report) : List Record :=
  match report.entry.record? report.generated with
  | some record => Journal.perform records (.append record)
  | none => records

theorem accept_eq (records : List Record) (report : Report) :
    accept records report =
      if report.Executed ∧ ∀ record ∈ records, record.event ≠ report.event then
        records ++ [report.record]
      else records := by
  -- One case for each reason to refuse a report, and one for the report that is taken.
  by_cases isCode : report.entry.cell.kind = .code
  · have isRecord : report.entry.record? report.generated = some report.record := by
      simp [Entry.record?, Cell.record?, isCode, Report.record, Report.event]
    rw [accept, isRecord]
    by_cases blank : Text.isBlankText report.entry.cell.source = true
    · simp [Journal.perform, Report.Executed, Report.record, blank]
    · by_cases known : ∃ earlier ∈ records, earlier.event = report.event
      · simp [Journal.perform, Report.Executed, Report.record, blank, known]
      · simp [Journal.perform, Report.Executed, Report.record, blank, isCode, known]
  · simp [accept, Entry.record?, Cell.record?, Report.Executed, isCode]

/-- An event is known once there was an execution with it, kept or not. -/
theorem exists_event_iff (reports : List Report) (event : EventId) :
    (∃ record ∈ reports.foldl accept [], record.event = event) ↔
      ∃ report ∈ reports, report.Executed ∧ report.event = event := by
  induction reports using List.reverseRecOn with
  | nil => simp
  | append_singleton front last ih =>
      have inFrontOrLast : (∃ report ∈ front ++ [last], report.Executed ∧ report.event = event) ↔
          (∃ report ∈ front, report.Executed ∧ report.event = event) ∨ last.Executed ∧
            last.event = event := by
        simp [or_and_right, exists_or]
      rw [List.foldl_append, List.foldl_cons, List.foldl_nil, accept_eq, inFrontOrLast, ← ih]
      split
      · next accepted => simp [or_and_right, exists_or, accepted.1, Report.record]
      · next refused =>
        constructor
        · exact Or.inl
        · rintro (known | ⟨executed, rfl⟩)
          · exact known
          · by_contra unknown
            exact refused ⟨executed, by simpa using unknown⟩

/-- A report adds a record exactly if it counts. -/
theorem foldl_accept_concat (front : List Report) (last : Report) :
    (front ++ [last]).foldl accept [] =
      front.foldl accept [] ++
        if Counts (front ++ [last]) front.length then [last.record] else [] := by
  have newIff : (∀ record ∈ front.foldl accept [], record.event ≠ last.event) ↔
      ∀ earlier ∈ front, earlier.Executed → earlier.event ≠ last.event := by
    simpa using not_congr (exists_event_iff front last.event)
  rw [List.foldl_append, List.foldl_cons, List.foldl_nil, accept_eq]
  simp only [counts_concat_length_iff, newIff]
  split
  · rfl
  · rw [List.append_nil]

theorem foldl_accept_eq (reports : List Report) :
    reports.foldl accept [] = (kept reports).map Report.record := by
  induction reports using List.reverseRecOn with
  | nil => rfl
  | append_singleton front last ih =>
      rw [foldl_accept_concat, kept_concat, List.map_append, ih]
      split
      · rfl
      · rfl

/-- Reports that do not count can be left out. -/
theorem foldl_accept_select (reports : List Report) (chosen : Nat → Prop) [DecidablePred chosen]
    (all : ∀ number, Counts reports number → chosen number) :
    (select reports chosen).foldl accept [] = reports.foldl accept [] := by
  induction reports using List.reverseRecOn with
  | nil => rfl
  | append_singleton front last ih =>
      have allFront : ∀ number, Counts front number → chosen number := by
        intro number counts
        have within : number < front.length := by
          rcases counts with ⟨report, atNumber, _⟩
          exact (List.getElem?_eq_some_iff.mp atNumber).1
        exact all number ((counts_concat_iff_of_lt front last within).mpr counts)
      rw [select_concat]
      by_cases isChosen : chosen front.length
      · rw [if_pos isChosen, List.foldl_append, ih allFront, ← List.foldl_append]
      · rw [if_neg isChosen, List.append_nil, ih allFront, foldl_accept_concat,
          if_neg (mt (all front.length) isChosen), List.append_nil]

theorem replay_eq_run (transcript : Transcript) (settings : Settings) (fresh : Nat → EventId) :
    transcript.replay settings fresh =
      (Session.new settings).run ((transcript.records fresh).map Session.Call.logRecord) := by
  rw [replay, Session.run, List.foldl_map]
  rfl

theorem log_replay (transcript : Transcript) (settings : Settings) (fresh : Nat → EventId) :
    (transcript.replay settings fresh).log =
      (Log.empty (Analyzer.python)).run ((transcript.records fresh).map Operation.append) := by
  have operations : ((transcript.records fresh).map Session.Call.logRecord).filterMap
      Session.Call.operation? = (transcript.records fresh).map Operation.append := by
    rw [List.filterMap_map, ← List.filterMap_eq_map]
    rfl
  rw [replay_eq_run, Session.log_run, operations]
  rfl

theorem records_eq (transcript : Transcript) (fresh : Nat → EventId) :
    transcript.records fresh =
      (transcript.reports fresh).filterMap fun report => report.entry.record? report.generated := by
  rw [reports, List.filterMap_map]
  rfl

theorem consistent_log_replay (transcript : Transcript) (settings : Settings)
    (fresh : Nat → EventId) :
    (transcript.replay settings fresh).log.Consistent := by
  rw [log_replay]
  exact Log.consistent_run_empty _ _

theorem entries_log_replay (transcript : Transcript) (settings : Settings) (fresh : Nat → EventId) :
    (transcript.replay settings fresh).log.entries =
      (transcript.reports fresh).foldl accept [] := by
  rw [log_replay, Log.entries_run_empty, Journal.run, List.foldl_map, records_eq,
    List.foldl_filterMap]
  congr 1
  funext records report
  rw [accept]
  cases report.entry.record? report.generated with
  | none => rfl
  | some record => rfl

/-! ### Generated identities -/

/-- The events that entries name. -/
def named (reports : List Report) : List EventId := reports.filterMap (·.entry.event)

/-- The events that stand in for those that are not named. -/
def generated (reports : List Report) : List EventId :=
  (reports.filter (·.entry.event.isNone)).map (·.generated)

/-- Generated events are distinct, and no entry names one. -/
structure Fresh (reports : List Report) : Prop where
  distinct : (generated reports).Nodup
  unnamed : ∀ event ∈ generated reports, event ∉ named reports

namespace Fresh

variable {reports : List Report}

theorem sublist (fresh : Fresh reports) {fewer : List Report} (ofReports : fewer.Sublist reports) :
    Fresh fewer where
  distinct := fresh.distinct.sublist ((ofReports.filter _).map _)
  unnamed := by
    intro event isGenerated isNamed
    exact fresh.unnamed event (((ofReports.filter _).map _).subset isGenerated)
      ((ofReports.filterMap _).subset isNamed)

theorem ne_named (fresh : Fresh reports) {report other : Report} (member : report ∈ reports)
    (unnamed : report.entry.event = none) (otherMember : other ∈ reports) {event : EventId}
    (otherNamed : other.entry.event = some event) : report.generated ≠ event := by
  rintro rfl
  apply fresh.unnamed report.generated
  · exact List.mem_map_of_mem (List.mem_filter.mpr ⟨member, by simp [unnamed]⟩)
  · exact List.mem_filterMap.mpr ⟨other, otherMember, otherNamed⟩

theorem eq_of_generated_eq (fresh : Fresh reports) {first second : Nat} {report other : Report}
    (atFirst : reports[first]? = some report) (atSecond : reports[second]? = some other)
    (unnamed : report.entry.event = none) (otherUnnamed : other.entry.event = none)
    (same : report.generated = other.generated) : first = second := by
  have different : reports.Pairwise fun earlier later => earlier.entry.event = none →
      later.entry.event = none → earlier.generated ≠ later.generated := by
    simpa [generated, List.Nodup, List.pairwise_map, List.pairwise_filter] using fresh.distinct
  rw [List.pairwise_iff_getElem] at different
  rcases List.getElem?_eq_some_iff.mp atFirst with ⟨firstBound, rfl⟩
  rcases List.getElem?_eq_some_iff.mp atSecond with ⟨secondBound, rfl⟩
  by_contra apart
  rcases Nat.lt_or_gt_of_ne apart with less | greater
  · exact different first second firstBound secondBound less unnamed otherUnnamed same
  · exact different second first secondBound firstBound greater otherUnnamed unnamed same.symm

/-- Which reports share an event is seen from the entries. -/
theorem event_eq_iff (fresh : Fresh reports) {first second : Nat} {report other : Report}
    (atFirst : reports[first]? = some report) (atSecond : reports[second]? = some other) :
    report.event = other.event ↔
      first = second ∨
        ∃ event, report.entry.event = some event ∧ other.entry.event = some event := by
  have member := List.mem_of_getElem? atFirst
  have otherMember := List.mem_of_getElem? atSecond
  constructor
  · intro same
    cases names : report.entry.event with
    | none =>
        rw [Report.event_eq_generated names] at same
        cases otherNames : other.entry.event with
        | none =>
            rw [Report.event_eq_generated otherNames] at same
            exact Or.inl (fresh.eq_of_generated_eq atFirst atSecond names otherNames same)
        | some event =>
            rw [Report.event_eq_of_named otherNames] at same
            exact absurd same (fresh.ne_named member names otherMember otherNames)
    | some event =>
        rw [Report.event_eq_of_named names] at same
        cases otherNames : other.entry.event with
        | none =>
            rw [Report.event_eq_generated otherNames] at same
            exact absurd same.symm (fresh.ne_named otherMember otherNames member names)
        | some otherEvent =>
            rw [Report.event_eq_of_named otherNames] at same
            exact Or.inr ⟨event, rfl, congrArg some same.symm⟩
  · rintro (rfl | ⟨event, names, otherNames⟩)
    · rw [atFirst, Option.some.injEq] at atSecond
      rw [atSecond]
    · rw [Report.event_eq_of_named names, Report.event_eq_of_named otherNames]

end Fresh

/-- Reports of the same entries, with events generated anew. -/
structure Reissues (reports reissued : List Report) : Prop where
  fresh : Fresh reports
  fresh_reissued : Fresh reissued
  entries_eq : reissued.map (·.entry) = reports.map (·.entry)

namespace Reissues

variable {reports reissued : List Report}

theorem exists_report (reissues : Reissues reports reissued) {number : Nat} {report : Report}
    (atNumber : reports[number]? = some report) :
    ∃ again, reissued[number]? = some again ∧ again.entry = report.entry := by
  have sameEntry : (reissued.map (·.entry))[number]? = (reports.map (·.entry))[number]? := by
    rw [reissues.entries_eq]
  rwa [List.getElem?_map, List.getElem?_map, atNumber, Option.map_some,
    Option.map_eq_some_iff] at sameEntry

theorem event_eq_iff (reissues : Reissues reports reissued) {first second : Nat}
    {report other again otherAgain : Report} (atFirst : reports[first]? = some report)
    (atSecond : reports[second]? = some other) (againAtFirst : reissued[first]? = some again)
    (againAtSecond : reissued[second]? = some otherAgain) :
    again.event = otherAgain.event ↔ report.event = other.event := by
  rcases reissues.exists_report atFirst with ⟨_, atFirst', sameEntry⟩
  rcases reissues.exists_report atSecond with ⟨_, atSecond', otherSameEntry⟩
  rw [againAtFirst, Option.some.injEq] at atFirst'
  rw [againAtSecond, Option.some.injEq] at atSecond'
  subst atFirst' atSecond'
  rw [reissues.fresh_reissued.event_eq_iff againAtFirst againAtSecond,
    reissues.fresh.event_eq_iff atFirst atSecond, sameEntry, otherSameEntry]

theorem symm (reissues : Reissues reports reissued) : Reissues reissued reports :=
  ⟨reissues.fresh_reissued, reissues.fresh, reissues.entries_eq.symm⟩

theorem counts (reissues : Reissues reports reissued) {number : Nat}
    (counted : Counts reports number) :
    Counts reissued number := by
  rcases counted with ⟨report, atNumber, executed, isFirst⟩
  rcases reissues.exists_report atNumber with ⟨again, againAtNumber, sameEntry⟩
  refine ⟨again, againAtNumber, ?_, ?_⟩
  · rwa [Report.Executed, sameEntry]
  · intro earlierAgain inFront earlierExecuted
    rcases List.mem_take_iff_getElem.mp inFront with ⟨place, below, atPlace⟩
    have againAtPlace : reissued[place]? = some earlierAgain := by
      rw [← atPlace, List.getElem?_eq_getElem]
    rcases reissues.symm.exists_report againAtPlace with ⟨earlier, earlierAtPlace, earlierSameEntry⟩
    rw [ne_eq, reissues.event_eq_iff earlierAtPlace atNumber againAtPlace againAtNumber]
    apply isFirst earlier
    · rw [List.mem_iff_getElem?]
      exact ⟨place, by rw [List.getElem?_take_of_lt (by omega), earlierAtPlace]⟩
    · rwa [Report.Executed, earlierSameEntry]

theorem counts_iff (reissues : Reissues reports reissued) (number : Nat) :
    Counts reissued number ↔ Counts reports number :=
  ⟨reissues.symm.counts, reissues.counts⟩

end Reissues

/-- The event that takes the place of another when reports are issued again. -/
def reissuedEvent (reports reissued : List Report) (event : EventId) : EventId :=
  match (reports.zip reissued).find? fun (report, _) => report.event == event with
  | some (_, again) => again.event
  | none => event

theorem reissuedEvent_of_not_mem {reports reissued : List Report} {event : EventId}
    (notUsed : ∀ report ∈ reports, report.event ≠ event) :
    reissuedEvent reports reissued event = event := by
  have notFound : (reports.zip reissued).find? (fun (report, _) => report.event == event) =
      none := by
    rw [List.find?_eq_none]
    rintro ⟨report, again⟩ member
    simpa using notUsed report (List.of_mem_zip member).1
  rw [reissuedEvent, notFound]

namespace Reissues

variable {reports reissued : List Report}

theorem reissuedEvent_eq (reissues : Reissues reports reissued) {number : Nat}
    {report again : Report} (atNumber : reports[number]? = some report)
    (againAtNumber : reissued[number]? = some again) :
    reissuedEvent reports reissued report.event = again.event := by
  have paired : (report, again) ∈ reports.zip reissued :=
    List.mem_of_getElem? (List.getElem?_zip_eq_some.mpr ⟨atNumber, againAtNumber⟩)
  rw [reissuedEvent]
  split
  · next other otherAgain found =>
    have sameEvent : other.event = report.event := by simpa using List.find?_some found
    rcases List.getElem?_of_mem (List.mem_of_find?_eq_some found) with ⟨place, atPlace⟩
    rcases List.getElem?_zip_eq_some.mp atPlace with ⟨otherAtPlace, otherAgainAtPlace⟩
    exact (reissues.event_eq_iff otherAtPlace atNumber otherAgainAtPlace againAtNumber).mpr
      sameEvent
  · next notFound => simpa using List.find?_eq_none.mp notFound _ paired

/-- A named event stays, as each report with it names it. -/
theorem reissuedEvent_of_named (reissues : Reissues reports reissued) {event : EventId}
    (named : ∀ report ∈ reports, report.event = event → report.entry.event = some event) :
    reissuedEvent reports reissued event = event := by
  by_cases used : ∃ report ∈ reports, report.event = event
  · rcases used with ⟨report, member, rfl⟩
    rcases List.getElem?_of_mem member with ⟨number, atNumber⟩
    rcases reissues.exists_report atNumber with ⟨again, againAtNumber, sameEntry⟩
    rw [reissues.reissuedEvent_eq atNumber againAtNumber]
    apply Report.event_eq_of_named
    rw [sameEntry]
    exact named report member rfl
  · exact reissuedEvent_of_not_mem (by simpa using used)

theorem map_record (reissues : Reissues reports reissued) :
    reissued.map Report.record =
      (reports.map Report.record).map (Record.renamed (reissuedEvent reports reissued)) := by
  have sameLength : reissued.length = reports.length := by
    simpa using congrArg List.length reissues.entries_eq
  apply List.ext_getElem?
  intro number
  simp only [List.getElem?_map]
  cases atNumber : reports[number]? with
  | none =>
      rw [List.getElem?_eq_none_iff] at atNumber
      rw [List.getElem?_eq_none_iff.mpr (by omega)]
      rfl
  | some report =>
      rcases reissues.exists_report atNumber with ⟨again, againAtNumber, sameEntry⟩
      rw [againAtNumber]
      simp only [Option.map_some, Record.renamed, Report.record, sameEntry,
        reissues.reissuedEvent_eq atNumber againAtNumber]

/-- The same reports count, and their records differ in the events alone. -/
theorem map_record_kept (reissues : Reissues reports reissued) :
    (kept reissued).map Report.record =
      ((kept reports).map Report.record).map (Record.renamed (reissuedEvent reports reissued)) := by
  rw [kept, map_select, reissues.map_record, kept, map_select, map_select]
  exact select_congr fun number _ => reissues.counts_iff number

end Reissues

/-! ### Deleting entries -/

/-- The transcript without the entries that have the given numbers. -/
def without (transcript : Transcript) (dropped : Set Nat) [DecidablePred (· ∈ dropped)] :
    Transcript where
  entries := select transcript.entries (· ∉ dropped)

theorem settings_replay (transcript : Transcript) (settings : Settings) (fresh : Nat → EventId) :
    (transcript.replay settings fresh).settings = settings := by
  have noSettings : ((transcript.records fresh).map Session.Call.logRecord).filterMap
      Session.Call.settings? = [] := by
    simp [List.filterMap_eq_nil_iff, Session.Call.settings?]
  rw [replay_eq_run, Session.run_eq, noSettings]
  rfl

section Without

variable {transcript : Transcript} {fresh otherFresh : Nat → EventId} {dropped : Set Nat}
  [DecidablePred (· ∈ dropped)]

/-- The entries that remain are reported once with the events that they had and once with new
ones. -/
theorem reissues_without (isFresh : Fresh (transcript.reports fresh))
    (otherIsFresh : Fresh ((transcript.without dropped).reports otherFresh)) :
    Reissues (select (transcript.reports fresh) (· ∉ dropped))
      ((transcript.without dropped).reports otherFresh) where
  fresh := isFresh.sublist (select_sublist _ _)
  fresh_reissued := otherIsFresh
  entries_eq := by
    rw [map_entry_reports, map_select, map_entry_reports]
    rfl

theorem renames_without (settings : Settings) (isFresh : Fresh (transcript.reports fresh))
    (otherIsFresh : Fresh ((transcript.without dropped).reports otherFresh))
    (idle : ∀ number ∈ dropped, ¬Counts (transcript.reports fresh) number) :
    Log.Renames
      (reissuedEvent (select (transcript.reports fresh) (· ∉ dropped))
        ((transcript.without dropped).reports otherFresh))
      (transcript.replay settings fresh).log
        ((transcript.without dropped).replay settings otherFresh).log where
  consistent := consistent_log_replay transcript settings fresh
  other_consistent := consistent_log_replay _ settings otherFresh
  analyzer_eq := by rw [log_replay, log_replay, Log.analyzer_run, Log.analyzer_run]
  entries_eq := by
    -- What is deleted changes nothing while the others keep their events; then these are renamed.
    rw [entries_log_replay, entries_log_replay, foldl_accept_eq,
      (reissues_without isFresh otherIsFresh).map_record_kept, ← foldl_accept_eq,
      foldl_accept_select]
    exact fun number counted isDropped => idle number isDropped counted

theorem reissuedEvent_without_of_named (isFresh : Fresh (transcript.reports fresh))
    (otherIsFresh : Fresh ((transcript.without dropped).reports otherFresh)) {entry : Entry}
    {event : EventId} (member : entry ∈ transcript.entries) (named : entry.event = some event) :
    reissuedEvent (select (transcript.reports fresh) (· ∉ dropped))
      ((transcript.without dropped).reports otherFresh) event = event := by
  rw [← map_entry_reports transcript fresh] at member
  rcases List.mem_map.mp member with ⟨naming, namingMem, rfl⟩
  apply (reissues_without isFresh otherIsFresh).reissuedEvent_of_named
  rintro report remains rfl
  have reportMem := (select_sublist (transcript.reports fresh) (· ∉ dropped)).subset remains
  cases names : report.entry.event with
  | none =>
      rw [Report.event_eq_generated names] at named
      exact absurd rfl (isFresh.ne_named reportMem names namingMem named)
  | some event => rw [Report.event_eq_of_named names]

end Without

/-- A replay logs exactly the entries that count, in order and under their events. A cell has the
program of its last entry that counts, or none if no entry of it counts. Entries that do not count
can be deleted: if the events that are generated before and after are fresh, records and slices are
the same up to a renaming that keeps all named events, and programs are the same. -/
theorem replay_keeps_first_executions (transcript : Transcript) (settings : Settings)
    (fresh : Nat → EventId) :
    let session := transcript.replay settings fresh
    let reports := transcript.reports fresh
    session.log.entries = (kept reports).map (fun report =>
        { cell := report.entry.cell.id
          event := report.entry.event.getD report.generated
          text := report.entry.cell.source
          count := report.entry.cell.count
          failed := decide (report.entry.cell.state = .error) }) ∧
      (∀ before report after, kept reports = before ++ report :: after →
        (∀ later ∈ after, later.entry.cell.id ≠ report.entry.cell.id) →
          session.settings.template.render (session.log.sliceLatest report.entry.cell.id) =
            session.gather report.event) ∧
      (∀ cell, session.settings.template.render (session.log.sliceLatest cell) = "" ↔
        ∀ report ∈ kept reports, report.entry.cell.id ≠ cell) ∧
      ∀ (dropped : Set Nat) [DecidablePred (· ∈ dropped)] (otherFresh : Nat → EventId),
        (∀ number ∈ dropped, ¬Counts reports number) → Fresh reports →
        Fresh ((transcript.without dropped).reports otherFresh) →
          let other := (transcript.without dropped).replay settings otherFresh
          ∃ rename : EventId → EventId,
            (∀ entry ∈ transcript.entries, ∀ event, entry.event = some event →
              rename event = event) ∧
            other.log.entries = session.log.entries.map (Record.renamed rename) ∧
            (∀ event, session.log.Logged event →
              other.log.slice (rename event) = (session.log.slice event).renamed rename ∧
              other.gather (rename event) = session.gather event) ∧
            ∀ cell, other.log.sliceLatest cell = (session.log.sliceLatest cell).renamed rename ∧
              other.settings.template.render (other.log.sliceLatest cell) =
                session.settings.template.render (session.log.sliceLatest cell) := by
  intro session reports
  have consistent : session.log.Consistent := consistent_log_replay transcript settings fresh
  have entries : session.log.entries = (kept reports).map Report.record := by
    rw [entries_log_replay, foldl_accept_eq]
  refine ⟨entries, ?_, ?_, ?_⟩
  · intro before report after split last
    have entriesSplit : session.log.entries =
        before.map Report.record ++ report.record :: after.map Report.record := by
      rw [entries, split, List.map_append, List.map_cons]
    have latest : session.log.sliceLatest report.entry.cell.id = session.log.slice report.event :=
      consistent.sliceLatest_eq_of_split entriesSplit (List.forall_mem_map.mpr last)
    rw [latest, Session.gather]
  · intro cell
    rw [Template.render_eq_empty_iff, consistent.groups_sliceLatest_eq_nil_iff, entries]
    exact List.forall_mem_map
  · intro dropped _ otherFresh idle isFresh otherIsFresh other
    have renames := renames_without settings isFresh otherIsFresh idle
    have sameSettings : other.settings = session.settings := by
      rw [settings_replay, settings_replay]
    refine ⟨_, ?_, renames.entries_eq, ?_, ?_⟩
    · intro entry member event named
      exact reissuedEvent_without_of_named isFresh otherIsFresh member named
    · intro event logged
      have sameSlice := renames.slice_eq logged
      refine ⟨sameSlice, ?_⟩
      rw [Session.gather, sameSlice, Template.render_renamed, sameSettings, Session.gather]
    · intro cell
      have sameSlice := renames.sliceLatest_eq cell
      refine ⟨sameSlice, ?_⟩
      rw [sameSlice, Template.render_renamed, sameSettings]

end Transcript

namespace Sample

/-- A transcript in which a blank entry and one that is not code name an event before an execution
does, and a second execution of another cell names it again. -/
def transcript : Transcript where
  entries :=
    [⟨⟨⟨"a"⟩, .code, "x = 1", some 1, .finished⟩, none⟩,
     ⟨⟨⟨"b"⟩, .code, " \n", some 2, .finished⟩, some ⟨"e"⟩⟩,
     ⟨⟨⟨"c"⟩, .markdown, "y", none, .finished⟩, some ⟨"e"⟩⟩,
     ⟨⟨⟨"a"⟩, .code, "x = 2", some 3, .finished⟩, some ⟨"e"⟩⟩,
     ⟨⟨⟨"b"⟩, .code, "y = x", some 4, .finished⟩, some ⟨"e"⟩⟩,
     ⟨⟨⟨"b"⟩, .code, "y = x + 1", some 5, .error⟩, none⟩]

/-- Identities that are longer the later they are generated. -/
def fresh (number : Nat) : EventId := ⟨String.ofList (List.replicate number 'f')⟩

/-- Entries that do not count. -/
def idle : Set Nat := {number | number ∈ [1, 4]}

instance : DecidablePred (· ∈ idle) := fun number => inferInstanceAs (Decidable (number ∈ [1, 4]))

theorem fresh_reports : Transcript.Fresh (transcript.reports fresh) where
  distinct := by decide +kernel
  unnamed := by decide +kernel

theorem fresh_reports_without : Transcript.Fresh ((transcript.without idle).reports fresh) where
  distinct := by decide +kernel
  unnamed := by decide +kernel

theorem not_counts_idle :
    ∀ number ∈ idle, ¬Transcript.Counts (transcript.reports fresh) number := by
  change ∀ number ∈ [1, 4], ¬Transcript.Counts (transcript.reports fresh) number
  decide +kernel

end Sample

namespace Transcript

theorem replay_keeps_first_executions_sample :
    Fresh (Sample.transcript.reports Sample.fresh) ∧
      Fresh ((Sample.transcript.without Sample.idle).reports Sample.fresh) ∧
      (∀ number ∈ Sample.idle, ¬Counts (Sample.transcript.reports Sample.fresh) number) ∧
      let session := Sample.transcript.replay {} Sample.fresh
      let other := (Sample.transcript.without Sample.idle).replay {} Sample.fresh
      session.log.entries =
          [⟨⟨"a"⟩, ⟨""⟩, "x = 1", some 1, false⟩, ⟨⟨"a"⟩, ⟨"e"⟩, "x = 2", some 3, false⟩,
           ⟨⟨"b"⟩, ⟨"fffff"⟩, "y = x + 1", some 5, true⟩] ∧
        session.settings.template.render (session.log.sliceLatest ⟨"a"⟩) = session.gather ⟨"e"⟩ ∧
        session.settings.template.render (session.log.sliceLatest ⟨"c"⟩) = "" ∧
        ∃ rename : EventId → EventId, rename ⟨"e"⟩ = ⟨"e"⟩ ∧
          other.log.entries = session.log.entries.map (Record.renamed rename) ∧
          other.gather ⟨"e"⟩ = session.gather ⟨"e"⟩ := by
  refine ⟨Sample.fresh_reports, Sample.fresh_reports_without, Sample.not_counts_idle, ?_⟩
  intro session other
  obtain ⟨records, programs, noProgram, deletion⟩ :=
    replay_keeps_first_executions Sample.transcript {} Sample.fresh
  have kept : kept (Sample.transcript.reports Sample.fresh) =
      [⟨⟨⟨⟨"a"⟩, .code, "x = 1", some 1, .finished⟩, none⟩, ⟨""⟩⟩,
       ⟨⟨⟨⟨"a"⟩, .code, "x = 2", some 3, .finished⟩, some ⟨"e"⟩⟩, ⟨"fff"⟩⟩,
       ⟨⟨⟨⟨"b"⟩, .code, "y = x + 1", some 5, .error⟩, none⟩, ⟨"fffff"⟩⟩] := by
    decide +kernel
  rw [kept] at records programs noProgram
  obtain ⟨rename, namedStay, sameRecords, slices, _⟩ :=
    deletion Sample.idle Sample.fresh Sample.not_counts_idle Sample.fresh_reports
      Sample.fresh_reports_without
  have staysNamed : rename ⟨"e"⟩ = ⟨"e"⟩ :=
    namedStay ⟨⟨⟨"a"⟩, .code, "x = 2", some 3, .finished⟩, some ⟨"e"⟩⟩ (by decide) ⟨"e"⟩ rfl
  refine ⟨records, ?_, ?_, rename, staysNamed, sameRecords, ?_⟩
  · exact programs [_] ⟨⟨⟨⟨"a"⟩, .code, "x = 2", some 3, .finished⟩, some ⟨"e"⟩⟩, ⟨"fff"⟩⟩
      [_] rfl (by decide)
  · exact (noProgram ⟨"c"⟩).mpr (by decide)
  · have logged : session.log.Logged ⟨"e"⟩ := by
      rw [Log.Logged, records]
      decide
    have sameProgram := (slices ⟨"e"⟩ logged).2
    rwa [staysNamed] at sameProgram

end Transcript

end NotebookSlice

import Mathlib.Data.List.Nodup
import NotebookSlice.Log

/-!
# Logs as lists of records

A log keeps three indexes next to its records. This file shows that they cannot be told apart from a
plain list of records: after any sequence of operations, each query gives what a scan of the list
gives.

The list is `Journal.run`, which knows no indexes. `Log.Consistent` says that each index agrees with
the scan that it replaces; it holds of the empty log and every operation keeps it. What later files
need about logs follows from this invariant alone.
-/

namespace NotebookSlice

/-- Among items with distinct labels, a search for a label finds the one item that has it. -/
theorem find?_label_eq_some_iff {α β : Type} [DecidableEq β] {items : List α} {label : α → β}
    (distinct : (items.map label).Nodup) {wanted : β} {item : α} :
    items.find? (fun other => label other == wanted) = some item ↔
      item ∈ items ∧ label item = wanted := by
  constructor
  · intro found
    exact ⟨List.mem_of_find?_eq_some found, by simpa using List.find?_some found⟩
  · rintro ⟨member, rfl⟩
    cases result : items.find? fun other => label other == label item with
    | none =>
        rw [List.find?_eq_none] at result
        simpa using result item member
    | some other =>
        have sameLabel : label other = label item := by simpa using List.find?_some result
        rw [List.inj_on_of_nodup_map distinct (List.mem_of_find?_eq_some result) member sameLabel]

/-- What can be done to a log. -/
inductive Operation where
  | append (record : Record)
  | reset
deriving DecidableEq, Repr, Inhabited

namespace Journal

/-- The list of records after an operation. -/
def perform (records : List Record) : Operation → List Record
  | .append record =>
    if Text.isBlankText record.text ∨ ∃ earlier ∈ records, earlier.event = record.event then records
    else records ++ [record]
  | .reset => []

/-- The list of records after some operations, starting from none. -/
def run (operations : List Operation) : List Record := operations.foldl perform []

/-- Reports of new and distinct executions of texts that are not blank are all taken. -/
theorem foldl_perform_append {taken records : List Record}
    (distinct : ((taken ++ records).map (·.event)).Nodup)
    (notBlank : ∀ record ∈ records, Text.isBlankText record.text = false) :
    (records.map Operation.append).foldl perform taken = taken ++ records := by
  induction records generalizing taken with
  | nil => simp
  | cons record later ih =>
      have accepted : perform taken (.append record) = taken ++ [record] := by
        rw [perform, if_neg]
        rintro (blank | ⟨earlier, member, sameEvent⟩)
        · simp [notBlank record List.mem_cons_self] at blank
        · rw [List.map_append, List.nodup_append] at distinct
          exact distinct.2.2 _ (List.mem_map_of_mem member) _ List.mem_cons_self sameEvent
      rw [List.map_cons, List.foldl_cons, accepted, ih, List.append_assoc, List.singleton_append]
      · simpa using distinct
      · exact fun other member => notBlank other (List.mem_cons_of_mem _ member)

end Journal

namespace Log

/-- The log after an operation. -/
def perform (log : Log) : Operation → Log
  | .append record => (log.append record).1
  | .reset => log.reset

/-- The log after some operations. -/
def run (log : Log) (operations : List Operation) : Log := operations.foldl perform log

/-- The records of a log, oldest first. -/
def entries (log : Log) : List Record := log.records.toList

@[simp]
theorem entries_empty (analyzer : Analyzer) : (empty analyzer).entries = [] := rfl

@[simp]
theorem entries_push (log : Log) (record : Record) (facts : Facts) :
    (log.push record facts).entries = log.entries ++ [record] := by
  simp [entries, push]

@[simp]
theorem length_entries (log : Log) : log.entries.length = log.records.size := by
  simp [entries]

/-- The execution is in the log. -/
def Logged (log : Log) (event : EventId) : Prop := ∃ record ∈ log.entries, record.event = event

instance (log : Log) (event : EventId) : Decidable (log.Logged event) :=
  inferInstanceAs (Decidable (∃ record ∈ log.entries, record.event = event))

theorem not_logged_iff {log : Log} {event : EventId} :
    ¬log.Logged event ↔ ∀ record ∈ log.entries, record.event ≠ event := by
  simp [Logged]

/-- The records are distinct executions of texts that are not blank, and each index agrees with the
scan of the records that it replaces. -/
structure Consistent (log : Log) : Prop where
  distinct : (log.entries.map (·.event)).Nodup
  notBlank : ∀ record ∈ log.entries, Text.isBlankText record.text = false
  positions_eq : ∀ event, log.positions[event]? = log.entries.findIdx? (·.event == event)
  latest_eq : ∀ cell,
    log.latest[cell]? = ((log.entries.filter (·.cell == cell)).getLast?).map (·.event)
  known_eq : ∀ event, log.known[event]? =
    (log.entries.find? (·.event == event)).map fun record => (factsOf log.analyzer record.text).1

theorem consistent_empty (analyzer : Analyzer) : (empty analyzer).Consistent where
  distinct := by simp
  notBlank := by simp
  positions_eq := by simp [empty, entries]
  latest_eq := by simp [empty, entries]
  known_eq := by simp [empty, entries]

theorem contains_iff_logged {log : Log} (consistent : log.Consistent) (event : EventId) :
    log.positions.contains event = true ↔ log.Logged event := by
  rw [Std.HashMap.contains_eq_isSome_getElem?, consistent.positions_eq, List.findIdx?_isSome]
  simp [Logged]

/-- A new execution of some text can be put at the end without disturbing the indexes. -/
theorem Consistent.push {log : Log} (consistent : log.Consistent) {record : Record}
    (notBlank : Text.isBlankText record.text = false) (fresh : ¬log.Logged record.event) :
    (log.push record (factsOf log.analyzer record.text).1).Consistent := by
  have unseen := not_logged_iff.mp fresh
  constructor
  · simp only [entries_push, List.map_append, List.map_cons, List.map_nil]
    rw [List.nodup_append]
    refine ⟨consistent.distinct, by simp, ?_⟩
    intro event eventMem other otherMem
    rcases List.mem_map.mp eventMem with ⟨earlier, member, rfl⟩
    simp only [List.mem_singleton] at otherMem
    subst other
    exact unseen earlier member
  · intro other member
    simp only [entries_push, List.mem_append, List.mem_singleton] at member
    rcases member with member | rfl
    · exact consistent.notBlank other member
    · exact notBlank
  · intro event
    simp only [entries_push, List.findIdx?_append]
    change (log.positions.insert record.event log.records.size)[event]? = _
    rw [Std.HashMap.getElem?_insert, consistent.positions_eq]
    by_cases equal : record.event = event
    · subst event
      have absent : log.entries.findIdx? (·.event == record.event) = none := by
        rw [List.findIdx?_eq_none_iff]
        intro earlier member
        simpa using unseen earlier member
      simp [absent]
    · simp [equal]
  · intro cell
    simp only [entries_push, List.filter_append, List.getLast?_append]
    change (log.latest.insert record.cell record.event)[cell]? = _
    rw [Std.HashMap.getElem?_insert, consistent.latest_eq]
    by_cases equal : record.cell = cell
    · simp [equal]
    · simp [equal]
  · intro event
    simp only [entries_push, List.find?_append]
    change (log.known.insert record.event _)[event]? = _
    rw [Std.HashMap.getElem?_insert, consistent.known_eq]
    by_cases equal : record.event = event
    · subst event
      have absent : log.entries.find? (·.event == record.event) = none := by
        rw [List.find?_eq_none]
        intro earlier member
        simpa using unseen earlier member
      simp [absent, Log.push]
    · simp [equal, Log.push]

/-- What a report does to a log: nothing if the text is blank or the execution is known, and
otherwise the record with its facts goes to the end. -/
theorem append_cases {log : Log} (consistent : log.Consistent) (record : Record) :
    (Text.isBlankText record.text = true ∧ log.append record = (log, .ignored .blankText)) ∨
      (Text.isBlankText record.text = false ∧ log.Logged record.event ∧
        log.append record = (log, .ignored .repeatedEvent)) ∨
      (Text.isBlankText record.text = false ∧ ¬log.Logged record.event ∧
        log.append record =
          (log.push record (factsOf log.analyzer record.text).1,
            .appended log.entries.length (factsOf log.analyzer record.text).2)) := by
  by_cases blank : Text.isBlankText record.text = true
  · exact Or.inl ⟨blank, by simp [append, blank]⟩
  · right
    by_cases known : log.Logged record.event
    · left
      have contained := (contains_iff_logged consistent record.event).mpr known
      exact ⟨by simpa using blank, known, by simp only [append, blank, contained]; simp⟩
    · right
      have missing : ¬log.positions.contains record.event = true :=
        mt (contains_iff_logged consistent record.event).mp known
      exact ⟨by simpa using blank, known, by simp only [append, blank, missing]; simp⟩

namespace Consistent

variable {log : Log}

theorem perform (consistent : log.Consistent) (operation : Operation) :
    (log.perform operation).Consistent := by
  cases operation with
  | append record =>
      simp only [Log.perform]
      rcases append_cases consistent record with
        ⟨_, result⟩ | ⟨_, _, result⟩ | ⟨notBlank, fresh, result⟩
      · rw [result]
        exact consistent
      · rw [result]
        exact consistent
      · rw [result]
        exact consistent.push notBlank fresh
  | reset => exact consistent_empty log.analyzer

theorem run (consistent : log.Consistent) (operations : List Operation) :
    (log.run operations).Consistent := by
  induction operations generalizing log with
  | nil => exact consistent
  | cons operation later ih => exact ih (consistent.perform operation)

theorem entries_perform (consistent : log.Consistent) (operation : Operation) :
    (log.perform operation).entries = Journal.perform log.entries operation := by
  cases operation with
  | append record =>
      simp only [Log.perform, Journal.perform]
      rcases append_cases consistent record with
        ⟨blank, result⟩ | ⟨_, known, result⟩ | ⟨notBlank, fresh, result⟩
      · rw [result]
        exact (if_pos (Or.inl blank)).symm
      · rw [result]
        exact (if_pos (Or.inr known)).symm
      · rw [result, if_neg]
        · simp
        · rintro (blank | known)
          · simp [notBlank] at blank
          · exact fresh known
  | reset => rfl

theorem entries_run (consistent : log.Consistent) (operations : List Operation) :
    (log.run operations).entries = operations.foldl Journal.perform log.entries := by
  induction operations generalizing log with
  | nil => rfl
  | cons operation later ih =>
      simp only [Log.run, List.foldl_cons]
      rw [← entries_perform consistent operation]
      exact ih (consistent.perform operation)

end Consistent

@[simp]
theorem analyzer_perform (log : Log) (operation : Operation) :
    (log.perform operation).analyzer = log.analyzer := by
  cases operation with
  | append record =>
      simp only [perform, append]
      split
      · rfl
      · split <;> rfl
  | reset => rfl

@[simp]
theorem analyzer_run (log : Log) (operations : List Operation) :
    (log.run operations).analyzer = log.analyzer := by
  induction operations generalizing log with
  | nil => rfl
  | cons operation later ih =>
      simp only [run, List.foldl_cons]
      exact (ih (log.perform operation)).trans (analyzer_perform log operation)

theorem consistent_run_empty (analyzer : Analyzer) (operations : List Operation) :
    ((empty analyzer).run operations).Consistent :=
  (consistent_empty analyzer).run operations

theorem entries_run_empty (analyzer : Analyzer) (operations : List Operation) :
    ((empty analyzer).run operations).entries = Journal.run operations :=
  (consistent_empty analyzer).entries_run operations

theorem entries_run_append (analyzer : Analyzer) {records : List Record}
    (distinct : (records.map (·.event)).Nodup)
    (notBlank : ∀ record ∈ records, Text.isBlankText record.text = false) :
    ((empty analyzer).run (records.map Operation.append)).entries = records := by
  rw [entries_run_empty]
  exact Journal.foldl_perform_append distinct notBlank

/-! ### Queries -/

namespace Consistent

variable {log : Log}

theorem position?_eq (consistent : log.Consistent) (event : EventId) :
    log.position? event = log.entries.findIdx? (·.event == event) :=
  consistent.positions_eq event

theorem record?_eq (consistent : log.Consistent) (event : EventId) :
    log.record? event = log.entries.find? (·.event == event) := by
  rw [record?, consistent.position?_eq, List.find?_eq_bind_findIdx?_getElem?]
  simp [entries]

theorem facts?_eq (consistent : log.Consistent) (event : EventId) :
    log.facts? event = (log.entries.find? (·.event == event)).map fun record =>
      (log.analyzer.analyze record.text).toOption.getD {} := by
  rw [facts?, consistent.known_eq]
  congr 1
  funext record
  simp only [factsOf]
  cases log.analyzer.analyze record.text <;> rfl

theorem upTo?_eq (consistent : log.Consistent) (event : EventId) :
    log.upTo? event = (log.entries.findIdx? (·.event == event)).map fun position =>
      log.entries.take (position + 1) := by
  rw [upTo?, consistent.position?_eq]
  rfl

/-- As events are distinct, a scan for an event finds the one record that has it. -/
theorem find?_eq_some_iff (consistent : log.Consistent) {event : EventId} {record : Record} :
    log.entries.find? (·.event == event) = some record ↔
      record ∈ log.entries ∧ record.event = event :=
  find?_label_eq_some_iff consistent.distinct

theorem facts?_eq_some (consistent : log.Consistent) {record : Record}
    (member : record ∈ log.entries) :
    log.facts? record.event = some ((log.analyzer.analyze record.text).toOption.getD {}) := by
  rw [consistent.facts?_eq, consistent.find?_eq_some_iff.mpr ⟨member, rfl⟩, Option.map_some]

theorem logged_of_facts?_eq_some (consistent : log.Consistent) {event : EventId} {facts : Facts}
    (known : log.facts? event = some facts) : log.Logged event := by
  rw [consistent.facts?_eq, Option.map_eq_some_iff] at known
  rcases known with ⟨record, found, _⟩
  exact ⟨record, consistent.find?_eq_some_iff.mp found⟩

/-- The position that a scan for an event finds is the only one at which the event stands. -/
theorem findIdx?_eq_some_iff (consistent : log.Consistent) {event : EventId} {position : Nat} :
    log.entries.findIdx? (·.event == event) = some position ↔
      ∃ record, log.entries[position]? = some record ∧ record.event = event := by
  constructor
  · intro found
    rcases List.findIdx?_eq_some_iff_getElem.mp found with ⟨within, sameEvent, _⟩
    exact ⟨log.entries[position], List.getElem?_eq_getElem within, by simpa using sameEvent⟩
  · rintro ⟨record, atPosition, rfl⟩
    rcases List.getElem?_eq_some_iff.mp atPosition with ⟨within, rfl⟩
    rw [List.findIdx?_eq_some_iff_getElem]
    refine ⟨within, by simp, ?_⟩
    intro earlier less sameEvent
    have different := List.pairwise_iff_getElem.mp consistent.distinct earlier position
      (by rw [List.length_map]; omega) (by rwa [List.length_map]) less
    simp only [List.getElem_map] at different
    exact different (by simpa using sameEvent)

theorem logged_of_upTo?_eq_some (consistent : log.Consistent) {event : EventId}
    {history : List Record} (upTo : log.upTo? event = some history) : log.Logged event := by
  rw [consistent.upTo?_eq, Option.map_eq_some_iff] at upTo
  rcases upTo with ⟨position, found, _⟩
  rcases consistent.findIdx?_eq_some_iff.mp found with ⟨record, atPosition, sameEvent⟩
  exact ⟨record, List.mem_of_getElem? atPosition, sameEvent⟩

theorem latest?_eq (consistent : log.Consistent) (cell : CellId) :
    log.latest? cell = (log.entries.filter (·.cell == cell)).getLast? := by
  rw [latest?, consistent.latest_eq]
  cases result : (log.entries.filter (·.cell == cell)).getLast? with
  | none => rfl
  | some record =>
      have member : record ∈ log.entries := (List.mem_filter.mp (List.mem_of_getLast? result)).1
      simpa [consistent.record?_eq] using consistent.find?_eq_some_iff.mpr ⟨member, rfl⟩

theorem mem_entries_of_latest?_eq_some (consistent : log.Consistent) {cell : CellId}
    {record : Record} (latest : log.latest? cell = some record) : record ∈ log.entries := by
  rw [consistent.latest?_eq] at latest
  exact (List.mem_filter.mp (List.mem_of_getLast? latest)).1

end Consistent

/-- Each query of a log is answered by a scan of a list of records. -/
structure Mirrors (log : Log) (analyzer : Analyzer) (records : List Record) : Prop where
  records_eq : log.records.toList = records
  size_eq : log.size = records.length
  isEmpty_eq : log.isEmpty = records.isEmpty
  position?_eq : ∀ event, log.position? event = records.findIdx? (·.event == event)
  record?_eq : ∀ event, log.record? event = records.find? (·.event == event)
  facts?_eq : ∀ event, log.facts? event =
    (records.find? (·.event == event)).map fun record =>
      (analyzer.analyze record.text).toOption.getD {}
  executionsOf_eq : ∀ cell, log.executionsOf cell = records.filter (·.cell == cell)
  latest?_eq : ∀ cell, log.latest? cell = records.reverse.find? (·.cell == cell)
  latest?_eq_getLast? : ∀ cell, log.latest? cell = (log.executionsOf cell).getLast?
  upTo?_eq : ∀ event, log.upTo? event =
    (records.findIdx? (·.event == event)).map fun position => records.take (position + 1)

/-- How a log with the given records answers the report of an execution. -/
structure Answers (log : Log) (analyzer : Analyzer) (records : List Record) (record : Record) :
    Prop where
  blank_iff : (log.append record).2 = .ignored .blankText ↔ Text.isBlankText record.text = true
  repeated_iff : (log.append record).2 = .ignored .repeatedEvent ↔
    Text.isBlankText record.text = false ∧ ∃ earlier ∈ records, earlier.event = record.event
  unchanged : ∀ reason, (log.append record).2 = .ignored reason → (log.append record).1 = log
  appended_iff : ∀ position understood, (log.append record).2 = .appended position understood ↔
    Text.isBlankText record.text = false ∧ (∀ earlier ∈ records, earlier.event ≠ record.event) ∧
      position = records.length ∧ understood = (analyzer.analyze record.text).toOption.isSome

theorem Consistent.mirrors {log : Log} (consistent : log.Consistent) :
    log.Mirrors log.analyzer log.entries where
  records_eq := rfl
  size_eq := (length_entries log).symm
  isEmpty_eq := by simp [isEmpty, entries]
  position?_eq := consistent.position?_eq
  record?_eq := consistent.record?_eq
  facts?_eq := consistent.facts?_eq
  executionsOf_eq _ := rfl
  latest?_eq cell := (consistent.latest?_eq cell).trans List.getLast?_filter
  latest?_eq_getLast? := consistent.latest?_eq
  upTo?_eq := consistent.upTo?_eq

theorem snd_factsOf (analyzer : Analyzer) (text : String) :
    (factsOf analyzer text).2 = (analyzer.analyze text).toOption.isSome := by
  simp only [factsOf]
  cases analyzer.analyze text <;> rfl

theorem Consistent.answers {log : Log} (consistent : log.Consistent) (record : Record) :
    log.Answers log.analyzer log.entries record := by
  rcases append_cases consistent record with
    ⟨blank, result⟩ | ⟨notBlank, known, result⟩ | ⟨notBlank, fresh, result⟩
  · constructor <;> simp [result, blank]
  · refine ⟨by simp [result, notBlank], ?_, by simp [result], ?_⟩
    · simp only [result, notBlank, true_and, true_iff]
      exact known
    · intro position understood
      simp only [result, reduceCtorEq, false_iff]
      rintro ⟨_, unseen, _⟩
      exact not_logged_iff.mpr unseen known
  · refine ⟨by simp [result, notBlank], ?_, by simp [result], ?_⟩
    · simp only [result, reduceCtorEq, false_iff]
      rintro ⟨_, known⟩
      exact fresh known
    · intro position understood
      simp only [result, Outcome.appended.injEq, snd_factsOf, notBlank, true_and]
      constructor
      · rintro ⟨rfl, rfl⟩
        exact ⟨not_logged_iff.mp fresh, rfl, rfl⟩
      · rintro ⟨_, rfl, rfl⟩
        exact ⟨rfl, rfl⟩

/-- A log is a list of records. After any operations its records are those that were appended since
the last reset; they are distinct executions of texts that are not blank, each query is answered by
a scan of them, reports are answered accordingly, and a reset makes the log behave as a new one. -/
theorem run_mirrors_journal (analyzer : Analyzer) (operations : List Operation) :
    let log := (empty analyzer).run operations
    let records := Journal.run operations
    (records.map (·.event)).Nodup ∧
      (∀ record ∈ records, Text.isBlankText record.text = false) ∧
      log.Mirrors analyzer records ∧
      (∀ record, log.Answers analyzer records record) ∧
      ∀ later, log.reset.run later = (empty analyzer).run later := by
  have consistent := consistent_run_empty analyzer operations
  have sameRecords := entries_run_empty analyzer operations
  have sameAnalyzer : ((empty analyzer).run operations).analyzer = analyzer := analyzer_run _ _
  refine ⟨?_, ?_, ?_, ?_, ?_⟩
  · rw [← sameRecords]
    exact consistent.distinct
  · rw [← sameRecords]
    exact consistent.notBlank
  · have mirrors := consistent.mirrors
    rwa [sameRecords, sameAnalyzer] at mirrors
  · intro record
    have answers := consistent.answers record
    rwa [sameRecords, sameAnalyzer] at answers
  · intro later
    rw [reset, sameAnalyzer]

end Log

end NotebookSlice

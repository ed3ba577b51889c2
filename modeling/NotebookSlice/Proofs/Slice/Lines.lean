import NotebookSlice.Facts.Cell
import NotebookSlice.Proofs.Slice.Excerpt

/-!
# Kept lines and kept statements

A slice selects statements, but what it shows of an execution are lines. This file compares the two.
The lines of a group are those that belong to at least one kept statement, in the order of the text.
So a kept statement is shown as a whole, and a statement that has a line to itself is shown as a
whole only if it is kept, in which case the definitions it depends on are kept as well.

Statements that share all of their lines with kept ones are shown along with them although nothing
is gathered for them: two statements with a semicolon between them are enough.
-/

namespace NotebookSlice

/-! ### Lines of statements -/

/-- The line is one of those that the statement takes up. -/
def Statement.Occupies (statement : Statement) (line : Nat) : Prop :=
  statement.startLine ≤ line ∧ line ≤ statement.endLine

instance (statement : Statement) (line : Nat) : Decidable (statement.Occupies line) :=
  inferInstanceAs (Decidable (_ ∧ _))

namespace Facts

variable {facts : Facts} {numbers : List Nat} {index line size : Nat}

/-- The line belongs to one of the statements with the given numbers. -/
def Covers (facts : Facts) (numbers : List Nat) (line : Nat) : Prop :=
  ∃ number ∈ numbers, ∃ statement ∈ facts.statements[number]?, statement.Occupies line

instance (facts : Facts) (numbers : List Nat) (line : Nat) :
    Decidable (facts.Covers numbers line) :=
  inferInstanceAs (Decidable (∃ number ∈ numbers, ∃ statement ∈ facts.statements[number]?, _))

/-- The lines of the statements with the given numbers in a text with `size` lines. -/
def linesOf (facts : Facts) (numbers : List Nat) (size : Nat) : List Nat :=
  (List.range size).filter fun line => decide (facts.Covers numbers line)

/-- The statement with the given number takes up a line that no other statement does. -/
def HasOwnLine (facts : Facts) (index size : Nat) : Prop :=
  ∃ line < size, facts.Covers [index] line ∧ ∀ other, facts.Covers [other] line → other = index

theorem mem_linesOf :
    line ∈ facts.linesOf numbers size ↔ line < size ∧ facts.Covers numbers line := by
  simp [linesOf]

theorem pairwise_linesOf : (facts.linesOf numbers size).Pairwise (· < ·) :=
  List.pairwise_lt_range.filter _

theorem covers_iff_exists_covers :
    facts.Covers numbers line ↔ ∃ number ∈ numbers, facts.Covers [number] line := by
  simp [Covers]

theorem linesOf_subset_of_mem (member : index ∈ numbers) :
    facts.linesOf [index] size ⊆ facts.linesOf numbers size := by
  intro line occupied
  rw [mem_linesOf] at *
  exact ⟨occupied.1, covers_iff_exists_covers.mpr ⟨index, member, occupied.2⟩⟩

/-- Of a statement with a line to itself, all lines are shown only if the statement is among those
shown. -/
theorem HasOwnLine.mem_of_linesOf_subset (own : facts.HasOwnLine index size)
    (shown : facts.linesOf [index] size ⊆ facts.linesOf numbers size) : index ∈ numbers := by
  rcases own with ⟨line, within, occupied, alone⟩
  have lineShown := (mem_linesOf.mp (shown (mem_linesOf.mpr ⟨within, occupied⟩))).2
  rcases covers_iff_exists_covers.mp lineShown with ⟨number, member, byNumber⟩
  rwa [← alone number byNumber]

theorem lt_length_of_covers (covered : facts.Covers [index] line) :
    index < facts.statements.length := by
  simp only [Covers, List.mem_singleton, exists_eq_left] at covered
  rcases covered with ⟨statement, found, _⟩
  exact (List.getElem?_eq_some_iff.mp found).1

theorem hasOwnLine_iff : facts.HasOwnLine index size ↔
    ∃ line < size, facts.Covers [index] line ∧
      ∀ other < facts.statements.length, facts.Covers [other] line → other = index := by
  constructor
  · rintro ⟨line, within, occupied, alone⟩
    exact ⟨line, within, occupied, fun other _ => alone other⟩
  · rintro ⟨line, within, occupied, alone⟩
    exact ⟨line, within, occupied,
      fun other covers => alone other (lt_length_of_covers covers) covers⟩

instance (facts : Facts) (index size : Nat) : Decidable (facts.HasOwnLine index size) :=
  decidable_of_iff _ hasOwnLine_iff.symm

end Facts

/-- Choosing items by their places is choosing places and looking up the items. -/
theorem map_fst_filter_zipIdx {α : Type} (items : List α) (chosen : Nat → Bool) :
    (items.zipIdx.filter fun (_, place) => chosen place).map (·.1) =
      ((List.range items.length).filter chosen).filterMap (items[·]?) := by
  induction items using List.reverseRecOn with
  | nil => rfl
  | append_singleton items last ih =>
      have unchanged : ((List.range items.length).filter chosen).filterMap ((items ++ [last])[·]?) =
          ((List.range items.length).filter chosen).filterMap (items[·]?) := by
        apply List.filterMap_congr
        intro place member
        exact List.getElem?_append_left (List.mem_range.mp (List.mem_of_mem_filter member))
      rw [List.zipIdx_append, List.filter_append, List.map_append, ih, List.length_append,
        List.length_singleton, List.range_succ, List.filter_append,
        List.filterMap_append, unchanged]
      cases isChosen : chosen items.length <;> simp [isChosen]

theorem map_some_filterMap_getElem? {α : Type} {items : List α} {places : List Nat}
    (within : ∀ place ∈ places, place < items.length) :
    (places.filterMap (items[·]?)).map some = places.map (items[·]?) := by
  induction places with
  | nil => rfl
  | cons place places ih =>
      rw [List.forall_mem_cons] at within
      simp [List.getElem?_eq_getElem within.1, ih within.2]

theorem Candidate.linesOf_eq (candidate : Candidate) (numbers : List Nat) :
    candidate.linesOf numbers =
      (candidate.facts.linesOf numbers candidate.record.lines.length).filterMap
        (candidate.record.lines[·]?) := by
  have sameTest : ∀ line, ((numbers.filterMap (candidate.facts.statements[·]?)).any fun statement =>
      statement.startLine ≤ line &&
        line ≤ statement.endLine) = decide (candidate.facts.Covers numbers line) := by
    intro line
    rw [Bool.eq_iff_iff, List.any_eq_true, decide_eq_true_eq]
    simp only [List.mem_filterMap, Bool.and_eq_true, decide_eq_true_eq]
    constructor
    · rintro ⟨statement, ⟨number, member, found⟩, occupies⟩
      exact ⟨number, member, statement, found, occupies⟩
    · rintro ⟨number, member, statement, found, occupies⟩
      exact ⟨statement, ⟨number, member, found⟩, occupies⟩
  rw [Facts.linesOf, ← map_fst_filter_zipIdx, linesOf]
  simp only [sameTest]

/-- The kept lines are those at the places of the kept statements, as they stand in the text. -/
theorem Candidate.map_some_linesOf (candidate : Candidate) (numbers : List Nat) :
    (candidate.linesOf numbers).map some =
      (candidate.facts.linesOf numbers candidate.record.lines.length).map
        (candidate.record.lines[·]?) := by
  rw [linesOf_eq]
  exact map_some_filterMap_getElem? fun line member => (Facts.mem_linesOf.mp member).1

/-! ### Python cells -/

theorem Facts.numbered_ofPlaced (placed : List Syntax.Placed) : (ofPlaced placed).Numbered := by
  rw [Numbered, ofPlaced, List.map_map, List.length_map, List.length_zipIdx, List.range_eq_range']
  exact List.zipIdx_map_snd 0 _

/-- The facts about Python cells number the statements by place, whatever the parser finds. -/
theorem Analyzer.numbers_ofParser (parse : Syntax.Parser) (interactive : Bool) :
    (ofParser parse interactive).Numbers := by
  intro text facts analyzed
  simp only [ofParser, Facts.ofText] at analyzed
  split at analyzed
  · rw [← Except.ok.inj analyzed]
    exact Facts.numbered_ofPlaced _
  · simp at analyzed

namespace Log

variable {log : Log} {target : EventId}

namespace Sliceable

/-- A group shows the lines of its statements, in the order of the text. -/
theorem exists_lines_eq (sliceable : log.Sliceable target) {group : Group}
    (member : group ∈ (log.slice target).groups) :
    ∃ record ∈ log.entries, record.event = group.event ∧
      group.lines = ((log.factsFor record).linesOf group.statements record.lines.length).filterMap
        (record.lines[·]?) := by
  rcases sliceable.exists_record member with ⟨record, recordMem, isKept, _⟩
  refine ⟨record, recordMem, ?_, ?_⟩
  · rw [isKept]
    rfl
  · conv_lhs => rw [isKept]
    exact Candidate.linesOf_eq _ _

theorem mem_of_nearest (sliceable : log.Sliceable target) {group : Group}
    (member : group ∈ (log.slice target).groups) {index : Nat} (kept : index ∈ group.statements)
    {name : String} (uses : log.Uses ⟨group.event, index⟩ name) {source : Occurrence}
    (nearest : log.NearestDefinition target name ⟨group.event, index⟩ source) :
    source ∈ (log.slice target).occurrences :=
  sliceable.closed.source_mem _ ((sliceable.mem_statements_iff member).mp kept) name uses
    source nearest

end Sliceable

/-- In a log of Python cells, a group of a slice shows exactly the lines of its statements. All
lines of a statement that has a line to itself are shown if and only if the statement is kept, and
then the nearest definitions of the names that it uses are kept as well. -/
theorem slice_shows_own_lines (parse : Syntax.Parser) (interactive : Bool)
    (operations : List Operation) (target : EventId) (facts : Facts)
    (known : ((empty (Analyzer.ofParser parse interactive)).run operations).facts? target =
      some facts)
    (nonempty : facts.isEmpty = false) :
    let log := (empty (Analyzer.ofParser parse interactive)).run operations
    ∀ group ∈ (log.slice target).groups, ∃ record ∈ log.entries, record.event = group.event ∧
      let facts := log.factsFor record
      let size := record.lines.length
      group.lines = (facts.linesOf group.statements size).filterMap (record.lines[·]?) ∧
        ∀ index, facts.HasOwnLine index size →
          (facts.linesOf [index] size ⊆ facts.linesOf group.statements size ↔
            index ∈ group.statements) ∧
            (index ∈ group.statements → ∀ name, log.Uses ⟨group.event, index⟩ name →
              ∀ source, log.NearestDefinition target name ⟨group.event, index⟩ source →
                source ∈ (log.slice target).occurrences) := by
  intro log group member
  have consistent : log.Consistent := consistent_run_empty _ operations
  have numbered : log.Numbered :=
    consistent.numbered (by rw [analyzer_run]; exact Analyzer.numbers_ofParser parse interactive)
  have sliceable : log.Sliceable target := ⟨consistent, numbered, facts, known, nonempty⟩
  rcases sliceable.exists_lines_eq member with ⟨record, recordMem, sameEvent, lines⟩
  refine ⟨record, recordMem, sameEvent, lines, ?_⟩
  intro index own
  refine ⟨⟨own.mem_of_linesOf_subset, Facts.linesOf_subset_of_mem⟩, ?_⟩
  intro kept name uses source nearest
  exact sliceable.mem_of_nearest member kept uses nearest

end Log

namespace Sample

open Syntax

/-- The statement `name = value` between two columns of the first line. -/
def assignment (name : String) (value : Node) (first last : Nat) : Placed where
  node := .mk .expressionStatement none ""
    [.mk .assignment none "" [.mk .identifier (some .left) name [], .mk .sign none "=" [], value]]
  start := ⟨first, 0, first⟩
  stop := ⟨last, 0, last⟩

/-- The statement `print(name)` on the first line. -/
def printing (name : String) : Placed where
  node := .mk .expressionStatement none ""
    [.mk .call none "" [.mk .identifier (some .function) "print" [],
      .mk .other none ""
        [.mk .sign none "(" [], .mk .identifier none name [], .mk .sign none ")" []]]]
  start := ⟨0, 0, 0⟩
  stop := ⟨8, 0, 8⟩

/-- The syntax trees of five cells. The second has two statements on one line, and the fourth has
two statements on a line each. -/
def sharedTrees : List (String × List Placed) :=
  [("z = 5", [assignment "z" (.mk .other (some .right) "5" []) 0 5]),
   ("x = 1; y = z",
     [assignment "x" (.mk .other (some .right) "1" []) 0 5,
      ⟨.mk .sign none ";" [], ⟨5, 0, 5⟩, ⟨6, 0, 6⟩⟩,
      assignment "y" (.mk .identifier (some .right) "z" []) 7 12]),
   ("print(x)", [printing "x"]),
   ("w = x\nv = z",
     [assignment "w" (.mk .identifier (some .right) "x" []) 0 5,
      ⟨(assignment "v" (.mk .identifier (some .right) "z" []) 0 5).node, ⟨6, 1, 0⟩, ⟨11, 1, 5⟩⟩]),
   ("print(w)", [printing "w"])]

/-- A parser that knows the five cells. -/
def sharedParse : Parser := fun text =>
  match sharedTrees.lookup text with
  | some placed => .ok placed
  | none => .error {}

/-- The five cells, executed in order. -/
def shared : List Operation :=
  [.append ⟨⟨"a"⟩, ⟨"e1"⟩, "z = 5", some 1, false⟩,
   .append ⟨⟨"b"⟩, ⟨"e2"⟩, "x = 1; y = z", some 2, false⟩,
   .append ⟨⟨"c"⟩, ⟨"e3"⟩, "print(x)", some 3, false⟩,
   .append ⟨⟨"d"⟩, ⟨"e4"⟩, "w = x\nv = z", some 4, false⟩,
   .append ⟨⟨"e"⟩, ⟨"e5"⟩, "print(w)", some 5, false⟩]

/-- The log of the session with a shared line. -/
def sharedLog : Log := (Log.empty (Analyzer.ofParser sharedParse true)).run shared

theorem consistent_sharedLog : sharedLog.Consistent := Log.consistent_run_empty _ _

theorem entries_sharedLog : sharedLog.entries = Journal.run shared := Log.entries_run_empty _ _

theorem facts?_sharedLog (event : EventId) :
    sharedLog.facts? event = ((Journal.run shared).find? (·.event == event)).map fun record =>
      ((Analyzer.ofParser sharedParse true).analyze record.text).toOption.getD {} := by
  rw [consistent_sharedLog.facts?_eq, entries_sharedLog, sharedLog, Log.analyzer_run]
  rfl

theorem groups_sharedLog :
    (sharedLog.slice ⟨"e3"⟩).groups =
      [⟨⟨"b"⟩, ⟨"e2"⟩, some 2, [0], ["x = 1; y = z"]⟩,
       ⟨⟨"c"⟩, ⟨"e3"⟩, some 3, [0], ["print(x)"]⟩] := by
  rw [sharedLog, Log.slice_run_empty_eq ((Journal.run shared).take 3) (by decide +kernel)
    (Timeline.ofHistory?_eq_of_pairwise rfl (by decide +kernel))]
  simp only [Timeline.groups, Timeline.numbersAt_eq_insertionSort]
  decide +kernel

theorem groups_sharedLog_last :
    (sharedLog.slice ⟨"e5"⟩).groups =
      [⟨⟨"b"⟩, ⟨"e2"⟩, some 2, [0], ["x = 1; y = z"]⟩, ⟨⟨"d"⟩, ⟨"e4"⟩, some 4, [0], ["w = x"]⟩,
       ⟨⟨"e"⟩, ⟨"e5"⟩, some 5, [0], ["print(w)"]⟩] := by
  rw [sharedLog, Log.slice_run_empty_eq (Journal.run shared) (by decide +kernel)
    (Timeline.ofHistory?_eq_of_pairwise rfl (by decide +kernel))]
  simp only [Timeline.groups, Timeline.numbersAt_eq_insertionSort]
  decide +kernel

/-- The facts about the last of the five cells. -/
def printingFacts : Facts := .ofPlaced [printing "w"]

theorem facts?_sharedLog_last : sharedLog.facts? ⟨"e5"⟩ = some printingFacts := by
  rw [facts?_sharedLog]
  decide +kernel

/-- The fourth cell, of which the first statement is kept and the second is not. -/
def twoLines : Record := ⟨⟨"d"⟩, ⟨"e4"⟩, "w = x\nv = z", some 4, false⟩

theorem hasOwnLine_twoLines :
    ∀ index < 2, (sharedLog.factsFor twoLines).HasOwnLine index twoLines.lines.length := by
  rw [Log.factsFor, facts?_sharedLog]
  decide +kernel

end Sample

namespace Log

theorem slice_shows_own_lines_sample :
    Sample.sharedLog.facts? ⟨"e5"⟩ = some Sample.printingFacts ∧
      Sample.printingFacts.isEmpty = false ∧
      (Sample.sharedLog.slice ⟨"e5"⟩).groups.map (·.lines) =
        [["x = 1; y = z"], ["w = x"], ["print(w)"]] ∧
      (Sample.twoLines ∈ Sample.sharedLog.entries ∧ ∀ index < 2,
        (Sample.sharedLog.factsFor Sample.twoLines).HasOwnLine index
          Sample.twoLines.lines.length) ∧
      ∀ group ∈ (Sample.sharedLog.slice ⟨"e5"⟩).groups, ∃ record ∈ Sample.sharedLog.entries,
        record.event = group.event ∧
          let facts := Sample.sharedLog.factsFor record
          let size := record.lines.length
          group.lines = (facts.linesOf group.statements size).filterMap (record.lines[·]?) ∧
            ∀ index, facts.HasOwnLine index size →
              (facts.linesOf [index] size ⊆ facts.linesOf group.statements size ↔
                index ∈ group.statements) ∧
                (index ∈ group.statements →
                  ∀ name, Sample.sharedLog.Uses ⟨group.event, index⟩ name →
                  ∀ source,
                    Sample.sharedLog.NearestDefinition ⟨"e5"⟩ name ⟨group.event, index⟩ source →
                    source ∈ (Sample.sharedLog.slice ⟨"e5"⟩).occurrences) :=
  ⟨Sample.facts?_sharedLog_last, by decide +kernel, by rw [Sample.groups_sharedLog_last]; rfl,
    ⟨by rw [Sample.entries_sharedLog]; decide +kernel, Sample.hasOwnLine_twoLines⟩,
    slice_shows_own_lines Sample.sharedParse true Sample.shared ⟨"e5"⟩ Sample.printingFacts
      Sample.facts?_sharedLog_last (by decide +kernel)⟩

/-- Without a line to itself a statement may be shown and not kept: the second statement of
`x = 1; y = z` is shown with the first one, but what it uses is not gathered. -/
theorem exists_shown_not_kept :
    ∃ group ∈ (Sample.sharedLog.slice ⟨"e3"⟩).groups, ∃ record ∈ Sample.sharedLog.entries,
      record.event = group.event ∧ Sample.sharedLog.Uses ⟨group.event, 1⟩ "z" ∧
        (Sample.sharedLog.factsFor record).linesOf [1] record.lines.length ⊆
          (Sample.sharedLog.factsFor record).linesOf group.statements record.lines.length ∧
        1 ∉ group.statements ∧ Sample.sharedLog.Defines ⟨⟨"e1"⟩, 0⟩ "z" ∧
        ∀ other ∈ (Sample.sharedLog.slice ⟨"e3"⟩).groups, other.event ≠ ⟨"e1"⟩ := by
  rw [Sample.groups_sharedLog, Sample.entries_sharedLog]
  simp only [Uses, Defines, statement?, factsFor, Sample.facts?_sharedLog]
  refine ⟨_, List.mem_cons_self, ⟨⟨"b"⟩, ⟨"e2"⟩, "x = 1; y = z", some 2, false⟩, ?_, ?_⟩
  · decide +kernel
  · decide +kernel

/-! ### Ranges of any kind -/

/-- The lines of a group are those of the record at the places that lie in the range of a kept
statement and in the text, each of them once and in the order of the text. Nothing is asked of the
ranges: they may overlap, go on behind the end of the text, and come in any order. -/
theorem slice_keeps_lines_verbatim (analyzer : Analyzer) (operations : List Operation)
    (numbered : ((empty analyzer).run operations).Numbered) (target : EventId) (facts : Facts)
    (known : ((empty analyzer).run operations).facts? target = some facts)
    (nonempty : facts.isEmpty = false) :
    let log := (empty analyzer).run operations
    ∀ group ∈ (log.slice target).groups, ∃ (record : Record) (facts : Facts) (places : List Nat),
      log.record? group.event = some record ∧ log.facts? group.event = some facts ∧
      places.Pairwise (· < ·) ∧
      (∀ place, place ∈ places ↔ place < record.lines.length ∧ ∃ number ∈ group.statements,
        ∃ statement, facts.statements[number]? = some statement ∧
          statement.startLine ≤ place ∧ place ≤ statement.endLine) ∧
      group.lines.map some = places.map (record.lines[·]?) := by
  intro log group member
  have consistent : log.Consistent := consistent_run_empty analyzer operations
  have sliceable : log.Sliceable target := ⟨consistent, numbered, facts, known, nonempty⟩
  rcases sliceable.exists_lines_eq member with ⟨record, recordMem, sameEvent, lines⟩
  refine ⟨record, log.factsFor record,
    (log.factsFor record).linesOf group.statements record.lines.length,
    ?_, ?_, Facts.pairwise_linesOf, ?_, ?_⟩
  · rw [consistent.record?_eq]
    exact consistent.find?_eq_some_iff.mpr ⟨recordMem, sameEvent⟩
  · rw [← sameEvent]
    exact consistent.facts?_eq_some_factsFor recordMem
  · intro place
    exact Facts.mem_linesOf
  · rw [lines]
    exact map_some_filterMap_getElem? fun place member => (Facts.mem_linesOf.mp member).1

end Log

namespace Sample

/-- Facts about two cells. The statements of the first one are not in the order of their lines, two
of them have a line in common, and one goes on behind the end of the text. -/
def overlapTable : List (String × Facts) :=
  [("%time\nx = y = 1\nw = 2\nz = 3",
     ⟨[⟨0, 3, 9, .ofList ["z"], ∅⟩, ⟨1, 0, 1, .ofList ["x"], ∅⟩, ⟨2, 1, 2, .ofList ["w"], ∅⟩,
       ⟨3, 1, 1, .ofList ["y"], ∅⟩]⟩),
   ("print(x, y, z)", ⟨[⟨0, 0, 0, ∅, .ofList ["print", "x", "y", "z"]⟩]⟩)]

/-- The two cells, executed in order. -/
def overlapping : List Operation :=
  [.append ⟨⟨"a"⟩, ⟨"e1"⟩, "%time\nx = y = 1\nw = 2\nz = 3", some 1, false⟩,
   .append ⟨⟨"b"⟩, ⟨"e2"⟩, "print(x, y, z)", some 2, false⟩]

/-- The log of the two cells. -/
def overlapLog : Log := (Log.empty (Analyzer.ofTable overlapTable)).run overlapping

theorem consistent_overlapLog : overlapLog.Consistent := Log.consistent_run_empty _ _

theorem numbered_overlapLog : overlapLog.Numbered :=
  consistent_overlapLog.numbered
    (by rw [overlapLog, Log.analyzer_run]; exact Analyzer.numbers_ofTable (by decide))

/-- The facts about the second cell. -/
def overlapFacts : Facts := ⟨[⟨0, 0, 0, ∅, .ofList ["print", "x", "y", "z"]⟩]⟩

theorem facts?_overlapLog : overlapLog.facts? ⟨"e2"⟩ = some overlapFacts := by
  rw [consistent_overlapLog.facts?_eq, overlapLog, Log.entries_run_empty, Log.analyzer_run]
  decide +kernel

theorem groups_overlapLog : (overlapLog.slice ⟨"e2"⟩).groups =
    [⟨⟨"a"⟩, ⟨"e1"⟩, some 1, [0, 1, 3], ["%time", "x = y = 1", "z = 3"]⟩,
     ⟨⟨"b"⟩, ⟨"e2"⟩, some 2, [0], ["print(x, y, z)"]⟩] := by
  rw [overlapLog, Log.slice_run_empty_eq (Journal.run overlapping) (by decide +kernel)
    (Timeline.ofHistory?_eq_of_pairwise rfl (by decide +kernel))]
  simp only [Timeline.groups, Timeline.numbersAt_eq_insertionSort]
  decide +kernel

end Sample

namespace Log

theorem slice_keeps_lines_verbatim_sample :
    Sample.overlapLog.Numbered ∧ Sample.overlapLog.facts? ⟨"e2"⟩ = some Sample.overlapFacts ∧
      Sample.overlapFacts.isEmpty = false ∧
      (Sample.overlapLog.slice ⟨"e2"⟩).groups.map (fun group => (group.statements, group.lines)) =
        [([0, 1, 3], ["%time", "x = y = 1", "z = 3"]), ([0], ["print(x, y, z)"])] ∧
      ∀ group ∈ (Sample.overlapLog.slice ⟨"e2"⟩).groups,
        ∃ (record : Record) (facts : Facts) (places : List Nat),
        Sample.overlapLog.record? group.event = some record ∧
        Sample.overlapLog.facts? group.event = some facts ∧
        places.Pairwise (· < ·) ∧
        (∀ place, place ∈ places ↔ place < record.lines.length ∧ ∃ number ∈ group.statements,
          ∃ statement, facts.statements[number]? = some statement ∧
            statement.startLine ≤ place ∧ place ≤ statement.endLine) ∧
        group.lines.map some = places.map (record.lines[·]?) :=
  ⟨Sample.numbered_overlapLog, Sample.facts?_overlapLog, rfl, by rw [Sample.groups_overlapLog]; rfl,
    slice_keeps_lines_verbatim (Analyzer.ofTable Sample.overlapTable) Sample.overlapping
      Sample.numbered_overlapLog
      ⟨"e2"⟩ Sample.overlapFacts Sample.facts?_overlapLog rfl⟩

end Log

end NotebookSlice

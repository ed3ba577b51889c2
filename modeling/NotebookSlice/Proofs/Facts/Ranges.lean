import NotebookSlice.Proofs.Facts.Mutation
import NotebookSlice.Proofs.Magic.Rows

/-!
# Lines that statements occupy

The parser gives the places where a statement starts and stops, and the facts have the rows of its
first and of its last character. The stop is behind the last character, so it may be at the start of
a row that the statement does not reach any more; a correction takes care of that. Whatever the
statement, its last character is a character of the text, and characters have rows below the number
of lines. Interactive lines are turned into comments before the parser sees the text, which does not
change the number of lines.

So statements that follow each other in the text do so in its lines, and all of their lines exist.
-/

namespace NotebookSlice

open Syntax Text

/-! ### Rows of places -/

namespace Text

namespace Cursor

variable {cursor : Cursor} {count : Nat}

theorem next_eq {char : Char} {rest : List Char} (ahead : cursor.rest = char :: rest) :
    cursor.next = ⟨cursor.position.after char, rest⟩ := by
  rw [next, ahead]

theorem row_skip (cursor : Cursor) (count : Nat) :
    (cursor.skip count).position.row =
      cursor.position.row + (cursor.rest.take count).count '\n' := by
  induction count generalizing cursor with
  | zero => simp [skip]
  | succ count ih =>
      rw [skip, ih]
      cases ahead : cursor.rest with
      | nil => simp [next, ahead]
      | cons char rest =>
          rw [next_eq ahead]
          by_cases newline : char = '\n'
          · simp [Position.after, newline]
            omega
          · simp [Position.after, newline]

theorem row_skip_le_row_skip (cursor : Cursor) {first second : Nat} (le : first ≤ second) :
    (cursor.skip first).position.row ≤ (cursor.skip second).position.row := by
  rw [row_skip, row_skip]
  exact Nat.add_le_add_left ((List.take_sublist_take_left le).count_le _) _

theorem skip_succ (cursor : Cursor) (count : Nat) :
    cursor.skip (count + 1) = (cursor.skip count).next := by
  induction count generalizing cursor with
  | zero => rfl
  | succ count ih => rw [skip, ih, skip]

theorem rest_skip (cursor : Cursor) (count : Nat) :
    (cursor.skip count).rest = cursor.rest.drop count := by
  induction count generalizing cursor with
  | zero => rfl
  | succ count ih =>
      rw [skip, ih]
      cases ahead : cursor.rest with
      | nil => simp [next, ahead]
      | cons char rest => rw [next_eq ahead, List.drop_succ_cons]

end Cursor

theorem linesFrom_ne_nil {line text : List Char} (nonempty : line ≠ [] ∨ text ≠ []) :
    linesFrom line text ≠ [] := by
  induction text generalizing line with
  | nil => simpa [linesFrom] using nonempty
  | cons char rest ih =>
      rw [linesFrom]
      split
      · simp
      · exact ih (Or.inl (by simp))

/-- There is a line for every row with a character. -/
theorem count_take_lt_length_linesFrom {text : List Char} {offset : Nat}
    (within : offset < text.length) (line : List Char) :
    (text.take offset).count '\n' < (linesFrom line text).length := by
  induction text generalizing offset line with
  | nil => simp at within
  | cons char rest ih =>
      cases offset with
      | zero => simpa using List.length_pos_iff.mpr (linesFrom_ne_nil (Or.inr (by simp)))
      | succ offset =>
          have later : offset < rest.length := by simpa using within
          by_cases newline : char = '\n'
          · simpa [linesFrom, newline] using ih later []
          · simpa [linesFrom, newline] using ih later (char :: line)

end Text

/-! ### Places of statements -/

/-- The node stands in the text: both of its ends are places there, and there are characters between
them. -/
structure Syntax.Placed.StandsIn (placed : Placed) (text : String) : Prop where
  start_eq : placed.start = ((Cursor.start text).skip placed.start.offset).position
  stop_eq : placed.stop = ((Cursor.start text).skip placed.stop.offset).position
  nonempty : placed.start.offset < placed.stop.offset
  within : placed.stop.offset ≤ text.toList.length

instance (placed : Placed) (text : String) : Decidable (placed.StandsIn text) :=
  decidable_of_iff (placed.start = ((Cursor.start text).skip placed.start.offset).position ∧
      placed.stop = ((Cursor.start text).skip placed.stop.offset).position ∧
      placed.start.offset < placed.stop.offset ∧ placed.stop.offset ≤ text.toList.length)
    ⟨fun ⟨start, stop, nonempty, within⟩ => ⟨start, stop, nonempty, within⟩,
      fun ⟨start, stop, nonempty, within⟩ => ⟨start, stop, nonempty, within⟩⟩

/-- The nodes that are more than signs stand in the text, one after the other. -/
structure Syntax.InOrder (text : String) (placed : List Placed) : Prop where
  standsIn : ∀ statement ∈ placed, statement.node.isNamed = true → statement.StandsIn text
  follows : (placed.filter (·.node.isNamed)).Pairwise fun first second =>
    first.stop.offset ≤ second.start.offset

namespace Syntax.Placed.StandsIn

variable {placed : Placed} {text : String}

/-- The last line is the row of the last character. -/
theorem lastLine_eq (standsIn : placed.StandsIn text) :
    placed.lastLine = ((Cursor.start text).skip (placed.stop.offset - 1)).position.row := by
  have nonempty := standsIn.nonempty
  have within := standsIn.within
  obtain ⟨last, stop⟩ : ∃ last, placed.stop.offset = last + 1 := ⟨placed.stop.offset - 1, by omega⟩
  have startRow : placed.start.row ≤ ((Cursor.start text).skip last).position.row := by
    rw [standsIn.start_eq]
    exact Cursor.row_skip_le_row_skip _ (by omega)
  obtain ⟨char, rest, ahead⟩ : ∃ char rest, ((Cursor.start text).skip last).rest =
      char :: rest := by
    rw [Cursor.rest_skip]
    exact List.exists_cons_of_ne_nil
      (by simpa [Cursor.start, ← String.length_toList] using by omega)
  have stopAt : placed.stop = (((Cursor.start text).skip last).position).after char := by
    rw [standsIn.stop_eq, stop, Cursor.skip_succ, Cursor.next_eq ahead]
  rw [stop, Nat.add_sub_cancel, lastLine]
  by_cases newline : char = '\n'
  · simp only [stopAt, Position.after, newline, if_true]
    rw [if_pos (by simpa using by omega)]
    rfl
  · simp [stopAt, Position.after, newline]

theorem row_start_le_lastLine (standsIn : placed.StandsIn text) :
    placed.start.row ≤ placed.lastLine := by
  have nonempty := standsIn.nonempty
  rw [standsIn.lastLine_eq, standsIn.start_eq]
  exact Cursor.row_skip_le_row_skip _ (by omega)

theorem lastLine_lt (standsIn : placed.StandsIn text) : placed.lastLine < (lines text).length := by
  have nonempty := standsIn.nonempty
  have within := standsIn.within
  have inside : placed.stop.offset - 1 < text.toList.length := by omega
  rw [standsIn.lastLine_eq, Cursor.row_skip, length_lines]
  simpa [Cursor.start] using count_take_lt_length_linesFrom inside []

theorem lastLine_le (standsIn : placed.StandsIn text) {other : Placed}
    (otherStandsIn : other.StandsIn text) (follows : placed.stop.offset ≤ other.start.offset) :
    placed.lastLine ≤ other.start.row := by
  rw [standsIn.lastLine_eq, otherStandsIn.start_eq]
  exact Cursor.row_skip_le_row_skip _ (by omega)

end Syntax.Placed.StandsIn

namespace Syntax.InOrder

variable {text : String} {placed : List Placed} {index other : Nat} {first second : Placed}

theorem standsIn_statement (inOrder : InOrder text placed)
    (found : (statementsOf placed)[index]? = some first) :
    first.StandsIn text := by
  have member : first ∈ placed ∧ (first.node.isNamed && first.node.kind != .comment) = true :=
    List.mem_filter.mp (List.mem_of_getElem? found)
  simp only [Bool.and_eq_true] at member
  exact inOrder.standsIn first member.1 member.2.1

theorem follows_statement (inOrder : InOrder text placed)
    (found : (statementsOf placed)[index]? = some first)
    (foundOther : (statementsOf placed)[other]? = some second) (earlier : index < other) :
    first.stop.offset ≤ second.start.offset := by
  have named : statementsOf placed =
      (placed.filter (·.node.isNamed)).filter (·.node.kind != .comment) := by
    simp [statementsOf, List.filter_filter, Bool.and_comm]
  have follows := inOrder.follows.filter (·.node.kind != .comment)
  rw [← named] at follows
  rcases List.getElem?_eq_some_iff.mp found with ⟨within, rfl⟩
  rcases List.getElem?_eq_some_iff.mp foundOther with ⟨withinOther, rfl⟩
  exact List.pairwise_iff_getElem.mp follows index other within withinOther earlier

/-- A statement starts on its last line at the latest, and the last line exists. -/
theorem ranges (inOrder : InOrder text placed) {statement : Statement}
    (found : (Facts.ofPlaced placed).statements[index]? = some statement) :
    statement.startLine ≤ statement.endLine ∧ statement.endLine < (lines text).length := by
  rw [Facts.getElem?_ofPlaced] at found
  rcases Option.map_eq_some_iff.mp found with ⟨node, foundNode, rfl⟩
  have standsIn := inOrder.standsIn_statement foundNode
  exact ⟨standsIn.row_start_le_lastLine, standsIn.lastLine_lt⟩

theorem endLine_le_startLine (inOrder : InOrder text placed) {first second : Statement}
    (found : (Facts.ofPlaced placed).statements[index]? = some first)
    (foundOther : (Facts.ofPlaced placed).statements[other]? = some second)
    (earlier : index < other) :
    first.endLine ≤ second.startLine := by
  rw [Facts.getElem?_ofPlaced] at found foundOther
  rcases Option.map_eq_some_iff.mp found with ⟨node, foundNode, rfl⟩
  rcases Option.map_eq_some_iff.mp foundOther with ⟨node', foundNode', rfl⟩
  exact (inOrder.standsIn_statement foundNode).lastLine_le (inOrder.standsIn_statement foundNode')
    (inOrder.follows_statement foundNode foundNode' earlier)

end Syntax.InOrder

namespace Analyzer

/-- The text that is parsed: interactive lines are comments there if the analyzer knows of them. -/
def parsedText (interactive : Bool) (text : String) : String :=
  if interactive then Magic.commentOut text else text

theorem length_lines_parsedText (interactive : Bool) (text : String) :
    (lines (parsedText interactive text)).length = (lines text).length := by
  cases interactive with
  | true => exact Magic.length_lines_commentOut text
  | false => rfl

theorem exists_placed {parse : Parser} {interactive : Bool} {text : String} {facts : Facts}
    (analyzed : (ofParser parse interactive).analyze text = .ok facts) :
    ∃ placed, parse (parsedText interactive text) = .ok placed ∧ facts = .ofPlaced placed := by
  change Facts.ofText parse (parsedText interactive text) = .ok facts at analyzed
  rw [Facts.ofText] at analyzed
  split at analyzed
  · next placed parsed => exact ⟨placed, parsed, (Except.ok.inj analyzed).symm⟩
  · simp at analyzed

end Analyzer

/-- The statements of a Python cell take up lines of the cell in the order of the text, and a
statement starts on the last line of the one before it at the earliest. So no two of them have more
than one line in common, and to keep some of them is to keep all of their lines. -/
theorem statements_have_lines_in_order (parse : Parser) (interactive : Bool) (text : String)
    (facts : Facts) (inOrder : ∀ placed, parse (Analyzer.parsedText interactive text) = .ok placed →
      InOrder (Analyzer.parsedText interactive text) placed)
    (analyzed : (Analyzer.ofParser parse interactive).analyze text = .ok facts) :
    (∀ (index : Nat) (statement : Statement), facts.statements[index]? = some statement →
      statement.index = index ∧ statement.startLine ≤ statement.endLine ∧
        statement.endLine < (lines text).length) ∧
    (∀ (index : Nat) (first second : Statement), facts.statements[index]? = some first →
      facts.statements[index + 1]? = some second → first.endLine ≤ second.startLine) ∧
    (∀ (index other : Nat) (first second : Statement), facts.statements[index]? = some first →
      facts.statements[other]? = some second → index ≠ other →
        ∀ line line', first.Occupies line ∧ second.Occupies line →
          first.Occupies line' ∧ second.Occupies line' →
          line = line') ∧
    ∀ candidate : Candidate, candidate.record.text = text → candidate.facts = facts → ∀ numbers,
      ∃ places : List Nat, places.Pairwise (· < ·) ∧
        (∀ place, place ∈ places ↔ facts.Covers numbers place) ∧
        (candidate.linesOf numbers).map some = places.map (candidate.record.lines[·]?) := by
  rcases Analyzer.exists_placed analyzed with ⟨placed, parsed, rfl⟩
  have inOrder := inOrder placed parsed
  have exist : ∀ (index : Nat) (statement : Statement),
      (Facts.ofPlaced placed).statements[index]? = some statement →
        statement.endLine < (lines text).length := by
    intro index statement found
    rw [← Analyzer.length_lines_parsedText interactive]
    exact (inOrder.ranges found).2
  refine ⟨?_, ?_, ?_, ?_⟩
  · intro index statement found
    exact ⟨(Facts.numbered_ofPlaced placed).index_eq found, (inOrder.ranges found).1,
      exist index statement found⟩
  · intro index first second found foundNext
    exact inOrder.endLine_le_startLine found foundNext (Nat.lt_succ_self index)
  · rintro index other first second found foundOther different line line' ⟨inFirst, inSecond⟩
      ⟨inFirst', inSecond'⟩
    -- The only line they can share is the last of the one and the first of the other.
    simp only [Statement.Occupies] at inFirst inSecond inFirst' inSecond'
    rcases Nat.lt_or_gt_of_ne different with earlier | later
    · have follows := inOrder.endLine_le_startLine found foundOther earlier
      omega
    · have follows := inOrder.endLine_le_startLine foundOther found later
      omega
  · rintro candidate rfl same numbers
    refine ⟨_, Facts.pairwise_linesOf, ?_, candidate.map_some_linesOf numbers⟩
    intro place
    rw [Facts.mem_linesOf, same]
    constructor
    · exact fun shown => shown.2
    · intro covers
      rcases covers with ⟨number, member, statement, found, occupies⟩
      exact ⟨Nat.lt_of_le_of_lt occupies.2 (exist number statement found), number, member,
        statement, found, occupies⟩

namespace Sample

/-- The cell `%time`, `if flag:`, `    x = 1`, `print(x)`. -/
def timedText : String := "%time\nif flag:\n    x = 1\nprint(x)"

/-- The cell with its first line as a comment. -/
def timedSource : String := "#%time\nif flag:\n    x = 1\nprint(x)"

/-- The nodes of this cell. The second one stops at the start of the last line. -/
def timedNodes : List Placed :=
  [⟨.mk .comment none "#%time" [], ⟨0, 0, 0⟩, ⟨6, 0, 6⟩⟩,
   ⟨.mk .statement none ""
      [.mk .sign none "if" [], .mk .identifier none "flag" [], .mk .sign none ":" [],
       .mk .block none "" [(assignment "x" (.mk .other (some .right) "1" []) 4 9).node]],
    ⟨7, 1, 0⟩, ⟨26, 3, 0⟩⟩,
   ⟨(printing "x").node, ⟨26, 3, 0⟩, ⟨34, 3, 8⟩⟩]

/-- A parser that knows the cell. -/
def timedParse : Parser := fun text => if text = timedSource then .ok timedNodes else .error {}

theorem parsedText_timedText : Analyzer.parsedText true timedText = timedSource := by decide +kernel

theorem inOrder_timedNodes : InOrder timedSource timedNodes := by
  constructor
  · decide +kernel
  · decide

theorem analyze_timedText :
    (Analyzer.ofParser timedParse true).analyze timedText = .ok (.ofPlaced timedNodes) := by
  change Facts.ofText timedParse (Analyzer.parsedText true timedText) = _
  simp [parsedText_timedText, Facts.ofText, timedParse]

/-- An execution of the cell, the first of a session. -/
def timedCandidate : Candidate :=
  ⟨⟨1, 0⟩, ⟨⟨"a"⟩, ⟨"e1"⟩, timedText, some 1, false⟩, .ofPlaced timedNodes⟩

end Sample

theorem statements_have_lines_in_order_sample :
    (∀ placed, Sample.timedParse (Analyzer.parsedText true Sample.timedText) = .ok placed →
      InOrder (Analyzer.parsedText true Sample.timedText) placed) ∧
    (Analyzer.ofParser Sample.timedParse true).analyze Sample.timedText =
      .ok (.ofPlaced Sample.timedNodes) ∧
    (Facts.ofPlaced Sample.timedNodes).statements.map
      (fun statement => (statement.startLine, statement.endLine)) =
      [(1, 2), (3, 3)] ∧
    (∀ (index : Nat) (statement : Statement),
      (Facts.ofPlaced Sample.timedNodes).statements[index]? = some statement →
      statement.index = index ∧ statement.startLine ≤ statement.endLine ∧
        statement.endLine < (lines Sample.timedText).length) ∧
    ∃ places : List Nat, places.Pairwise (· < ·) ∧
      (∀ place, place ∈ places ↔ (Facts.ofPlaced Sample.timedNodes).Covers [0] place) ∧
      (Sample.timedCandidate.linesOf [0]).map some =
        places.map (Sample.timedCandidate.record.lines[·]?) := by
  have inOrder : ∀ placed,
      Sample.timedParse (Analyzer.parsedText true Sample.timedText) = .ok placed →
      InOrder (Analyzer.parsedText true Sample.timedText) placed := by
    intro placed parsed
    rw [Sample.parsedText_timedText] at *
    have same : Sample.timedNodes = placed := by simpa [Sample.timedParse] using parsed
    exact same ▸ Sample.inOrder_timedNodes
  rcases statements_have_lines_in_order Sample.timedParse true Sample.timedText _ inOrder
    Sample.analyze_timedText with
    ⟨ranges, _, _, shown⟩
  exact ⟨inOrder, Sample.analyze_timedText, by decide +kernel, ranges,
    shown Sample.timedCandidate rfl rfl [0]⟩

end NotebookSlice

import Mathlib.Data.List.Basic
import NotebookSlice.Magic

/-!
# Rows and interactive lines

A text is read row by row: it is a row without line feeds, or such a row, a line feed and another
text. Both the splitting into lines and the rewriting of interactive lines go along with this. The
rewriting leaves a row as it is or puts a `#` into one that is not empty, so it keeps the number of
lines.
-/

namespace NotebookSlice

namespace Text

/-- A text is a single row, or a row before a shorter text. -/
theorem rowInduction {motive : List Char → Prop} (last : ∀ row, '\n' ∉ row → motive row)
    (cons : ∀ row rest, '\n' ∉ row → motive rest → motive (row ++ '\n' :: rest))
    (text : List Char) : motive text := by
  by_cases broken : '\n' ∈ text
  · rcases List.eq_append_cons_of_mem broken with ⟨row, rest, split, unbroken⟩
    have smaller : rest.length < text.length := by
      simp only [split, List.length_append, List.length_cons]
      omega
    rw [split]
    exact cons row rest unbroken (rowInduction last cons rest)
  · exact last text broken
termination_by text.length

variable {row : List Char}

theorem rows_of_not_mem (unbroken : '\n' ∉ row) : rows row = [row] :=
  List.splitOn_eq_singleton unbroken

theorem rows_append (unbroken : '\n' ∉ row) (rest : List Char) :
    rows (row ++ '\n' :: rest) = row :: rows rest :=
  List.splitOn_append_cons_self_of_not_mem unbroken rest

theorem not_mem_of_mem_rows {text : List Char} (member : row ∈ rows text) : '\n' ∉ row := by
  induction text using rowInduction with
  | last row' unbroken =>
      rw [rows_of_not_mem unbroken, List.mem_singleton] at member
      exact member ▸ unbroken
  | cons row' rest unbroken ih =>
      rw [rows_append unbroken, List.mem_cons] at member
      rcases member with rfl | later
      · exact unbroken
      · exact ih later

theorem joinRows_cons (row : List Char) {others : List (List Char)} (nonempty : others ≠ []) :
    joinRows (row :: others) = row ++ '\n' :: joinRows others := by
  cases others with
  | nil => exact absurd rfl nonempty
  | cons => simp [joinRows, List.intercalate]

/-! ### Lines -/

theorem linesFrom_append (unbroken : '\n' ∉ row) (line rest : List Char) :
    linesFrom line (row ++ rest) = linesFrom (row.reverse ++ line) rest := by
  induction row generalizing line with
  | nil => rfl
  | cons char row ih =>
      simp only [List.mem_cons, not_or] at unbroken
      simp [linesFrom, Ne.symm unbroken.1, ih unbroken.2]

theorem length_linesFrom_of_not_mem (unbroken : '\n' ∉ row) :
    (linesFrom [] row).length = if row = [] then 0 else 1 := by
  have read := linesFrom_append unbroken [] []
  simp only [List.append_nil] at read
  rw [read, linesFrom]
  by_cases empty : row = []
  · simp [empty]
  · simp [empty]

theorem length_linesFrom_append (unbroken : '\n' ∉ row) (rest : List Char) :
    (linesFrom [] (row ++ '\n' :: rest)).length = (linesFrom [] rest).length + 1 := by
  simp [linesFrom_append unbroken, linesFrom]

theorem length_lines (text : String) : (lines text).length = (linesFrom [] text.toList).length := by
  simp [lines]

end Text

namespace Magic

open Text

variable {row : List Char}

/-- The row as it is put out. -/
def Scanner.output (scanner : Scanner) (row : List Char) : List Char :=
  if scanner.atStatementStart && isInteractive row then commented row else row

/-- The scanner for the rows after a row. -/
def Scanner.pass (scanner : Scanner) (row : List Char) : Scanner :=
  if scanner.atStatementStart && isInteractive row then scanner else (scanner.scan row).1

theorem commentOutRows_cons (scanner : Scanner) (row : List Char) (rest : List (List Char)) :
    commentOutRows scanner (row :: rest) =
      scanner.output row :: commentOutRows (scanner.pass row) rest := by
  rw [commentOutRows, Scanner.output, Scanner.pass]
  split <;> rfl

/-- A row after the rewriting: the row itself, or, if it is interactive, the row as a comment. -/
inductive Rewritten (row : List Char) : List Char → Prop
  | kept : Rewritten row row
  | commented (interactive : isInteractive row = true) : Rewritten row (commented row)

theorem Scanner.rewritten_output (scanner : Scanner) (row : List Char) :
    Rewritten row (scanner.output row) := by
  rw [output]
  split
  · next changes => exact .commented (Bool.and_eq_true _ _ ▸ changes).2
  · exact .kept

namespace Rewritten

variable {row' : List Char}

theorem unbroken (rewritten : Rewritten row row') (unbroken : '\n' ∉ row) : '\n' ∉ row' := by
  cases rewritten with
  | kept => exact unbroken
  | commented =>
      rw [← List.takeWhile_append_dropWhile (p := isBlank) (l := row), List.mem_append,
        not_or] at unbroken
      simpa [Magic.commented, trimStart] using unbroken

theorem eq_nil_iff (rewritten : Rewritten row row') : row' = [] ↔ row = [] := by
  cases rewritten with
  | kept => rfl
  | commented interactive =>
      have nonempty : row ≠ [] := by
        rintro rfl
        revert interactive
        decide
      simp [Magic.commented, nonempty]

end Rewritten

theorem length_commentOutRows (scanner : Scanner) (rows : List (List Char)) :
    (commentOutRows scanner rows).length = rows.length := by
  induction rows generalizing scanner with
  | nil => rfl
  | cons row rest ih => rw [commentOutRows_cons, List.length_cons, List.length_cons, ih]

theorem commentOutRows_ne_nil (scanner : Scanner) (text : List Char) :
    commentOutRows scanner (rows text) ≠ [] := by
  apply List.ne_nil_of_length_pos
  rw [length_commentOutRows]
  exact List.length_pos_iff.mpr (List.splitOn_ne_nil _ _)

theorem length_linesFrom_commentOutRows (scanner : Scanner) (text : List Char) :
    (linesFrom [] (joinRows (commentOutRows scanner (rows text)))).length =
      (linesFrom [] text).length := by
  induction text using rowInduction generalizing scanner with
  | last row unbroken =>
      have rewritten := scanner.rewritten_output row
      have single : joinRows (commentOutRows scanner (rows row)) = scanner.output row := by
        rw [rows_of_not_mem unbroken, commentOutRows_cons]
        simp [commentOutRows, joinRows]
      rw [single, length_linesFrom_of_not_mem unbroken,
        length_linesFrom_of_not_mem (rewritten.unbroken unbroken)]
      simp only [rewritten.eq_nil_iff]
  | cons row rest unbroken ih =>
      have rewritten := scanner.rewritten_output row
      rw [rows_append unbroken, commentOutRows_cons, joinRows_cons _ (commentOutRows_ne_nil _ _),
        length_linesFrom_append (rewritten.unbroken unbroken), length_linesFrom_append unbroken, ih]

theorem length_lines_commentOut (text : String) :
    (lines (commentOut text)).length = (lines text).length := by
  rw [length_lines, length_lines, commentOut, String.toList_ofList, length_linesFrom_commentOutRows]

/-! ### The rows of a rewritten text -/

theorem not_mem_of_mem_commentOutRows {scanner : Scanner} {rows : List (List Char)}
    {row' : List Char} (unbroken : ∀ row ∈ rows, '\n' ∉ row)
    (member : row' ∈ commentOutRows scanner rows) : '\n' ∉ row' := by
  induction rows generalizing scanner with
  | nil => exact absurd member List.not_mem_nil
  | cons row rest ih =>
      rw [commentOutRows_cons, List.mem_cons] at member
      rcases member with rfl | later
      · exact (scanner.rewritten_output row).unbroken (unbroken row List.mem_cons_self)
      · exact ih (fun other among => unbroken other (List.mem_cons_of_mem _ among)) later

theorem rows_commentOut (text : String) :
    rows (commentOut text).toList = commentOutRows {} (rows text.toList) := by
  rw [commentOut, String.toList_ofList, rows, joinRows]
  apply List.splitOn_intercalate
  · intro row member
    exact not_mem_of_mem_commentOutRows (fun _ => not_mem_of_mem_rows) member
  · exact commentOutRows_ne_nil _ _

theorem take_commentOutRows (scanner : Scanner) (rows : List (List Char)) (index : Nat) :
    (commentOutRows scanner rows).take index = commentOutRows scanner (rows.take index) := by
  induction rows generalizing scanner index with
  | nil => simp [commentOutRows]
  | cons row rest ih =>
      cases index with
      | zero => rfl
      | succ index => simp only [commentOutRows_cons, List.take_succ_cons, ih]

theorem getElem?_commentOutRows (scanner : Scanner) (rows : List (List Char)) (index : Nat) :
    (commentOutRows scanner rows)[index]? =
      rows[index]?.map ((rows.take index).foldl Scanner.pass scanner).output := by
  induction rows generalizing scanner index with
  | nil => rfl
  | cons row rest ih =>
      rw [commentOutRows_cons]
      cases index with
      | zero => rfl
      | succ index => simp only [List.getElem?_cons_succ, List.take_succ_cons, List.foldl_cons, ih]

theorem commented_ne (row : List Char) : commented row ≠ row := by
  intro same
  have lengths := congrArg List.length same
  have parts := congrArg List.length (List.takeWhile_append_dropWhile (p := isBlank) (l := row))
  simp only [commented, trimStart, List.length_append, List.length_cons] at lengths parts
  omega

end Magic

end NotebookSlice

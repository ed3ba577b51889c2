import NotebookSlice.Proofs.Magic.Interactive

/-!
# The rewriting is stable

The rewriting keeps the lines of a text and puts a single `#` into some of them. A second rewriting
reads these lines as comments, which are not interactive. The first one had passed them by without
reading them, but a comment leaves the scanner where it was. So both are in the same state before
each line, and the second one changes nothing.
-/

namespace NotebookSlice.Magic

open Text

theorem isInteractive_commented (row : List Char) : isInteractive (commented row) = false := by
  rw [← Bool.not_eq_true, isInteractive_iff, IsCommand, trimStart_commented, along_commented]
  simp

theorem Place.ofTriple_injective : Function.Injective Place.ofTriple := by
  rintro (_ | mark) (_ | mark') same
  · rfl
  · nomatch same
  · nomatch same
  · rw [(Place.long.inj same).1]

namespace Scanner

/-- The reading keeps all that the scanner knows. -/
theorem reader_injective : Function.Injective reader := by
  rintro ⟨depth, triple, continued⟩ ⟨depth', triple', continued'⟩ same
  obtain ⟨place_eq, depth_eq, -, continued_eq⟩ := Reader.mk.inj same
  rw [Scanner.mk.injEq]
  exact ⟨depth_eq, Place.ofTriple_injective place_eq, continued_eq⟩

theorem output_output (scanner : Scanner) (row : List Char) :
    scanner.output (scanner.output row) = scanner.output row := by
  by_cases changes : (scanner.atStatementStart && isInteractive row) = true
  · rw [output, output, if_pos changes, isInteractive_commented, Bool.and_false]
    rfl
  · rw [output, output, if_neg changes, if_neg changes]

/-- The rewritten row takes the scanner where the row takes it. -/
theorem pass_output (scanner : Scanner) (row : List Char) :
    scanner.pass (scanner.output row) = scanner.pass row := by
  apply reader_injective
  rw [reader_pass, reader_pass, output_output]

end Scanner

theorem commentOutRows_commentOutRows (scanner : Scanner) (rows : List (List Char)) :
    commentOutRows scanner (commentOutRows scanner rows) = commentOutRows scanner rows := by
  induction rows generalizing scanner with
  | nil => rfl
  | cons row rest ih =>
      simp only [commentOutRows_cons, scanner.output_output, scanner.pass_output, ih]

/-- The rewriting keeps the number of lines. It puts a `#` right after the blank characters at the
start of the lines that are interactive and at which a statement can start, and keeps all others; a
second rewriting changes nothing.
-/
theorem commentOut_inserts_hashes_once (text : String) :
    (rows (commentOut text).toList).length = (rows text.toList).length ∧
      (∀ index, (rows (commentOut text).toList)[index]? = (rows text.toList)[index]?.map fun line =>
        if (Reader.before false (rows (commentOut text).toList) index).Starts ∧
          (IsCommand line ∨ (({} : Reader).along line).last.map Prod.fst = some '?')
        then line.takeWhile isBlank ++ '#' :: line.dropWhile isBlank else line) ∧
      commentOut (commentOut text) = commentOut text := by
  refine ⟨?_, ?_, ?_⟩
  · rw [rows_commentOut, length_commentOutRows]
  · rw [rows_commentOut]
    exact getElem?_commentOutRows_eq (rows text.toList)
  · rw [commentOut, rows_commentOut, commentOutRows_commentOutRows, ← commentOut]

end NotebookSlice.Magic

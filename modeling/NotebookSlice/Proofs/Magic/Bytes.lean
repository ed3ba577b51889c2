import Mathlib.Data.List.Basic
import NotebookSlice.Magic

/-!
# Bytes and characters of a line

The scanner walks over the bytes of a line and passes over single bytes, so it can come to stand
inside a character. All bytes of a character that has several are at least 128 and none of the bytes
that the scanner looks for is, so it goes on to the next character and changes nothing: the walk
over bytes is the walk over characters.
-/

namespace NotebookSlice.Magic

open Text

namespace Mark

theorem byte_eq (mark : Mark) : mark.byte = UInt8.ofNat mark.char.toNat := by
  cases mark <;> rfl

theorem toNat_char_lt (mark : Mark) : mark.char.toNat < 128 := by
  cases mark <;> decide

theorem toNat_byte_lt (mark : Mark) : mark.byte.toNat < 128 := by
  cases mark <;> decide

theorem ofChar?_eq_some_iff {char : Char} {mark : Mark} :
    ofChar? char = some mark ↔ char = mark.char := by
  cases mark <;> simp only [ofChar?, Mark.char] <;> grind

theorem char_ne_backslash (mark : Mark) : mark.char ≠ '\\' := by
  cases mark <;> decide

end Mark

/-- So many marks come next. -/
def Marks (count : Nat) (mark : Mark) (rest : List Char) : Prop :=
  rest.take count = List.replicate count mark.char

section Marks

variable {count : Nat} {mark : Mark} {char : Char} {rest : List Char}

@[simp] theorem marks_zero : Marks 0 mark rest := by simp [Marks]

@[simp] theorem not_marks_nil : ¬ Marks (count + 1) mark [] := by simp [Marks, List.replicate_succ]

@[simp] theorem marks_cons :
    Marks (count + 1) mark (char :: rest) ↔ char = mark.char ∧ Marks count mark rest := by
  simp [Marks, List.replicate_succ]

theorem Marks.of_succ (marks : Marks (count + 1) mark rest) : Marks count mark rest := by
  induction count generalizing rest with
  | zero => exact marks_zero
  | succ count ih =>
      cases rest with
      | nil => exact absurd marks not_marks_nil
      | cons char rest =>
          rw [marks_cons] at marks ⊢
          exact ⟨marks.1, ih marks.2⟩

end Marks

namespace Scanner

/-! ### The bytes of a character -/

/-- A character is a byte of its own, or all its bytes are at least 128. -/
theorem encoding_cases (char : Char) :
    (char.toNat < 128 ∧ String.utf8EncodeChar char = [UInt8.ofNat char.toNat]) ∨
      (128 ≤ char.toNat ∧ ∀ byte ∈ String.utf8EncodeChar char, 128 ≤ byte.toNat) := by
  by_cases narrow : char.toNat < 128
  · have fits : char.val.toNat ≤ 127 := Nat.le_of_lt_succ narrow
    exact .inl ⟨narrow, by rw [String.utf8EncodeChar, if_pos fits, Char.toNat_val]⟩
  · have wide : ¬ char.val.toNat ≤ 127 := fun fits => narrow (Nat.lt_succ_of_le fits)
    refine .inr ⟨Nat.le_of_not_lt narrow, ?_⟩
    intro byte member
    simp only [String.utf8EncodeChar, wide, if_false] at member
    split at member
    · simp only [List.mem_cons, List.not_mem_nil, or_false] at member
      rcases member with rfl | rfl <;> simp only [UInt8.toNat_ofNat'] <;> omega
    · split at member
      · simp only [List.mem_cons, List.not_mem_nil, or_false] at member
        rcases member with rfl | rfl | rfl <;> simp only [UInt8.toNat_ofNat'] <;> omega
      · simp only [List.mem_cons, List.not_mem_nil, or_false] at member
        rcases member with rfl | rfl | rfl | rfl <;> simp only [UInt8.toNat_ofNat'] <;> omega

theorem exists_encoding (char : Char) :
    ∃ byte others, String.utf8EncodeChar char = byte :: others := by
  apply List.exists_cons_of_length_pos
  rw [String.length_utf8EncodeChar]
  exact char.utf8Size_pos

theorem ofNat_toNat_eq_iff {char : Char} (narrow : char.toNat < 128) (other : Char)
    (narrowOther : other.toNat < 128) :
    UInt8.ofNat char.toNat = UInt8.ofNat other.toNat ↔ char = other := by
  constructor
  · intro equal
    have values := congrArg UInt8.toNat equal
    simp only [UInt8.toNat_ofNat'] at values
    rw [Nat.mod_eq_of_lt (by omega), Nat.mod_eq_of_lt (by omega)] at values
    exact Char.toNat_inj.mp values
  · rintro rfl
    rfl

theorem ne_of_wide {char other : Char} (wide : 128 ≤ char.toNat) (narrow : other.toNat < 128) :
    char ≠ other := by
  rintro rfl
  omega

theorem byte_ne_of_wide {byte other : UInt8} (wide : 128 ≤ byte.toNat)
    (narrow : other.toNat < 128) :
    byte ≠ other := by
  rintro rfl
  omega

theorem bytes_cons (char : Char) (rest : List Char) :
    bytes (char :: rest) = String.utf8EncodeChar char ++ bytes rest := rfl

theorem length_bytes_cons (char : Char) (rest : List Char) :
    (bytes (char :: rest)).length = char.utf8Size + (bytes rest).length := by
  rw [bytes_cons, List.length_append, String.length_utf8EncodeChar]

theorem length_bytes_append (text rest : List Char) :
    (bytes (text ++ rest)).length = (bytes text).length + (bytes rest).length := by
  simp [bytes]

theorem length_bytes_concat (text : List Char) (char : Char) :
    (bytes (text ++ [char])).length = (bytes text).length + char.utf8Size := by
  rw [length_bytes_append, length_bytes_cons]
  rfl

theorem takeBytes_append (text rest : List Char) :
    takeBytes (bytes text).length (text ++ rest) = text := by
  induction text with
  | nil =>
      cases rest with
      | nil => rfl
      | cons char rest =>
          have positive := char.utf8Size_pos
          rw [List.nil_append, takeBytes, if_neg]
          simp only [bytes, List.flatMap_nil, List.length_nil]
          omega
  | cons char text ih =>
      rw [length_bytes_cons, List.cons_append, takeBytes, if_pos (Nat.le_add_right _ _),
        Nat.add_sub_cancel_left, ih]

theorem dropBytes_append (text rest : List Char) :
    dropBytes (bytes text).length (text ++ rest) = rest := by
  induction text with
  | nil => cases rest <;> rfl
  | cons char text ih =>
      have positive := char.utf8Size_pos
      rw [length_bytes_cons, List.cons_append, dropBytes, Nat.add_sub_cancel_left, ih]
      omega

/-! ### What the scanner looks for -/

theorem ofByte?_ofNat {char : Char} (narrow : char.toNat < 128) :
    Mark.ofByte? (UInt8.ofNat char.toNat) = Mark.ofChar? char := by
  have single := ofNat_toNat_eq_iff narrow '\x27' (by decide)
  have double := ofNat_toNat_eq_iff narrow '\x22' (by decide)
  simp only [Mark.ofByte?, Mark.ofChar?, ← single, ← double]
  rfl

/-- Marks at the start of the bytes are marks at the start of the characters. -/
theorem take_bytes_eq_replicate_iff (mark : Mark) (count : Nat) (text : List Char) :
    (bytes text).take count = List.replicate count mark.byte ↔ Marks count mark text := by
  induction count generalizing text with
  | zero => simp
  | succ count ih =>
      cases text with
      | nil => simp [bytes, List.replicate_succ]
      | cons char rest =>
          rw [bytes_cons, marks_cons]
          rcases encoding_cases char with ⟨narrow, encoded⟩ | ⟨wide, high⟩
          · rw [encoded, List.singleton_append, List.take_succ_cons, List.replicate_succ,
              List.cons.injEq, ih, mark.byte_eq, ofNat_toNat_eq_iff narrow _ mark.toNat_char_lt]
          · have differs : char ≠ mark.char := ne_of_wide wide mark.toNat_char_lt
            obtain ⟨byte, others, encoded⟩ := exists_encoding char
            have wideByte := high byte (encoded ▸ List.mem_cons_self)
            have differsByte : byte ≠ mark.byte := byte_ne_of_wide wideByte mark.toNat_byte_lt
            simp [encoded, List.replicate_succ, differs, differsByte]

/-! ### The two walks -/

variable {scanner : Scanner} {quote : Option Mark}

/-- A byte of at least 128 changes nothing. -/
theorem scanBytesFrom_wide (line : List Char) {byte : UInt8} (wide : 128 ≤ byte.toNat)
    (position : Nat) (rest : List UInt8) :
    scanBytesFrom line scanner quote 0 position (byte :: rest) =
      scanBytesFrom line scanner quote 0 (position + 1) rest := by
  have differs : ∀ other : UInt8, other.toNat < 128 → byte ≠ other := fun _ => byte_ne_of_wide wide
  have unmarked : ∀ mark : Mark, byte ≠ mark.byte := fun mark => differs _ mark.toNat_byte_lt
  have noMark : Mark.ofByte? byte = none := by
    rw [Mark.ofByte?, if_neg (differs _ (by decide)), if_neg (differs _ (by decide))]
  have noBracket : scanner.bracket (byte = 0x28 || byte = 0x5b || byte = 0x7b)
      (byte = 0x29 || byte = 0x5d || byte = 0x7d) = scanner := by
    simp [bracket, differs 0x28 (by decide), differs 0x5b (by decide), differs 0x7b (by decide),
      differs 0x29 (by decide), differs 0x5d (by decide), differs 0x7d (by decide)]
  cases quote
  all_goals
    rw [scanBytesFrom]
    simp only [differs 0x5c (by decide), differs 0x23 (by decide), unmarked, noMark, noBracket,
      List.take_succ_cons, List.replicate_succ, List.cons.injEq, false_and, if_false]
    cases scanner.openTriple <;> rfl

theorem scanBytesFrom_append_wide (line : List Char) {high : List UInt8}
    (wide : ∀ byte ∈ high, 128 ≤ byte.toNat) (position : Nat) (rest : List UInt8) :
    scanBytesFrom line scanner quote 0 position (high ++ rest) =
      scanBytesFrom line scanner quote 0 (position + high.length) rest := by
  induction high generalizing position with
  | nil => rfl
  | cons byte high ih =>
      rw [List.cons_append, scanBytesFrom_wide line (wide byte List.mem_cons_self),
        ih (fun other member => wide other (List.mem_cons_of_mem _ member)), List.length_cons,
        Nat.add_assoc, Nat.add_comm 1]

/-- A character that has several bytes changes nothing. -/
theorem scanCharsFrom_wide {char : Char} (wide : 128 ≤ char.toNat) (position : Nat)
    (rest : List Char) :
    scanCharsFrom scanner quote 0 position (char :: rest) =
      scanCharsFrom scanner quote 0 (position + char.utf8Size) rest := by
  have differs : ∀ other : Char, other.toNat < 128 → char ≠ other := fun _ => ne_of_wide wide
  have unmarked : ∀ mark : Mark, char ≠ mark.char := fun mark => differs _ mark.toNat_char_lt
  have noMark : Mark.ofChar? char = none := by
    rw [Mark.ofChar?, if_neg (differs _ (by decide)), if_neg (differs _ (by decide))]
  have noBracket : scanner.bracket (char = '(' || char = '[' || char = '\x7b')
      (char = ')' || char = ']' || char = '\x7d') = scanner := by
    simp [bracket, differs '(' (by decide), differs '[' (by decide), differs '\x7b' (by decide),
      differs ')' (by decide), differs ']' (by decide), differs '\x7d' (by decide)]
  cases quote
  all_goals
    rw [scanCharsFrom]
    simp only [differs '\\' (by decide), differs '#' (by decide), unmarked, noMark, noBracket,
      List.take_succ_cons, List.replicate_succ, List.cons.injEq, false_and, if_false]
    cases scanner.openTriple <;> rfl

/-- The number of bytes to be passed over fits the characters that come: it is one at most, as after
a backslash, or the characters are marks.
-/
def Passable (pending : Nat) (rest : List Char) : Prop :=
  pending ≤ 1 ∨ ∃ mark : Mark, Marks pending mark rest

theorem Passable.tail {pending : Nat} {char : Char} {rest : List Char}
    (passable : Passable (pending + 1) (char :: rest)) : Passable pending rest := by
  rcases passable with few | ⟨mark, marks⟩
  · exact .inl (by omega)
  · exact .inr ⟨mark, (marks_cons.mp marks).2⟩

theorem Passable.eq_zero_of_wide {pending : Nat} {char : Char} {rest : List Char}
    (passable : Passable (pending + 1) (char :: rest)) (wide : 128 ≤ char.toNat) : pending = 0 := by
  rcases passable with few | ⟨mark, marks⟩
  · omega
  · exact absurd (marks_cons.mp marks).1 (ne_of_wide wide mark.toNat_char_lt)

/-- The step of the two walks over a character that is a byte of its own, if they agree on what
comes. -/
theorem scanBytesFrom_narrow {char : Char} (narrow : char.toNat < 128) {line rest : List Char}
    {position : Nat} (remaining : dropBytes (position + 1) line = rest)
    (agree : ∀ (scanner : Scanner) (quote : Option Mark) {pending : Nat}, Passable pending rest →
      scanBytesFrom line scanner quote pending (position + 1) (bytes rest) =
        scanCharsFrom scanner quote pending (position + char.utf8Size) rest) :
    scanBytesFrom line scanner quote 0 position (UInt8.ofNat char.toNat :: bytes rest) =
      scanCharsFrom scanner quote 0 position (char :: rest) := by
  have encoded : bytes (char :: rest) = UInt8.ofNat char.toNat :: bytes rest := by
    rcases encoding_cases char with ⟨_, encoded⟩ | ⟨wide, _⟩
    · rw [bytes_cons, encoded, List.singleton_append]
    · omega
  have isByte := ofNat_toNat_eq_iff narrow
  have backslash : UInt8.ofNat char.toNat = 0x5c ↔ char = '\\' := isByte '\\' (by decide)
  have tripled : ∀ mark : Mark, (UInt8.ofNat char.toNat :: bytes rest).take 3 =
      List.replicate 3 mark.byte ↔
      (char :: rest).take 3 = List.replicate 3 mark.char := by
    intro mark
    rw [← encoded]
    exact take_bytes_eq_replicate_iff mark 3 (char :: rest)
  have keep := fun scanner quote => agree scanner quote (.inl (Nat.zero_le 1))
  have skip := fun scanner quote => agree scanner quote (.inl (Nat.le_refl 1))
  have skipMarks : ∀ (scanner : Scanner) (quote : Option Mark) {mark : Mark},
      Marks 3 mark (char :: rest) →
        scanBytesFrom line scanner quote 2 (position + 1) (bytes rest) =
          scanCharsFrom scanner quote 2 (position + char.utf8Size) rest := by
    intro scanner quote mark marks
    exact agree scanner quote (.inr ⟨mark, (marks_cons.mp marks).2⟩)
  cases triple : scanner.openTriple with
  | some mark =>
      cases quote
      all_goals
        simp only [scanBytesFrom, scanCharsFrom, triple, backslash, tripled, keep, skip]
        split_ifs with _ marks
        · rfl
        · exact skipMarks _ _ marks
        · rfl
  | none =>
      cases quote with
      | some mark =>
          have closes : UInt8.ofNat char.toNat = mark.byte ↔ char = mark.char := by
            rw [mark.byte_eq, isByte _ mark.toNat_char_lt]
          simp only [scanBytesFrom, scanCharsFrom, triple, backslash, closes, keep, skip]
      | none =>
          have hash : UInt8.ofNat char.toNat = 0x23 ↔ char = '#' := isByte '#' (by decide)
          have parenthesis : UInt8.ofNat char.toNat = 0x28 ↔ char = '(' := isByte '(' (by decide)
          have square : UInt8.ofNat char.toNat = 0x5b ↔ char = '[' := isByte '[' (by decide)
          have brace : UInt8.ofNat char.toNat = 0x7b ↔ char = '\x7b' := isByte '\x7b' (by decide)
          have parenthesisEnd : UInt8.ofNat char.toNat = 0x29 ↔ char = ')' := isByte ')' (by decide)
          have squareEnd : UInt8.ofNat char.toNat = 0x5d ↔ char = ']' := isByte ']' (by decide)
          have braceEnd : UInt8.ofNat char.toNat = 0x7d ↔ char = '\x7d' := isByte '\x7d' (by decide)
          simp only [scanBytesFrom, scanCharsFrom, triple, hash, ofByte?_ofNat narrow,
            backslash, remaining, parenthesis, square, brace, parenthesisEnd, squareEnd, braceEnd,
            tripled, keep]
          cases Mark.ofChar? char with
          | none => rfl
          | some mark =>
              simp only
              split_ifs with _ marks
              · rfl
              · exact skipMarks _ _ marks
              · rfl

theorem scanBytesFrom_eq_scanCharsFrom (initial rest : List Char) (scanner : Scanner)
    (quote : Option Mark) {pending : Nat} (passable : Passable pending rest) :
    scanBytesFrom (initial ++ rest) scanner quote pending (bytes initial).length (bytes rest) =
      scanCharsFrom scanner quote pending (bytes initial).length rest := by
  induction rest generalizing initial scanner quote pending with
  | nil => simp [bytes, scanBytesFrom, scanCharsFrom]
  | cons char rest ih =>
      have next := length_bytes_concat initial char
      have split : initial ++ char :: rest = (initial ++ [char]) ++ rest := by simp
      have agree : ∀ (scanner : Scanner) (quote : Option Mark) {pending : Nat},
          Passable pending rest →
          scanBytesFrom (initial ++ char :: rest) scanner quote pending
            ((bytes initial).length + char.utf8Size)
              (bytes rest) =
            scanCharsFrom scanner quote pending ((bytes initial).length + char.utf8Size) rest := by
        intro scanner quote pending passable
        rw [split, ← next]
        exact ih (initial ++ [char]) scanner quote passable
      have size := String.length_utf8EncodeChar char
      rw [bytes_cons]
      rcases encoding_cases char with ⟨narrow, encoded⟩ | ⟨wide, high⟩
      · rw [encoded, List.length_singleton] at size
        rw [encoded, List.singleton_append]
        cases pending with
        | zero =>
            have remaining : dropBytes ((bytes initial).length + 1) (initial ++ char :: rest) =
                rest := by
              rw [split, size, ← next, dropBytes_append]
            exact scanBytesFrom_narrow narrow remaining (by simpa only [← size] using agree)
        | succ pending =>
            rw [scanBytesFrom, scanCharsFrom, ← agree scanner quote passable.tail, ← size]
      · cases pending with
        | zero =>
            rw [scanBytesFrom_append_wide _ high, scanCharsFrom_wide wide, size,
              agree scanner quote passable]
        | succ pending =>
            rw [scanCharsFrom, ← agree scanner quote passable.tail, ← size]
            obtain rfl := passable.eq_zero_of_wide wide
            -- One byte is passed over, the others of the character change nothing.
            obtain ⟨byte, others, encoded⟩ := exists_encoding char
            rw [encoded] at high ⊢
            rw [List.cons_append, scanBytesFrom,
              scanBytesFrom_append_wide _
                (fun other member => high other (List.mem_cons_of_mem _ member)),
              List.length_cons, Nat.add_assoc, Nat.add_comm 1]

/-- The walk over the bytes of a line is the walk over its characters. -/
theorem scan_eq_scanChars (scanner : Scanner) (line : List Char) :
    scanner.scan line = scanner.scanChars line :=
  scanBytesFrom_eq_scanCharsFrom [] line _ none (.inl (Nat.zero_le 1))

end Scanner

end NotebookSlice.Magic

import NotebookSlice.Proofs.Magic.Reading

/-!
# Positions between characters

The scanner works with positions in the bytes of a line, and cuts the line there: after a backslash,
to see whether anything but blank characters follows, and before a comment. This file runs the walk
with a guard at each cut, which gives no result if the position is inside a character.

No guard is ever violated, although the walk itself can stand inside a character. A cut is made only
next to a byte below 128, and such a byte is a whole character, whatever the scanner has passed over
before.
-/

namespace NotebookSlice.Magic

open Text

namespace Scanner

/-! ### Cuts of a line -/

/-- The two parts of a line at a position in its bytes, if the position is not inside a
character. -/
def cut? (line : List Char) (position : Nat) : Option (List Char × List Char) :=
  let text := String.ofList line
  (text.pos? ⟨position⟩).map fun place =>
    ((text.sliceTo place).copy.toList, (text.sliceFrom place).copy.toList)

theorem utf8ByteSize_ofList (text : List Char) :
    (String.ofList text).utf8ByteSize = (bytes text).length := by
  simp [String.utf8ByteSize, String.toByteArray_ofList, List.utf8Encode, bytes]

theorem isValid_length_bytes (initial rest : List Char) :
    (⟨(bytes initial).length⟩ : String.Pos.Raw).IsValid (String.ofList (initial ++ rest)) := by
  rw [String.Pos.Raw.isValid_iff_exists_append]
  refine ⟨String.ofList initial, String.ofList rest, String.ofList_append, ?_⟩
  rw [String.Pos.Raw.ext_iff, String.byteIdx_rawEndPos, utf8ByteSize_ofList]

theorem pos?_of_isValid {text : String} {position : String.Pos.Raw}
    (valid : position.IsValid text) :
    text.pos? position = some (text.pos position valid) := by
  simp [String.pos?, String.Slice.pos?, String.pos, valid]

theorem cut?_append (initial rest : List Char) :
    cut? (initial ++ rest) (bytes initial).length = some (initial, rest) := by
  have valid := isValid_length_bytes initial rest
  have splits : (String.pos _ _ valid).Splits (String.ofList initial) (String.ofList rest) := by
    refine ⟨String.ofList_append, ?_⟩
    rw [String.offset_pos, String.Pos.Raw.ext_iff, String.byteIdx_rawEndPos, utf8ByteSize_ofList]
  obtain ⟨before_eq, after_eq⟩ := (String.Pos.splits _).eq splits
  simp only [cut?, pos?_of_isValid valid, Option.map_some, before_eq, after_eq,
    String.toList_ofList]

example : cut? ['é', '?'] 1 = none ∧ cut? ['é', '?'] 2 = some (['é'], ['?']) := by decide

/-! ### Bytes below 128 -/

theorem encoding_eq_of_narrow {char : Char} {byte : UInt8}
    (member : byte ∈ String.utf8EncodeChar char) (narrow : byte.toNat < 128) :
    String.utf8EncodeChar char = [byte] := by
  rcases encoding_cases char with ⟨-, single⟩ | ⟨-, high⟩
  · rw [single, List.mem_singleton] at member
    rw [single, member]
  · have wide := high byte member
    omega

/-- A byte below 128 is a whole character of the line. -/
theorem exists_character_of_narrow {line : List Char} {position : Nat} {byte : UInt8}
    (found : (bytes line)[position]? = some byte) (narrow : byte.toNat < 128) :
    ∃ (initial : List Char) (char : Char) (rest : List Char),
      line = initial ++ char :: rest ∧ (bytes initial).length = position ∧ char.utf8Size = 1 := by
  induction line generalizing position with
  | nil => simp [bytes] at found
  | cons char line ih =>
      have size := String.length_utf8EncodeChar char
      rw [bytes_cons, List.getElem?_append] at found
      split at found
      · next inside =>
          have whole := encoding_eq_of_narrow (List.mem_of_getElem? found) narrow
          rw [whole, List.length_singleton] at inside size
          exact ⟨[], char, line, rfl, (Nat.lt_one_iff.mp inside).symm, size.symm⟩
      · next later =>
          obtain ⟨initial, char', rest, rfl, place, single⟩ := ih found
          refine ⟨char :: initial, char', rest, rfl, ?_, single⟩
          rw [length_bytes_cons]
          omega

/-! ### The guarded walk -/

/-- Whether a byte at a position is a backslash with blank characters only after it. -/
def guardedContinues (line : List Char) (byte : UInt8) (position : Nat) : Option Bool :=
  if byte = 0x5c then (cut? line (position + 1)).map fun parts => allBlank parts.2 else some false

/-- The walk over the bytes of a line, without a result if the line is cut inside a character. -/
def guardedFrom (line : List Char) (scanner : Scanner) (quote : Option Mark)
    (pending position : Nat) :
    List UInt8 → Option (Scanner × Nat)
  | [] => some (scanner, position)
  | byte :: rest =>
    match pending with
    | pending + 1 => guardedFrom line scanner quote pending (position + 1) rest
    | 0 =>
      match scanner.openTriple with
      | some mark =>
        if byte = 0x5c then guardedFrom line scanner quote 1 (position + 1) rest
        else if (byte :: rest).take 3 = List.replicate 3 mark.byte then
          guardedFrom line { scanner with openTriple := none } quote 2 (position + 1) rest
        else guardedFrom line scanner quote 0 (position + 1) rest
      | none =>
        match quote with
        | some mark =>
          if byte = 0x5c then guardedFrom line scanner quote 1 (position + 1) rest
          else guardedFrom line scanner (if byte = mark.byte then none else quote) 0
            (position + 1) rest
        | none =>
          if byte = 0x23 then some (scanner, position)
          else match Mark.ofByte? byte with
            | some mark =>
              if (byte :: rest).take 3 = List.replicate 3 mark.byte then
                guardedFrom line { scanner with openTriple := some mark } none 2 (position + 1) rest
              else guardedFrom line scanner (some mark) 0 (position + 1) rest
            | none =>
              (guardedContinues line byte position).bind fun continues =>
                if continues then
                  guardedFrom line { scanner with continued := true } none 0 (position + 1) rest
                else
                  guardedFrom line
                    (scanner.bracket (byte = 0x28 || byte = 0x5b || byte = 0x7b)
                      (byte = 0x29 || byte = 0x5d || byte = 0x7d)) none 0 (position + 1) rest

def guardedScan (scanner : Scanner) (line : List Char) : Option (Scanner × Nat) :=
  guardedFrom line { scanner with continued := false } none 0 0 (bytes line)

variable {line : List Char} {position : Nat} {byte : UInt8} {coming : List UInt8}

theorem exists_cut?_after (found : (bytes line)[position]? = some byte)
    (narrow : byte.toNat < 128) :
    ∃ initial, cut? line (position + 1) = some (initial, dropBytes (position + 1) line) := by
  obtain ⟨initial, char, rest, rfl, rfl, single⟩ := exists_character_of_narrow found narrow
  have next : (bytes (initial ++ [char])).length = (bytes initial).length + 1 := by
    rw [length_bytes_concat, single]
  rw [List.append_cons, ← next, cut?_append, dropBytes_append]
  exact ⟨initial ++ [char], rfl⟩

theorem guardedContinues_eq_some (found : (bytes line)[position]? = some byte) :
    guardedContinues line byte position =
      some (decide (byte = 0x5c ∧ allBlank (dropBytes (position + 1) line))) := by
  rw [guardedContinues]
  by_cases backslash : byte = 0x5c
  · obtain ⟨initial, cut_eq⟩ := exists_cut?_after found (by rw [backslash]; decide)
    simp [backslash, cut_eq]
  · simp [backslash]

/-- What the two walks do with a byte: they stop at a comment, or go on with the line in the same
way. -/
inductive ByteStep (line : List Char) (scanner : Scanner) (quote : Option Mark)
    (pending position : Nat) (byte : UInt8) (coming : List UInt8) : Prop
  | stop (hash : byte = 0x23)
      (walk : scanBytesFrom line scanner quote pending position (byte :: coming) =
        (scanner, position))
      (guarded : guardedFrom line scanner quote pending position (byte :: coming) =
        some (scanner, position))
  | go (scanner' : Scanner) (quote' : Option Mark) (pending' : Nat)
      (walk : scanBytesFrom line scanner quote pending position (byte :: coming) =
        scanBytesFrom line scanner' quote' pending' (position + 1) coming)
      (guarded : guardedFrom line scanner quote pending position (byte :: coming) =
        guardedFrom line scanner' quote' pending' (position + 1) coming)

variable {scanner : Scanner} {quote : Option Mark}

theorem byteStep_in_triple {mark : Mark} (inside : scanner.openTriple = some mark) :
    ByteStep line scanner quote 0 position byte coming := by
  by_cases backslash : byte = 0x5c
  · refine .go scanner quote 1 ?_ ?_ <;>
      simp only [scanBytesFrom, guardedFrom, inside, if_pos backslash]
  · by_cases marks : (byte :: coming).take 3 = List.replicate 3 mark.byte
    · refine .go { scanner with openTriple := none } quote 2 ?_ ?_ <;>
        simp only [scanBytesFrom, guardedFrom, inside, if_neg backslash, if_pos marks]
    · refine .go scanner quote 0 ?_ ?_ <;>
        simp only [scanBytesFrom, guardedFrom, inside, if_neg backslash, if_neg marks]

theorem byteStep_in_single {mark : Mark} (outside : scanner.openTriple = none) :
    ByteStep line scanner (some mark) 0 position byte coming := by
  by_cases backslash : byte = 0x5c
  · refine .go scanner (some mark) 1 ?_ ?_ <;>
      simp only [scanBytesFrom, guardedFrom, outside, if_pos backslash]
  · refine .go scanner (if byte = mark.byte then none else some mark) 0 ?_ ?_ <;>
      simp only [scanBytesFrom, guardedFrom, outside, if_neg backslash]

theorem byteStep_in_code (found : (bytes line)[position]? = some byte)
    (outside : scanner.openTriple = none) :
    ByteStep line scanner none 0 position byte coming := by
  by_cases hash : byte = 0x23
  · refine .stop hash ?_ ?_ <;> simp only [scanBytesFrom, guardedFrom, outside, if_pos hash]
  · cases marked : Mark.ofByte? byte with
    | some mark =>
        by_cases marks : (byte :: coming).take 3 = List.replicate 3 mark.byte
        · refine .go { scanner with openTriple := some mark } none 2 ?_ ?_ <;>
            simp only [scanBytesFrom, guardedFrom, outside, if_neg hash, marked, if_pos marks]
        · refine .go scanner (some mark) 0 ?_ ?_ <;>
            simp only [scanBytesFrom, guardedFrom, outside, if_neg hash, marked, if_neg marks]
    | none =>
        -- The only cut of the walk. The backslash is a byte below 128, so the cut is after a whole
        -- character.
        have guard := guardedContinues_eq_some found
        by_cases continues : byte = 0x5c ∧ allBlank (dropBytes (position + 1) line)
        · refine .go { scanner with continued := true } none 0 ?_ ?_
          · simp only [scanBytesFrom, outside, if_neg hash, marked, if_pos continues]
          · simp only [guardedFrom, outside, if_neg hash, marked, guard, Option.bind_some,
              decide_eq_true_eq, if_pos continues]
        · refine .go (scanner.bracket (byte = 0x28 || byte = 0x5b || byte = 0x7b)
            (byte = 0x29 || byte = 0x5d || byte = 0x7d)) none 0 ?_ ?_
          · simp only [scanBytesFrom, outside, if_neg hash, marked, if_neg continues]
          · simp only [guardedFrom, outside, if_neg hash, marked, guard, Option.bind_some,
              decide_eq_true_eq, if_neg continues]

theorem byteStep (found : (bytes line)[position]? = some byte) (scanner : Scanner)
    (quote : Option Mark) (pending : Nat) :
    ByteStep line scanner quote pending position byte coming := by
  cases pending with
  | succ pending => exact .go scanner quote pending rfl rfl
  | zero =>
      cases triple : scanner.openTriple with
      | some mark => exact byteStep_in_triple triple
      | none =>
          cases quote with
          | some mark => exact byteStep_in_single triple
          | none => exact byteStep_in_code found triple

theorem exists_scanBytesFrom_eq (passed : List UInt8) (split : bytes line = passed ++ coming)
    (scanner : Scanner) (quote : Option Mark) (pending : Nat) :
    ∃ (initial rest : List Char) (scanner' : Scanner), line = initial ++ rest ∧
      scanBytesFrom line scanner quote pending passed.length coming =
        (scanner', (bytes initial).length) ∧
      guardedFrom line scanner quote pending passed.length coming =
        some (scanner', (bytes initial).length) := by
  -- The bytes that were passed and those that come are the bytes of the line, wherever the walk
  -- stands in a character.
  induction coming generalizing passed scanner quote pending with
  | nil =>
      rw [List.append_nil] at split
      exact ⟨line, [], scanner, (List.append_nil line).symm, by rw [scanBytesFrom, split],
        by rw [guardedFrom, split]⟩
  | cons byte coming ih =>
      have found : (bytes line)[passed.length]? = some byte := by simp [split]
      cases byteStep found scanner quote pending with
      | stop hash walk guarded =>
          obtain ⟨initial, char, rest, line_eq, place, -⟩ :=
            exists_character_of_narrow found (by rw [hash]; decide)
          exact ⟨initial, char :: rest, scanner, line_eq, place ▸ walk, place ▸ guarded⟩
      | go scanner' quote' pending' walk guarded =>
          have next := ih (passed ++ [byte]) (by simpa using split) scanner' quote' pending'
          rw [List.length_append, List.length_singleton] at next
          rw [walk, guarded]
          exact next

/-- Both walks end with the same result, between two characters or at the end of the line. -/
theorem exists_scan_eq (scanner : Scanner) (line : List Char) :
    ∃ (initial rest : List Char) (scanner' : Scanner), line = initial ++ rest ∧
      scanner.scan line = (scanner', (bytes initial).length) ∧
      scanner.guardedScan line = some (scanner', (bytes initial).length) :=
  exists_scanBytesFrom_eq [] rfl { scanner with continued := false } none 0

end Scanner

/-! ### Interactive lines -/

/-- Whether a line is a magic command or a help query, without a result if it is cut inside a
character. -/
def guardedIsInteractive (line : List Char) : Option Bool :=
  if IsCommand line then some true
  else do
    let code := trimStart line
    let (_, size) ← Scanner.guardedScan {} code
    let (shown, _) ← Scanner.cut? code size
    return (trimEnd shown).getLast? = some '?'

theorem guardedIsInteractive_eq_some (line : List Char) :
    guardedIsInteractive line = some (isInteractive line) := by
  obtain ⟨initial, rest, scanner', code_eq, scan_eq, guarded_eq⟩ :=
    Scanner.exists_scan_eq {} (trimStart line)
  have cut_eq : Scanner.cut? (trimStart line) (Scanner.bytes initial).length =
      some (initial, rest) := by
    rw [code_eq, Scanner.cut?_append]
  have shown_eq : Scanner.takeBytes (Scanner.bytes initial).length (trimStart line) = initial := by
    rw [code_eq, Scanner.takeBytes_append]
  rw [guardedIsInteractive, isInteractive_eq, scan_eq, shown_eq]
  by_cases command : IsCommand line
  · rw [if_pos command, if_pos command]
  · rw [if_neg command, if_neg command]
    simp only [guarded_eq, Option.bind_eq_bind, Option.bind_some, cut_eq]
    rfl

/-- The scanner measures a line up to a place between two characters. All cuts that it makes, and
the one that tells a help query, are between characters; and it does what the scanner that walks
over characters does.
-/
theorem Scanner.scan_cuts_between_characters (scanner : Scanner) (line : List Char) :
    (scanner.scan line).2 ≤ (bytes line).length ∧
      (⟨(scanner.scan line).2⟩ : String.Pos.Raw).IsValid (String.ofList line) ∧
      scanner.guardedScan line = some (scanner.scan line) ∧
      guardedIsInteractive line = some (isInteractive line) ∧
      scanner.scan line = scanner.scanChars line := by
  obtain ⟨initial, rest, scanner', line_eq, scan_eq, guarded_eq⟩ := scanner.exists_scan_eq line
  refine ⟨?_, ?_, ?_, guardedIsInteractive_eq_some line, scanner.scan_eq_scanChars line⟩
  · rw [scan_eq, line_eq, length_bytes_append]
    exact Nat.le_add_right _ _
  · rw [scan_eq, line_eq]
    exact isValid_length_bytes initial rest
  · rw [guarded_eq, scan_eq]

end NotebookSlice.Magic

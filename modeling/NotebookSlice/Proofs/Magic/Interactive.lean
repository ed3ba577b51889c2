import Mathlib.Data.List.TakeWhile
import NotebookSlice.Proofs.Magic.Reading
import NotebookSlice.Proofs.Magic.Rows

/-!
# Which lines are rewritten

The rewriting decides line by line and carries a scanner from one line to the next. What the scanner
knows before a line is what the reading knows of the rewritten lines before it, so the decision is
said in terms of the reading: a line is turned into a comment if a statement can start there and it
is a magic command, or its last character before a comment is a `?`.

Two consequences are not what one would expect. A `?` at the end of a line makes the line a help
query also if it is in a string that the line opens and a later line closes. And the line after a
backslash in a string in single marks is taken for the start of a statement.
-/

namespace NotebookSlice.Magic

open Text

namespace Reader

/-! ### The lines before a line -/

variable {rows : List (List Char)} {index : Nat} {line : List Char}

theorem before_succ (bridging : Bool) (found : rows[index]? = some line) :
    before bridging rows (index + 1) =
      ((before bridging rows index).along line).lineFeed bridging := by
  rw [before, List.take_add_one, found, Option.toList_some, List.foldl_append]
  rfl

/-- No line up to this one starts inside a string in single marks. -/
def Unbridged (rows : List (List Char)) (index : Nat) : Prop :=
  ∀ earlier ≤ index, (before true rows earlier).place.isShort = false

instance (rows : List (List Char)) (index : Nat) : Decidable (Unbridged rows index) :=
  inferInstanceAs (Decidable (∀ earlier ≤ index, _))

theorem lineFeed_eq_of_not_isShort {reader : Reader}
    (outside : (reader.lineFeed true).place.isShort = false) :
    reader.lineFeed true = reader.lineFeed false := by
  have place_eq : reader.place.afterBreak true = reader.place.afterBreak false := by
    rw [lineFeed] at outside
    cases isAt : reader.place with
    | shortEscape mark =>
        rw [isAt] at outside
        contradiction
    | _ => rfl
  rw [lineFeed, lineFeed, place_eq]

theorem Unbridged.before_eq (unbridged : Unbridged rows index) :
    before true rows index = before false rows index := by
  induction index with
  | zero => rfl
  | succ index ih =>
      have same := ih (fun earlier bound => unbridged earlier (Nat.le_succ_of_le bound))
      cases found : rows[index]? with
      | none =>
          have all : rows.take (index + 1) = rows.take index := by
            rw [List.take_add_one, found, Option.toList_none, List.append_nil]
          rw [before, before, all]
          exact same
      | some line =>
          have outside := unbridged (index + 1) (Nat.le_refl _)
          rw [before_succ true found] at outside
          rw [before_succ true found, before_succ false found,
            lineFeed_eq_of_not_isShort outside, same]

theorem before_eq {bridging : Bool} (unbridged : bridging = true → Unbridged rows index) :
    before bridging rows index = before false rows index := by
  cases bridging with
  | false => rfl
  | true => exact (unbridged rfl).before_eq

end Reader

/-! ### The scanner before a line -/

theorem trimStart_commented (row : List Char) :
    trimStart (commented row) = '#' :: trimStart row := by
  have hash : isBlank '#' = false := by decide
  rw [commented, trimStart, List.dropWhile_append_of_pos (fun _ => List.mem_takeWhile_imp),
    List.dropWhile_cons, hash]
  rfl

theorem along_commented (row : List Char) :
    ({} : Reader).along (commented row) = { place := .comment } := by
  rw [Reader.along_trimStart rfl, trimStart_commented, Reader.along_of_comment rfl]

theorem Scanner.reader_pass (scanner : Scanner) (row : List Char) :
    (scanner.pass row).reader = (scanner.reader.along (scanner.output row)).lineFeed false := by
  rw [pass, output]
  split
  · next changes =>
    have starts := (Bool.and_eq_true _ _ ▸ changes).1
    rw [reader_eq_of_atStatementStart starts, along_commented]
    rfl
  · exact reader_scan scanner row

theorem foldl_commentOutRows (scanner : Scanner) (rows : List (List Char)) :
    (commentOutRows scanner rows).foldl (fun reader row => (reader.along row).lineFeed false)
      scanner.reader = (rows.foldl Scanner.pass scanner).reader := by
  induction rows generalizing scanner with
  | nil => rfl
  | cons row rest ih =>
      rw [commentOutRows_cons, List.foldl_cons, ← scanner.reader_pass, ih, List.foldl_cons]

theorem before_commentOutRows (rows : List (List Char)) (index : Nat) :
    Reader.before false (commentOutRows {} rows) index =
      ((rows.take index).foldl Scanner.pass {}).reader := by
  rw [Reader.before, take_commentOutRows]
  exact foldl_commentOutRows {} _

/-- A `#` is put into a line where a statement can start, if it is a magic command or a query. -/
theorem getElem?_commentOutRows_eq (rows : List (List Char)) (index : Nat) :
    (commentOutRows {} rows)[index]? = rows[index]?.map fun line =>
      if (Reader.before false (commentOutRows {} rows) index).Starts ∧
        (IsCommand line ∨ (({} : Reader).along line).last.map Prod.fst = some '?')
      then line.takeWhile isBlank ++ '#' :: line.dropWhile isBlank else line := by
  rw [getElem?_commentOutRows, before_commentOutRows]
  congr 1
  funext line
  rw [Scanner.output]
  simp only [Bool.and_eq_true, Scanner.starts_reader_iff, isInteractive_iff]
  rfl

theorem getElem?_commentOutRows_ne_iff {rows : List (List Char)} {index : Nat} {line : List Char}
    (found : rows[index]? = some line) :
    (commentOutRows {} rows)[index]? ≠ some line ↔
      (Reader.before false (commentOutRows {} rows) index).Starts ∧
        (IsCommand line ∨ (({} : Reader).along line).last.map Prod.fst = some '?') := by
  rw [getElem?_commentOutRows_eq, found, Option.map_some, ne_eq, Option.some_inj]
  split
  · next changes => exact iff_of_true (commented_ne line) changes
  · next keeps => exact iff_of_false (fun differs => differs rfl) keeps

theorem before_eq_of_starts {rows : List (List Char)} {index : Nat}
    (starts : (Reader.before false (commentOutRows {} rows) index).Starts) :
    Reader.before false (commentOutRows {} rows) index = {} := by
  rw [before_commentOutRows] at starts ⊢
  exact Scanner.reader_eq_of_atStatementStart (Scanner.starts_reader_iff.mp starts)

/-! ### The zone of a query -/

/-- The places where the reading can be after a `?` of a zone, with blank characters and comments
after it. -/
inductive Place.Rests : Zone → Place → Prop
  | code : Rests .code .code
  | comment : Rests .code .comment
  | short {mark : Mark} : Rests .string (.short mark)
  | long {mark : Mark} : Rests .string (.long mark 0)

namespace Place

theorem Rests.zone_eq {zone : Zone} {place : Place} (rests : Rests zone place) :
    zone = if place.inString then .string else .code := by
  cases rests <;> rfl

theorem rests_after_query {place : Place} (shown : place.zone '?' ≠ .comment) :
    Rests (place.zone '?') (place.after '?') := by
  have other : ∀ mark : Mark, '?' ≠ mark.char := fun mark => by cases mark <;> decide
  cases place with
  | code => exact .code
  | comment => exact absurd rfl shown
  | opened mark =>
      rw [after, if_neg (other mark), afterInShort, if_neg (by decide), if_neg (other mark)]
      exact .short
  | paired mark =>
      rw [zone, if_neg (other mark), after, if_neg (other mark)]
      exact .code
  | short mark =>
      rw [after, afterInShort, if_neg (by decide), if_neg (other mark)]
      exact .short
  | shortEscape mark => exact .short
  | long mark marks =>
      rw [after, if_neg (by decide), if_neg (other mark)]
      exact .long
  | longEscape mark => exact .long

theorem Rests.after_hidden {zone : Zone} {place : Place} {char : Char} (rests : Rests zone place)
    (hidden : isBlank char ∨ place.zone char = .comment) : Rests zone (place.after char) := by
  rcases hidden with blank | inComment
  · have backslash : char ≠ '\\' := ne_of_isBlank blank _ (by decide)
    have other := ne_mark_of_isBlank blank
    cases rests with
    | code =>
        rw [after, afterInCode_of_isBlank blank]
        exact .code
    | comment => exact .comment
    | short =>
        rw [after, afterInShort, if_neg backslash, if_neg (other _)]
        exact .short
    | long =>
        rw [after, if_neg backslash, if_neg (other _)]
        exact .long
  · rw [after_eq_comment inComment]
    cases rests with
    | code | comment => exact .comment
    | short | long => contradiction

end Place

namespace Reader

theorem rests_along {reader : Reader}
    (rests : ∀ zone, reader.last = some ('?', zone) → reader.place.Rests zone) (line : List Char)
    {zone : Zone} (last_eq : (reader.along line).last = some ('?', zone)) :
    (reader.along line).place.Rests zone := by
  induction line generalizing reader with
  | nil => exact rests zone last_eq
  | cons char line ih =>
      refine ih ?_ last_eq
      intro zone' last_eq'
      rw [advance] at last_eq'
      dsimp only at last_eq'
      split at last_eq'
      · next hidden => exact (rests zone' last_eq').after_hidden hidden
      · next shown =>
        obtain ⟨rfl, rfl⟩ := Prod.mk.inj (Option.some.inj last_eq')
        exact Place.rests_after_query (fun inComment => shown (.inr inComment))

theorem last_eq_query_iff (line : List Char) :
    (({} : Reader).along line).last.map Prod.fst = some '?' ↔ (({} : Reader).along line).last =
      some ('?', if (({} : Reader).along line).place.inString then .string else .code) := by
  constructor
  · intro asks
    obtain ⟨⟨char, zone⟩, last_eq, rfl⟩ := Option.map_eq_some_iff.mp asks
    have rests :=
      rests_along (fun _ unread => absurd unread.symm (Option.some_ne_none _)) line last_eq
    rw [last_eq, ← rests.zone_eq]
  · intro last_eq
    rw [last_eq]
    rfl

end Reader

/-! ### Help queries -/

/-- A line that is no magic command is changed exactly if a statement can start there and the last
character before a comment is a `?`. The `?` is in code, or in a string that the line opens and does
not close.
-/
theorem changed_iff_ends_with_query (bridging : Bool) {text : String} {index : Nat}
    {line : List Char} {reader : Reader} (found : (rows text.toList)[index]? = some line)
    (noCommand : ¬ IsCommand line)
    (unbridged : bridging = true → Reader.Unbridged (rows (commentOut text).toList) index)
    (read : Reader.before bridging (rows (commentOut text).toList) index = reader) :
    (rows (commentOut text).toList)[index]? ≠ some line ↔
      reader.Starts ∧ (reader.along line).last =
        some ('?', if (reader.along line).place.inString then .string else .code) := by
  rw [Reader.before_eq unbridged, rows_commentOut] at read
  rw [rows_commentOut, getElem?_commentOutRows_ne_iff found, or_iff_right noCommand, read]
  apply and_congr_right
  intro starts
  rw [← read] at starts
  rw [← read, before_eq_of_starts starts, Reader.last_eq_query_iff]

namespace Sample

/-- Question marks in a string, in a comment and in a string over several lines, and a help
query. -/
def queries : String :=
  "s = 'why?'  # ok?\nt = f(\"\"\"\nreally?\n\"\"\", '\\'?')\ndf.head?  # help"

theorem rows_queries : rows (commentOut queries).toList =
    ["s = 'why?'  # ok?".toList, "t = f(\"\"\"".toList, "really?".toList, "\"\"\", '\\'?')".toList,
      "#df.head?  # help".toList] := by
  decide +kernel

theorem unbridged_queries : Reader.Unbridged (rows (commentOut queries).toList) 4 := by
  rw [rows_queries]
  decide +kernel

theorem before_queries :
    Reader.before true (rows (commentOut queries).toList) 2 =
      { place := .long .double 0, depth := 1 } ∧
      Reader.before true (rows (commentOut queries).toList) 4 = {} := by
  rw [rows_queries]
  decide +kernel

/-- A string that starts with a question and ends on the next line. -/
def openQuestion : String := "s = \"\"\"why?\n\"\"\""

end Sample

theorem changed_iff_ends_with_query_sample :
    (rows (commentOut Sample.queries).toList)[2]? = some "really?".toList ∧
      (rows (commentOut Sample.queries).toList)[4]? ≠ some "df.head?  # help".toList := by
  have found : (rows Sample.queries.toList)[2]? = some "really?".toList ∧
      (rows Sample.queries.toList)[4]? = some "df.head?  # help".toList := by decide +kernel
  constructor
  · by_contra differs
    have unbridged : Reader.Unbridged (rows (commentOut Sample.queries).toList) 2 :=
      fun earlier bound => Sample.unbridged_queries earlier (by omega)
    have changed :=
      changed_iff_ends_with_query true found.1 (by decide)
        (fun _ => unbridged) Sample.before_queries.1
    exact absurd (changed.mp differs).1 (by decide)
  · have changed :=
      changed_iff_ends_with_query true found.2 (by decide) (fun _ => Sample.unbridged_queries)
      Sample.before_queries.2
    exact changed.mpr (by decide)

/-- The `?` is in a string that the next line closes. -/
theorem exists_query_in_string :
    ∃ (text : String) (line : List Char), (rows text.toList)[0]? = some line ∧ ¬ IsCommand line ∧
      (rows (commentOut text).toList)[0]? ≠ some line ∧
      (({} : Reader).along line).last = some ('?', .string) ∧
      (Reader.before true (rows text.toList) 1).place = .long .double 0 ∧
      (Reader.before true (rows text.toList) 2).place = .code :=
  ⟨Sample.openQuestion, "s = \"\"\"why?".toList, by decide +kernel⟩

/-! ### Lines after a backslash -/

namespace Place

theorem zone_backslash_eq_code {place : Place} (inCode : place.after '\\' = .code) :
    place.zone '\\' = .code := by
  cases place with
  | code => rfl
  | paired mark => rw [zone, if_neg mark.char_ne_backslash.symm]; rfl
  | opened mark => simp [after, afterInShort, mark.char_ne_backslash.symm] at inCode
  | _ => simp [after, afterInShort] at inCode

theorem zone_backslash_eq_string {place : Place} {mark : Mark}
    (inShort : place.after '\\' = .shortEscape mark) :
    place.zone '\\' = .string := by
  cases place with
  | code => contradiction
  | comment => contradiction
  | paired mark' =>
      rw [after, if_neg mark'.char_ne_backslash.symm] at inShort
      contradiction
  | _ => rfl

end Place

theorem Reader.exists_place_before_backslash {reader reader' : Reader} {line : List Char}
    (read : reader.along line = reader') (backslash : line.getLast? = some '\\') :
    ∃ place : Place, place.after '\\' = reader'.place ∧
      (place.zone '\\' ≠ .comment → reader'.last = some ('\\', place.zone '\\')) := by
  obtain ⟨initial, rfl⟩ := List.getLast?_eq_some_iff.mp backslash
  rw [along_append] at read
  subst read
  refine ⟨(reader.along initial).place, rfl, ?_⟩
  intro shown
  have nonblank : isBlank '\\' = false := by decide
  rw [along_cons, along_nil]
  simp [advance, nonblank, shown]

/-- After a kept line that ends with an unescaped backslash outside of comments, the next line is
changed exactly if the backslash is in a string in single marks, no bracket is open, and the next
line is interactive on its own. After a backslash in code or in a string in triple marks it is
always kept.
-/
theorem changed_after_backslash_iff (bridging : Bool) {text : String} {index : Nat}
    {line next : List Char} {reader : Reader}
    (kept : (rows (commentOut text).toList)[index]? = some line)
    (follows : (rows text.toList)[index + 1]? = some next)
    (unbridged : bridging = true → Reader.Unbridged (rows (commentOut text).toList) index)
    (read : (Reader.before bridging (rows (commentOut text).toList) index).along line = reader)
    (backslash : line.getLast? = some '\\') (unescaped : reader.place.isAfterUnescaped = true) :
    (rows (commentOut text).toList)[index + 1]? ≠ some next ↔
      (∃ mark, reader.place = .shortEscape mark) ∧ reader.depth = 0 ∧
        (IsCommand next ∨ (({} : Reader).along next).last.map Prod.fst = some '?') := by
  rw [Reader.before_eq unbridged, rows_commentOut] at read
  rw [rows_commentOut] at kept ⊢
  rw [getElem?_commentOutRows_ne_iff follows, Reader.before_succ false kept, read, ← and_assoc]
  apply and_congr_left'
  obtain ⟨place, place_eq, last_eq⟩ := Reader.exists_place_before_backslash read backslash
  -- Only after a backslash in code does the line count as continued; after one in a short string
  -- nothing is left open.
  cases isAt : reader.place with
  | code =>
      rw [isAt] at place_eq
      rw [Place.zone_backslash_eq_code place_eq] at last_eq
      simp [Reader.Starts, Reader.lineFeed, isAt, last_eq]
  | longEscape mark => simp [Reader.Starts, Reader.lineFeed, isAt, Place.afterBreak]
  | shortEscape mark =>
      rw [isAt] at place_eq
      rw [Place.zone_backslash_eq_string place_eq] at last_eq
      simp [Reader.Starts, Reader.lineFeed, isAt, Place.afterBreak, last_eq]
  | _ => simp [isAt, Place.isAfterUnescaped] at unescaped

namespace Sample

/-- A statement and a string over two lines. -/
def continuedLines : String := "s = fmt \\\n  % x\nt = '''a\\\n!b'''"

theorem rows_continuedLines : rows (commentOut continuedLines).toList =
    ["s = fmt \\".toList, "  % x".toList, "t = '''a\\".toList, "!b'''".toList] := by
  decide +kernel

theorem unbridged_continuedLines :
    Reader.Unbridged (rows (commentOut continuedLines).toList) 2 := by
  rw [rows_continuedLines]
  decide +kernel

/-- A string in single marks over two lines. -/
def continuedString : String := "s = 'abc \\\n%d'"

end Sample

theorem changed_after_backslash_iff_sample :
    (rows (commentOut Sample.continuedLines).toList)[3]? = some "!b'''".toList ∧
      (rows (commentOut Sample.continuedString).toList)[1]? ≠ some "%d'".toList := by
  have follows : (rows Sample.continuedLines.toList)[3]? = some "!b'''".toList ∧
      (rows Sample.continuedString.toList)[1]? = some "%d'".toList := by decide +kernel
  constructor
  · have kept : (rows (commentOut Sample.continuedLines).toList)[2]? =
        some "t = '''a\\".toList := by
      rw [Sample.rows_continuedLines]
      rfl
    have read : (Reader.before true (rows (commentOut Sample.continuedLines).toList) 2).along
        "t = '''a\\".toList =
        { place := .longEscape .single, last := some ('\\', .string) } := by
      rw [Sample.rows_continuedLines]
      decide +kernel
    have changed := changed_after_backslash_iff true kept follows.1
      (fun _ => Sample.unbridged_continuedLines) read
      (by decide) rfl
    by_contra differs
    obtain ⟨⟨mark, inShort⟩, -⟩ := changed.mp differs
    nomatch inShort
  · have kept : (rows (commentOut Sample.continuedString).toList)[0]? =
        some "s = 'abc \\".toList := by decide +kernel
    have read : (Reader.before true (rows (commentOut Sample.continuedString).toList) 0).along
        "s = 'abc \\".toList =
        { place := .shortEscape .single, last := some ('\\', .string) } := by decide +kernel
    have changed :=
      changed_after_backslash_iff true kept follows.2 (fun _ => by decide +kernel) read
        (by decide) rfl
    exact changed.mpr ⟨⟨.single, rfl⟩, rfl, .inl (by decide)⟩

/-- The next line is in the string, and it is changed. -/
theorem exists_changed_after_backslash :
    ∃ (text : String) (line next : List Char), (rows text.toList)[0]? = some line ∧
      (rows text.toList)[1]? = some next ∧ (rows (commentOut text).toList)[0]? = some line ∧
      (({} : Reader).along line).place = .shortEscape .single ∧
      (Reader.before true (rows text.toList) 1).place = .short .single ∧
      (rows (commentOut text).toList)[1]? ≠ some next :=
  ⟨Sample.continuedString, "s = 'abc \\".toList, "%d'".toList, by decide +kernel⟩

end NotebookSlice.Magic

import NotebookSlice.Proofs.Magic.Bytes

/-!
# Strings, comments and open lines

A second reading of a program text, one character at a time and without looking ahead. It says for
each character whether it is code, part of a string or part of a comment, how many brackets are
open, and whether a line goes on with the statement of the line before. Replacement fields in a
string are part of its text.

A backslash at the end of a line keeps a string in single marks open, so that it goes on in the next
line. The scanner does not know this: for it, such a string ends with its line. The reading has both
rules, `bridging` tells which one. With the second rule it is the reading of the scanner, on every
text.
-/

namespace NotebookSlice

namespace Text

variable {char : Char}

theorem ne_of_isBlank (blank : isBlank char) (other : Char) (shown : isBlank other = false) :
    char ≠ other := by
  rintro rfl
  exact absurd blank (by rw [shown]; decide)

theorem allBlank_cons (rest : List Char) :
    allBlank (char :: rest) = (isBlank char && allBlank rest) := rfl

theorem getLast?_trimEnd_concat (line : List Char) :
    (trimEnd (line ++ [char])).getLast? =
      if isBlank char then (trimEnd line).getLast? else some char := by
  rw [trimEnd, List.reverse_concat, List.dropWhile_cons]
  split
  · rfl
  · simp

end Text

namespace Magic

open Text

/-! ### Places in a text -/

/-- What a character of a text belongs to. -/
inductive Zone where
  | code
  | string
  | comment
deriving DecidableEq

/-- Where the reading stands between two characters. -/
inductive Place where
  | code
  | comment
  /-- After a mark that opens a string, in single or in triple marks. -/
  | opened (mark : Mark)
  /-- After two such marks: the string is empty unless a third one follows. -/
  | paired (mark : Mark)
  /-- In a string in single marks. -/
  | short (mark : Mark)
  /-- In a string in single marks, after a backslash that is not escaped itself. -/
  | shortEscape (mark : Mark)
  /-- In a string in triple marks, after some marks that can be the start of its end. -/
  | long (mark : Mark) (marks : Nat)
  /-- In a string in triple marks, after a backslash that is not escaped itself. -/
  | longEscape (mark : Mark)
deriving DecidableEq

namespace Place

/-- The zone of a character that stands outside of strings and comments. -/
def zoneInCode (char : Char) : Zone :=
  if char = '#' then .comment else if (Mark.ofChar? char).isSome then .string else .code

/-- The zone of the next character; quotation marks are part of the string, and a `#` of the
comment. -/
def zone : Place → Char → Zone
  | .code, char => zoneInCode char
  | .comment, _ => .comment
  | .paired mark, char => if char = mark.char then .string else zoneInCode char
  | _, _ => .string

/-- The place after a character that stands outside of strings and comments. -/
def afterInCode (char : Char) : Place :=
  if char = '#' then .comment
  else match Mark.ofChar? char with
    | some mark => .opened mark
    | none => .code

/-- The place after a character of a string in single marks. -/
def afterInShort (mark : Mark) (char : Char) : Place :=
  if char = '\\' then .shortEscape mark else if char = mark.char then .code else .short mark

/-- The place after the next character of the line. -/
def after : Place → Char → Place
  | .code, char => afterInCode char
  | .comment, _ => .comment
  | .opened mark, char => if char = mark.char then .paired mark else afterInShort mark char
  | .paired mark, char => if char = mark.char then .long mark 0 else afterInCode char
  | .short mark, char => afterInShort mark char
  | .shortEscape mark, _ => .short mark
  | .long mark marks, char =>
    if char = '\\' then .longEscape mark
    else if char = mark.char then if marks = 2 then .code else .long mark (marks + 1)
    else .long mark 0
  | .longEscape mark, _ => .long mark 0

/-- The place after a line feed. -/
def afterBreak (bridging : Bool) : Place → Place
  | .long mark _ | .longEscape mark => .long mark 0
  | .shortEscape mark => if bridging then .short mark else .code
  | _ => .code

/-- Whether a string that was opened has not been closed. -/
def inString : Place → Bool
  | .opened _ | .short _ | .shortEscape _ | .long _ _ | .longEscape _ => true
  | _ => false

/-- Whether a backslash right before is in code, or in a string and not escaped itself. -/
def isAfterUnescaped : Place → Bool
  | .code | .shortEscape _ | .longEscape _ => true
  | _ => false

/-- Whether the place is in a string in single marks, and not after a backslash. -/
def isShort : Place → Bool
  | .short _ => true
  | _ => false

variable {place : Place} {char : Char}

theorem after_eq_comment (inComment : place.zone char = .comment) :
    place.after char = .comment := by
  have hash : zoneInCode char = .comment → afterInCode char = .comment := by
    intro zone_eq
    by_cases isHash : char = '#'
    · rw [afterInCode, if_pos isHash]
    · rw [zoneInCode, if_neg isHash] at zone_eq
      split at zone_eq <;> contradiction
  cases place with
  | code => exact hash inComment
  | comment => rfl
  | paired mark =>
      rw [zone] at inComment
      rw [after]
      split at inComment
      · contradiction
      · next other => rw [if_neg other, hash inComment]
  | _ => contradiction

theorem ne_mark_of_isBlank (blank : isBlank char) (mark : Mark) : char ≠ mark.char :=
  ne_of_isBlank blank _ (by cases mark <;> decide)

theorem zoneInCode_of_isBlank (blank : isBlank char) : zoneInCode char = .code := by
  have differs := ne_of_isBlank blank
  simp [zoneInCode, Mark.ofChar?, differs '#' (by decide), differs '\x27' (by decide),
    differs '\x22' (by decide)]

theorem afterInCode_of_isBlank (blank : isBlank char) : afterInCode char = .code := by
  have differs := ne_of_isBlank blank
  simp [afterInCode, Mark.ofChar?, differs '#' (by decide), differs '\x27' (by decide),
    differs '\x22' (by decide)]

end Place

/-! ### The reading -/

/-- The number of open brackets after a character of code. -/
def bracketsAfter (depth : Nat) (char : Char) : Nat :=
  if char = '(' || char = '[' || char = '\x7b' then depth + 1
  else if char = ')' || char = ']' || char = '\x7d' then depth - 1
  else depth

/-- What has been read of a text. -/
structure Reader where
  place : Place := .code
  /-- Number of open brackets. -/
  depth : Nat := 0
  /-- The last character of the line so far that is neither blank nor in a comment. -/
  last : Option (Char × Zone) := none
  /-- Whether a backslash in code ends the line before, apart from blank characters. -/
  continued : Bool := false
deriving DecidableEq

namespace Reader

/-- Reads a character that is no line feed. -/
def advance (reader : Reader) (char : Char) : Reader :=
  let zone := reader.place.zone char
  { place := reader.place.after char
    depth := if zone = .code then bracketsAfter reader.depth char else reader.depth
    last := if isBlank char ∨ zone = .comment then reader.last else some (char, zone)
    continued := reader.continued }

/-- Reads the rest of a line. -/
def along (reader : Reader) (line : List Char) : Reader := line.foldl advance reader

/-- Reads a line feed. -/
def lineFeed (bridging : Bool) (reader : Reader) : Reader where
  place := reader.place.afterBreak bridging
  depth := reader.depth
  continued := reader.place ≠ .comment ∧ reader.last = some ('\\', .code)

/-- What has been read before a line of a text. -/
def before (bridging : Bool) (rows : List (List Char)) (index : Nat) : Reader :=
  (rows.take index).foldl (fun reader row => (reader.along row).lineFeed bridging) {}

/-- A statement can start at the line. -/
def Starts (reader : Reader) : Prop :=
  reader.place = .code ∧ reader.depth = 0 ∧ reader.continued = false

instance (reader : Reader) : Decidable reader.Starts := inferInstanceAs (Decidable (_ ∧ _))

theorem along_nil (reader : Reader) : reader.along [] = reader := rfl

theorem along_cons (reader : Reader) (char : Char) (rest : List Char) :
    reader.along (char :: rest) = (reader.advance char).along rest := rfl

theorem along_append (reader : Reader) (line rest : List Char) :
    reader.along (line ++ rest) = (reader.along line).along rest := List.foldl_append

theorem along_comment {reader : Reader} (inComment : reader.place = .comment) (rest : List Char) :
    reader.along rest = reader := by
  have still : ∀ char, reader.advance char = reader := by
    intro char
    rw [advance, inComment]
    simp only [Place.zone, Place.after, ← inComment, reduceCtorEq, if_false, or_true, if_true]
  induction rest with
  | nil => rfl
  | cons char rest ih => rw [along_cons, still, ih]

theorem along_of_comment {reader : Reader} {char : Char}
    (inComment : reader.place.zone char = .comment) (rest : List Char) :
    reader.along (char :: rest) = { reader with place := .comment } := by
  have first : reader.advance char = { reader with place := .comment } := by
    simp [advance, inComment, Place.after_eq_comment inComment]
  rw [along_cons, first, along_comment rfl]

theorem advance_blank {reader : Reader} {char : Char} (inCode : reader.place = .code)
    (blank : isBlank char) :
    reader.advance char = reader := by
  have differs := ne_of_isBlank blank
  have depth_eq : bracketsAfter reader.depth char = reader.depth := by
    simp [bracketsAfter, differs '(' (by decide), differs '[' (by decide),
      differs '\x7b' (by decide), differs ')' (by decide), differs ']' (by decide),
      differs '\x7d' (by decide)]
  rw [advance, inCode, Place.zone, Place.after, Place.zoneInCode_of_isBlank blank,
    Place.afterInCode_of_isBlank blank]
  simp [depth_eq, blank, ← inCode]

theorem along_trimStart {reader : Reader} (inCode : reader.place = .code) (line : List Char) :
    reader.along line = reader.along (trimStart line) := by
  induction line with
  | nil => rfl
  | cons char line ih =>
      rw [trimStart, List.dropWhile_cons]
      split
      · next blank => rw [along_cons, advance_blank inCode blank, ih]; rfl
      · rfl

end Reader

/-! ### The reading of the scanner -/

/-- The scanner with what comes next, and the place of the reading: the scanner looks ahead for
three marks and then passes over two of them, where the reading counts them one after the other.
-/
inductive Tracks (rest : List Char) : Option Mark → Option Mark → Nat → Place → Prop
  | code : Tracks rest none none 0 .code
  | opened {mark : Mark} (alone : ¬ Marks 2 mark rest) :
      Tracks rest none (some mark) 0 (.opened mark)
  | paired {mark : Mark} (alone : ¬ Marks 1 mark rest) : Tracks rest none none 0 (.paired mark)
  | short {mark : Mark} : Tracks rest none (some mark) 0 (.short mark)
  | shortEscape {mark : Mark} : Tracks rest none (some mark) 1 (.shortEscape mark)
  | openedTriple {mark : Mark} (marks : Marks 2 mark rest) :
      Tracks rest (some mark) none 2 (.opened mark)
  | pairedTriple {mark : Mark} (marks : Marks 1 mark rest) :
      Tracks rest (some mark) none 1 (.paired mark)
  | long {mark : Mark} : Tracks rest (some mark) none 0 (.long mark 0)
  | longOne {mark : Mark} (alone : ¬ Marks 2 mark rest) :
      Tracks rest (some mark) none 0 (.long mark 1)
  | longTwo {mark : Mark} (alone : ¬ Marks 1 mark rest) :
      Tracks rest (some mark) none 0 (.long mark 2)
  | longEscape {mark : Mark} : Tracks rest (some mark) none 1 (.longEscape mark)
  | closingOne {mark : Mark} (marks : Marks 2 mark rest) : Tracks rest none none 2 (.long mark 1)
  | closingTwo {mark : Mark} (marks : Marks 1 mark rest) : Tracks rest none none 1 (.long mark 2)

/-- The scanner that has read as much. -/
def Reader.scanner (reader : Reader) (openTriple : Option Mark) (rest : List Char) : Scanner where
  depth := reader.depth
  openTriple := openTriple
  continued := reader.last = some ('\\', .code) ∧ allBlank rest

/-- Where a line starts. -/
def Place.ofTriple : Option Mark → Place
  | none => .code
  | some mark => .long mark 0

/-- What a scanner knows at the start of a line. -/
def Scanner.reader (scanner : Scanner) : Reader where
  place := .ofTriple scanner.openTriple
  depth := scanner.depth
  continued := scanner.continued

theorem Place.after_long_mark {mark : Mark} {marks : Nat} :
    (Place.long mark marks).after mark.char =
      if marks = 2 then .code else .long mark (marks + 1) := by
  rw [Place.after, if_neg mark.char_ne_backslash, if_pos rfl]

namespace Reader

variable {reader : Reader} {char : Char} {rest : List Char} {openTriple quote : Option Mark}
  {pending : Nat}

theorem scanner_advance_of_string (inString : reader.place.zone char = .string) :
    (reader.advance char).scanner openTriple rest = reader.scanner openTriple (char :: rest) := by
  by_cases blank : isBlank char
  · simp [scanner, advance, inString, blank, allBlank_cons]
  · simp [scanner, advance, inString, blank, allBlank_cons]

theorem scanner_advance_of_code (inCode : reader.place.zone char = .code) :
    (reader.advance char).scanner openTriple rest =
      if char = '\\' ∧ allBlank rest then
        { reader.scanner openTriple (char :: rest) with continued := true }
      else (reader.scanner openTriple (char :: rest)).bracket
        (char = '(' || char = '[' || char = '\x7b')
        (char = ')' || char = ']' || char = '\x7d') := by
  have brackets : (reader.advance char).depth = bracketsAfter reader.depth char := by
    simp [advance, inCode]
  by_cases backslash : char = '\\'
  · subst backslash
    have shown : isBlank '\\' = false := by decide
    have last_eq : (reader.advance '\\').last = some ('\\', .code) := by
      simp [advance, inCode, shown]
    by_cases blank : allBlank rest
    · simp [scanner, brackets, last_eq, blank, bracketsAfter]
    · simp [scanner, brackets, last_eq, blank, bracketsAfter, Scanner.bracket, allBlank_cons, shown]
  · have unchanged : ((reader.advance char).last = some ('\\', .code) ∧ allBlank rest = true) ↔
        (reader.last = some ('\\', .code) ∧ allBlank (char :: rest) = true) := by
      by_cases blank : isBlank char
      · simp [advance, inCode, blank, allBlank_cons]
      · simp [advance, inCode, blank, allBlank_cons, backslash]
    simp only [scanner, unchanged, brackets, backslash, false_and, if_false, Scanner.bracket,
      bracketsAfter]
    split_ifs <;> rfl

/-- What the scanner does with a character: it stops at a comment, or goes on with the line as the
reading does. -/
inductive Step (reader : Reader) (openTriple quote : Option Mark) (pending : Nat) (char : Char)
    (rest : List Char) : Prop
  | stop (hash : char = '#') (inComment : reader.place.zone char = .comment)
      (outside : openTriple = none) (walk : ∀ position,
        (reader.scanner openTriple (char :: rest)).scanCharsFrom quote pending position
          (char :: rest) =
          (reader.scanner openTriple (char :: rest), position))
  | go (shown : reader.place.zone char ≠ .comment) (openTriple' quote' : Option Mark)
      (pending' : Nat) (tracks : Tracks rest openTriple' quote' pending' (reader.place.after char))
      (walk : ∀ position,
        (reader.scanner openTriple (char :: rest)).scanCharsFrom quote pending position
          (char :: rest) =
          ((reader.advance char).scanner openTriple' rest).scanCharsFrom quote' pending'
            (position + char.utf8Size) rest)

theorem step_of_string {place after : Place} {openTriple' quote' : Option Mark} {pending' : Nat}
    (isAt : reader.place = place) (inString : place.zone char = .string)
    (after_eq : place.after char = after) (tracks : Tracks rest openTriple' quote' pending' after)
    (walk : ∀ position, (reader.scanner openTriple (char :: rest)).scanCharsFrom quote pending
      position (char :: rest) =
      (reader.scanner openTriple' (char :: rest)).scanCharsFrom quote' pending'
        (position + char.utf8Size) rest) :
    Step reader openTriple quote pending char rest := by
  subst isAt after_eq
  refine .go (by rw [inString]; decide) openTriple' quote' pending' tracks (fun position => ?_)
  rw [walk, scanner_advance_of_string inString]

theorem step_in_code {place : Place} (isAt : reader.place = place)
    (zone_eq : place.zone char = Place.zoneInCode char)
    (after_eq : place.after char = Place.afterInCode char) : Step reader none none 0 char rest := by
  rw [Place.zoneInCode] at zone_eq
  rw [Place.afterInCode] at after_eq
  by_cases hash : char = '#'
  · rw [if_pos hash, ← isAt] at zone_eq
    refine .stop hash zone_eq rfl (fun position => ?_)
    simp only [Scanner.scanCharsFrom, scanner, if_pos hash]
  · rw [if_neg hash] at zone_eq after_eq
    cases marked : Mark.ofChar? char with
    | some mark =>
        have isMark : char = mark.char := Mark.ofChar?_eq_some_iff.mp marked
        rw [marked] at zone_eq after_eq
        by_cases marks : Marks 2 mark rest
        · have tripled : (char :: rest).take 3 = List.replicate 3 mark.char :=
            marks_cons.mpr ⟨isMark, marks⟩
          refine step_of_string isAt zone_eq after_eq (.openedTriple marks) (fun position => ?_)
          simp only [Scanner.scanCharsFrom, scanner, if_neg hash, marked, if_pos tripled]
        · have alone : ¬ (char :: rest).take 3 = List.replicate 3 mark.char :=
            fun tripled => marks (marks_cons.mp tripled).2
          refine step_of_string isAt zone_eq after_eq (.opened marks) (fun position => ?_)
          simp only [Scanner.scanCharsFrom, scanner, if_neg hash, marked, if_neg alone]
    | none =>
        rw [marked, ← isAt] at zone_eq after_eq
        have inCode : reader.place.zone char = .code := zone_eq
        refine .go (by rw [inCode]; decide) none none 0 (after_eq ▸ Tracks.code)
          (fun position => ?_)
        rw [scanner_advance_of_code inCode]
        simp only [Scanner.scanCharsFrom, scanner, if_neg hash, marked]
        split_ifs <;> rfl

theorem step_in_short {mark : Mark} {place : Place} (isAt : reader.place = place)
    (inString : place.zone char = .string)
    (after_eq : place.after char = Place.afterInShort mark char) :
    Step reader none (some mark) 0 char rest := by
  rw [Place.afterInShort] at after_eq
  by_cases backslash : char = '\\'
  · rw [if_pos backslash] at after_eq
    refine step_of_string isAt inString after_eq .shortEscape (fun position => ?_)
    simp only [Scanner.scanCharsFrom, scanner, if_pos backslash]
  · rw [if_neg backslash] at after_eq
    by_cases closes : char = mark.char
    · rw [if_pos closes] at after_eq
      refine step_of_string isAt inString after_eq .code (fun position => ?_)
      simp only [Scanner.scanCharsFrom, scanner, if_neg backslash, if_pos closes]
    · rw [if_neg closes] at after_eq
      refine step_of_string isAt inString after_eq .short (fun position => ?_)
      simp only [Scanner.scanCharsFrom, scanner, if_neg backslash, if_neg closes]

variable {mark : Mark} {marks : Nat}

theorem step_in_long (isAt : reader.place = .long mark marks) (other : char ≠ mark.char) :
    Step reader (some mark) none 0 char rest := by
  have after_eq : (Place.long mark marks).after char =
      if char = '\\' then .longEscape mark else .long mark 0 := by
    rw [Place.after, if_neg other]
  have alone : ¬ (char :: rest).take 3 = List.replicate 3 mark.char :=
    fun tripled => other (marks_cons.mp tripled).1
  by_cases backslash : char = '\\'
  · rw [if_pos backslash] at after_eq
    refine step_of_string isAt rfl after_eq .longEscape (fun position => ?_)
    simp only [Scanner.scanCharsFrom, scanner, if_pos backslash]
  · rw [if_neg backslash] at after_eq
    refine step_of_string isAt rfl after_eq .long (fun position => ?_)
    simp only [Scanner.scanCharsFrom, scanner, if_neg backslash, if_neg alone]

/-- A mark in a string in triple marks that is not the first of three. -/
theorem step_at_mark (isAt : reader.place = .long mark marks) (few : marks ≠ 2)
    (alone : ¬ Marks 2 mark rest)
    (tracks : Tracks rest (some mark) none 0 (.long mark (marks + 1))) :
    Step reader (some mark) none 0 mark.char rest := by
  have single : ¬ (mark.char :: rest).take 3 = List.replicate 3 mark.char :=
    fun tripled => alone (marks_cons.mp tripled).2
  refine step_of_string isAt rfl ?_ tracks (fun position => ?_)
  · rw [Place.after_long_mark, if_neg few]
  · simp only [Scanner.scanCharsFrom, scanner, if_neg mark.char_ne_backslash, if_neg single]

theorem step (tracks : Tracks (char :: rest) openTriple quote pending reader.place) :
    Step reader openTriple quote pending char rest := by
  -- The two differ in when they learn that a mark is one of three: `alone` and `marks` say what the
  -- scanner saw ahead.
  generalize isAt : reader.place = place at tracks
  cases tracks with
  | code => exact step_in_code isAt rfl rfl
  | @opened mark alone =>
      by_cases closes : char = mark.char
      · subst closes
        refine step_of_string isAt rfl (if_pos rfl) (.paired ?_) (fun position => ?_)
        · exact fun more => alone (marks_cons.mpr ⟨rfl, more⟩)
        · simp only [Scanner.scanCharsFrom, scanner, if_neg mark.char_ne_backslash, if_true]
      · exact step_in_short isAt rfl (if_neg closes)
  | @paired mark alone =>
      have other : char ≠ mark.char := fun isMark => alone (marks_cons.mpr ⟨isMark, marks_zero⟩)
      exact step_in_code isAt (if_neg other) (if_neg other)
  | short => exact step_in_short isAt rfl rfl
  | shortEscape => exact step_of_string isAt rfl rfl .short (fun position => rfl)
  | openedTriple marks =>
      obtain ⟨rfl, more⟩ := marks_cons.mp marks
      exact step_of_string isAt rfl (if_pos rfl) (.pairedTriple more) (fun position => rfl)
  | pairedTriple marks =>
      obtain ⟨rfl, -⟩ := marks_cons.mp marks
      exact step_of_string isAt (if_pos rfl) (if_pos rfl) .long (fun position => rfl)
  | @long mark =>
      by_cases isMark : char = mark.char
      · subst isMark
        by_cases more : Marks 2 mark rest
        · have tripled : (mark.char :: rest).take 3 = List.replicate 3 mark.char :=
            marks_cons.mpr ⟨rfl, more⟩
          refine step_of_string isAt rfl Place.after_long_mark (.closingOne more)
            (fun position => ?_)
          simp only [Scanner.scanCharsFrom, scanner, if_neg mark.char_ne_backslash, if_pos tripled]
        · exact step_at_mark isAt (by decide) more (.longOne more)
      · exact step_in_long isAt isMark
  | @longOne mark alone =>
      by_cases isMark : char = mark.char
      · subst isMark
        have single : ¬ Marks 1 mark rest := fun more => alone (marks_cons.mpr ⟨rfl, more⟩)
        exact step_at_mark isAt (by decide) (fun more => single more.of_succ) (.longTwo single)
      · exact step_in_long isAt isMark
  | longTwo alone =>
      exact step_in_long isAt (fun isMark => alone (marks_cons.mpr ⟨isMark, marks_zero⟩))
  | longEscape => exact step_of_string isAt rfl rfl .long (fun position => rfl)
  | closingOne marks =>
      obtain ⟨rfl, more⟩ := marks_cons.mp marks
      exact step_of_string isAt rfl Place.after_long_mark (.closingTwo more) (fun position => rfl)
  | closingTwo marks =>
      obtain ⟨rfl, -⟩ := marks_cons.mp marks
      exact step_of_string isAt rfl Place.after_long_mark .code (fun position => rfl)

/-- At the end of the line the scanner knows what the reading knows after the line feed. -/
theorem reader_scanCharsFrom (tracks : Tracks rest openTriple quote pending reader.place)
    (position : Nat) :
    ((reader.scanner openTriple rest).scanCharsFrom quote pending position rest).1.reader =
      (reader.along rest).lineFeed false := by
  induction rest generalizing reader openTriple quote pending position with
  | nil =>
      -- No marks come after the line, so the scanner is at the place where the reading is.
      have broken : reader.place ≠ .comment ∧
          reader.place.afterBreak false = .ofTriple openTriple := by
        generalize reader.place = place at tracks
        cases tracks with
        | openedTriple marks | pairedTriple marks | closingOne marks | closingTwo marks =>
            exact absurd marks not_marks_nil
        | _ => exact ⟨nofun, rfl⟩
      simp [Scanner.scanCharsFrom, Scanner.reader, scanner, along, lineFeed, allBlank, broken]
  | cons char rest ih =>
      cases step tracks with
      | stop hash inComment outside walk =>
          have shown : isBlank '#' = false := by decide
          rw [walk, along_of_comment inComment, outside, hash]
          simp [Scanner.reader, scanner, lineFeed, Place.afterBreak, Place.ofTriple,
            allBlank_cons, shown]
      | go _ openTriple' quote' pending' tracks walk =>
          rw [walk, along_cons]
          exact ih tracks _

/-- The scanner measures the line up to the last character that the reading shows, apart from blank
ones. -/
theorem getLast?_takeBytes_scanCharsFrom
    (tracks : Tracks rest openTriple quote pending reader.place) (initial : List Char)
    (shown : (trimEnd initial).getLast? = reader.last.map Prod.fst) :
    (trimEnd (Scanner.takeBytes
      ((reader.scanner openTriple rest).scanCharsFrom quote pending
        (Scanner.bytes initial).length rest).2
      (initial ++ rest))).getLast? = (reader.along rest).last.map Prod.fst := by
  induction rest generalizing reader openTriple quote pending initial with
  | nil =>
      rw [Scanner.scanCharsFrom, Scanner.takeBytes_append]
      exact shown
  | cons char rest ih =>
      cases step tracks with
      | stop hash inComment outside walk =>
          rw [walk, Scanner.takeBytes_append, along_of_comment inComment, shown]
      | go notComment openTriple' quote' pending' tracks walk =>
          have shownNext : (trimEnd (initial ++ [char])).getLast? =
              (reader.advance char).last.map Prod.fst := by
            rw [getLast?_trimEnd_concat, shown]
            by_cases blank : isBlank char
            · simp [advance, blank]
            · simp [advance, blank, notComment]
          have next := ih tracks (initial ++ [char]) shownNext
          rw [Scanner.length_bytes_concat, List.append_assoc] at next
          rw [walk, along_cons]
          exact next

end Reader

namespace Scanner

theorem tracks_reader (scanner : Scanner) (row : List Char) :
    Tracks row scanner.openTriple none 0 scanner.reader.place := by
  rw [reader]
  cases scanner.openTriple with
  | none => exact .code
  | some mark => exact .long

theorem scanner_reader (scanner : Scanner) (row : List Char) :
    scanner.reader.scanner scanner.openTriple row = { scanner with continued := false } := by
  simp [reader, Reader.scanner]

/-- A line takes the scanner where it takes the reading, if strings in single marks end with their
lines. -/
theorem reader_scan (scanner : Scanner) (row : List Char) :
    (scanner.scan row).1.reader = (scanner.reader.along row).lineFeed false := by
  rw [scan_eq_scanChars, scanChars, ← scanner_reader scanner row]
  exact Reader.reader_scanCharsFrom (scanner.tracks_reader row) 0

theorem starts_reader_iff {scanner : Scanner} :
    scanner.reader.Starts ↔ scanner.atStatementStart = true := by
  rcases scanner with ⟨depth, _ | mark, continued⟩
  · simp [reader, Place.ofTriple, Reader.Starts, atStatementStart]
  · simp [reader, Place.ofTriple, Reader.Starts, atStatementStart]

theorem reader_eq_of_atStatementStart {scanner : Scanner}
    (starts : scanner.atStatementStart = true) :
    scanner.reader = {} := by
  obtain ⟨place_eq, depth_eq, continued_eq⟩ := starts_reader_iff.mpr starts
  rw [Reader.mk.injEq]
  exact ⟨place_eq, depth_eq, rfl, continued_eq⟩

/-- The last character that the scanner measures, from the start of a statement. -/
theorem getLast?_takeBytes_scan (line : List Char) :
    (trimEnd (takeBytes (scan {} line).2 line)).getLast? =
      (({} : Reader).along line).last.map Prod.fst := by
  rw [scan_eq_scanChars]
  have unread : (trimEnd []).getLast? = ({} : Reader).last.map Prod.fst := rfl
  exact Reader.getLast?_takeBytes_scanCharsFrom .code [] unread

end Scanner

/-! ### Interactive lines -/

/-- The line starts with the character of a magic command. -/
def IsCommand (line : List Char) : Prop :=
  (trimStart line).head? = some '%' ∨ (trimStart line).head? = some '!'

instance (line : List Char) : Decidable (IsCommand line) := inferInstanceAs (Decidable (_ ∨ _))

theorem isInteractive_eq (line : List Char) :
    isInteractive line = if IsCommand line then true
      else (trimEnd
        (Scanner.takeBytes (Scanner.scan {} (trimStart line)).2 (trimStart line))).getLast? =
          some '?' := by
  rw [isInteractive]
  split
  · next percent =>
      have command : IsCommand line := .inl percent
      rw [if_pos command]
  · next exclamation =>
      have command : IsCommand line := .inr exclamation
      rw [if_pos command]
  · next noPercent noExclamation =>
      have plain : ¬ IsCommand line := not_or.mpr ⟨noPercent, noExclamation⟩
      rw [if_neg plain]

theorem isInteractive_iff (line : List Char) :
    isInteractive line = true ↔
      IsCommand line ∨ (({} : Reader).along line).last.map Prod.fst = some '?' := by
  rw [isInteractive_eq, Reader.along_trimStart rfl line, Scanner.getLast?_takeBytes_scan]
  by_cases command : IsCommand line
  · simp [command]
  · simp [command]

end Magic

end NotebookSlice

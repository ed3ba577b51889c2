import Mathlib.Data.Nat.Digits.Defs
import NotebookSlice.Json.Decode
import NotebookSlice.Json.Value

/-!
# Written values can be read

The text of a value is read as the document that the value stands for, if all numbers in it fit into
64 bits. The automaton that finds tokens is followed character by character. Its mode between two
tokens carries no memory, so what it finds in a text is what it finds in a first part, if that part
leaves it between tokens, and then what it finds in the rest. A numeral is the one token that has no
end of its own: what follows it must not continue it.

Reading a value inside open containers amounts to delivering its document to the innermost
container, whatever comes next. This is what the induction over values carries.
-/

namespace NotebookSlice.Json

/-! ### Values as documents -/

namespace Value

mutual

/-- The document of a value. -/
def document : Value → Document
  | .null => .null
  | .bool value => .bool value
  | .natural value => .number (.integer value)
  | .string text => .string text
  | .array items => .array (documents items) none
  | .object entries => .object (documentEntries entries) none

/-- The documents of some values. -/
def documents : List Value → List Document
  | [] => []
  | item :: items => document item :: documents items

/-- The entries of an object as a document. -/
def documentEntries : List (String × Value) → List (Option String × Document)
  | [] => []
  | (key, value) :: entries => (some key, document value) :: documentEntries entries

end

mutual

/-- All numbers in the value fit into 64 bits. -/
def Fits : Value → Prop
  | .natural value => value < UInt64.size
  | .array items => FitAll items
  | .object entries => FitEntries entries
  | _ => True

/-- All numbers in the values fit. -/
def FitAll : List Value → Prop
  | [] => True
  | item :: items => Fits item ∧ FitAll items

/-- All numbers in the entries fit. -/
def FitEntries : List (String × Value) → Prop
  | [] => True
  | (_, value) :: entries => Fits value ∧ FitEntries entries

end

@[simp] theorem documents_eq_map (items : List Value) : documents items = items.map document := by
  induction items with
  | nil => rfl
  | cons item items ih => simp [documents, ih]

@[simp] theorem documentEntries_eq_map (entries : List (String × Value)) :
    documentEntries entries = entries.map fun (key, value) => (some key, value.document) := by
  induction entries with
  | nil => rfl
  | cons entry entries ih => simp [documentEntries, ih]

@[simp] theorem fitAll_iff (items : List Value) : FitAll items ↔ ∀ item ∈ items, item.Fits := by
  induction items with
  | nil => simp [FitAll]
  | cons item items ih => simp [FitAll, ih]

@[simp] theorem fitEntries_iff (entries : List (String × Value)) :
    FitEntries entries ↔ ∀ entry ∈ entries, entry.2.Fits := by
  induction entries with
  | nil => simp [FitEntries]
  | cons entry entries ih => simp [FitEntries, ih]

end Value

/-! ### Tokens of written values -/

namespace Mode

theorem scan_eq_append (mode : Mode) (found : List Token) (chars : List Char) :
    mode.scan found chars = found.reverse ++ mode.scan [] chars := by
  induction chars generalizing mode found with
  | nil => simp [scan]
  | cons char rest ih =>
      simp only [scan, List.append_nil]
      rw [ih, ih _ (mode.step char).1.reverse]
      simp

theorem scan_cons (mode : Mode) (char : Char) (rest : List Char) :
    mode.scan [] (char :: rest) = (mode.step char).1 ++ (mode.step char).2.scan [] rest := by
  simp only [scan, List.append_nil]
  rw [scan_eq_append, List.reverse_reverse]

theorem between_scan_newLine (depth : Nat) (rest : List Char) :
    between.scan [] (Value.newLine depth ++ rest) = between.scan [] rest := by
  have blanks : ∀ count, between.scan [] (List.replicate count ' ' ++ rest) =
      between.scan [] rest := by
    intro count
    induction count with
    | zero => rfl
    | succ count ih => simpa [List.replicate_succ, scan_cons, step, start] using ih
  simpa [Value.newLine, scan_cons, step, start] using blanks (2 * depth)

theorem hexDigitValue_hexDigit : ∀ value < 16,
    Text.hexDigitValue (Value.hexDigit value) = some value ∧
      (Value.hexDigit value).utf8Size = 1 := by
  decide

/-- Four hexadecimal digits inside a string stand for the character with that code. -/
theorem quote_scan_control (reversed : List Char) {char : Char} (control : char < ' ')
    (rest : List Char) :
    (quote { reversed, phase := .hex (some 0) 0 }).scan []
        ('0' :: '0' :: Value.hexDigit (char.toNat / 16) ::
          Value.hexDigit (char.toNat % 16) :: rest) =
      (quote { reversed := char :: reversed }).scan [] rest := by
  have small : char.toNat < 32 := control
  have zero := hexDigitValue_hexDigit 0 (by omega)
  have high := hexDigitValue_hexDigit (char.toNat / 16) (by omega)
  have low := hexDigitValue_hexDigit (char.toNat % 16) (by omega)
  have code : 16 * (char.toNat / 16) + char.toNat % 16 = char.toNat := by omega
  have notHalf : Quote.isFirstHalf char.toNat = false ∧ Quote.isSecondHalf char.toNat = false := by
    simp only [Quote.isFirstHalf, Quote.isSecondHalf, Bool.and_eq_false_iff,
      decide_eq_false_iff_not]
    omega
  rw [show '0' = Value.hexDigit 0 from rfl]
  simp [scan_cons, step, stepQuote, zero, high, low, code, Quote.pushCode, Quote.push, notHalf]

/-- A character is written so that it is read again inside a string. -/
theorem quote_scan_escape (reversed : List Char) (char : Char) (rest : List Char) :
    (quote { reversed }).scan [] (Value.escape char ++ rest) =
      (quote { reversed := char :: reversed }).scan [] rest := by
  unfold Value.escape
  split
  case h_8 =>
    split
    · next control =>
      rw [← quote_scan_control reversed control]
      simp [scan_cons, step, stepQuote]
    · next notQuote notBackslash _ _ _ _ _ printable =>
      simp [scan_cons, step, stepQuote, Quote.push, eq_false notQuote, eq_false notBackslash,
        eq_false printable]
  all_goals simp [scan_cons, step, stepQuote, Quote.escaped?, Quote.push]

theorem quote_scan_flatMap_escape (reversed chars rest : List Char) :
    (quote { reversed }).scan [] (chars.flatMap Value.escape ++ rest) =
      (quote { reversed := chars.reverse ++ reversed }).scan [] rest := by
  induction chars generalizing reversed with
  | nil => rfl
  | cons char chars ih =>
      rw [List.flatMap_cons, List.append_assoc, quote_scan_escape, ih]
      simp

theorem between_scan_writeString (text : String) (rest : List Char) :
    between.scan [] (Value.writeString text ++ rest) =
      .string (some text) :: between.scan [] rest := by
  simp [Value.writeString, scan_cons, step, start, quote_scan_flatMap_escape,
    stepQuote, Quote.text?]

theorem digitsValue_digits (value : Nat) : digitsValue (Number.digits value) = value := by
  rw [digitsValue, Number.digits, ← Nat.ofDigitChars_eq_foldl, Nat.ofDigitChars_ten_toDigits]

theorem numeralToken_digits {value : Nat} (small : value < UInt64.size) :
    numeralToken { integer := Number.digits value } = .scalar (.number (.integer value)) := by
  simp [numeralToken, Numeral.value?, digitsValue_digits, small]

/-- The text does not continue a numeral: it is at its end, or goes on with a comma or a new
line. -/
def Separates (rest : List Char) : Prop :=
  rest = [] ∨ (∃ tail, rest = ',' :: tail) ∨ ∃ tail, rest = '\n' :: tail

theorem numeral_scan_rest {digits rest : List Char} (some : digits ≠ [])
    (separates : Separates rest) :
    (numeral { integer := digits }).scan [] rest =
      numeralToken { integer := digits } :: between.scan [] rest := by
  have complete : Numeral.isComplete { integer := digits } = true := by
    simpa [Numeral.isComplete] using some
  rcases separates with rfl | ⟨tail, rfl⟩ | ⟨tail, rfl⟩
  · simp [scan, finish, complete]
  · simp [scan_cons, step, stepNumeral, Numeral.extend?, complete, start]
  · simp [scan_cons, step, stepNumeral, Numeral.extend?, complete, start]

theorem numeral_scan_digits {first : Char} (notZero : first ≠ '0') (read digits rest : List Char)
    (areDigits : ∀ digit ∈ digits, digit.isDigit = true) :
    (numeral { integer := first :: read }).scan [] (digits ++ rest) =
      (numeral { integer := first :: read ++ digits }).scan [] rest := by
  induction digits generalizing read with
  | nil => simp
  | cons digit digits ih =>
      have isDigit : digit.isDigit = true := areDigits digit (by simp)
      have others := ih (read ++ [digit]) fun other member => areDigits other (by simp [member])
      simpa [scan_cons, step, stepNumeral, Numeral.extend?, isDigit, notZero] using others

theorem start_of_isDigit {char : Char} (isDigit : char.isDigit = true) :
    start char = ([], numeral { integer := [char] }) := by
  unfold start
  split
  case h_16 => simp [isDigit]
  all_goals exact absurd isDigit (by decide)

theorem digits_ne_nil (value : Nat) : Number.digits value ≠ [] := Nat.toDigits_ne_nil

theorem digitChar_ne_zero : ∀ value < 10, 0 < value → value.digitChar ≠ '0' := by decide

theorem head?_digits_ne_zero {value : Nat} (positive : 0 < value) :
    (Number.digits value).head? ≠ some '0' := by
  induction value using Nat.strongRecOn with
  | ind value ih =>
      rw [Number.digits, Nat.toDigits_eq_if (by omega)]
      split
      · next small => simpa using digitChar_ne_zero value small positive
      · have shorter := ih (value / 10) (by omega) (by omega)
        rwa [List.head?_append, Option.or_of_isSome (by simp)]

theorem between_scan_digits (value : Nat) (rest : List Char) :
    between.scan [] (Number.digits value ++ rest) =
      (numeral { integer := Number.digits value }).scan [] rest := by
  rcases Nat.eq_zero_or_pos value with rfl | positive
  · simp [Number.digits, scan_cons, step, start_of_isDigit]
  · have notZero := head?_digits_ne_zero positive
    have areDigits : ∀ digit ∈ Number.digits value, digit.isDigit = true :=
      fun digit => Nat.isDigit_of_mem_toDigits (by omega) (by omega)
    cases shown : Number.digits value with
    | nil => exact absurd shown (digits_ne_nil value)
    | cons first others =>
        rw [shown] at notZero areDigits
        rw [List.cons_append, scan_cons, step, start_of_isDigit (areDigits first (by simp)),
          List.nil_append, numeral_scan_digits (by simpa using notZero) [] others rest]
        · rfl
        · intro digit member
          exact areDigits digit (by simp [member])

theorem between_scan_natural {value : Nat} (small : value < UInt64.size) {rest : List Char}
    (separates : Separates rest) :
    between.scan [] (Number.digits value ++ rest) =
      .scalar (.number (.integer value)) :: between.scan [] rest := by
  rw [between_scan_digits, numeral_scan_rest (digits_ne_nil value) separates,
    numeralToken_digits small]

end Mode

/-! ### Documents of written values -/

open Value Mode

/-- What is read after a move, from the tokens that are left. -/
def Move.resume : Move → List Token → Reading
  | .go expected stack, rest => build expected stack rest
  | .finished document, rest => ⟨document, !rest.isEmpty⟩
  | .stopped document, _ => ⟨document, false⟩

theorem build_cons (expected : Expected) (stack : List Frame) (token : Token) (rest : List Token) :
    build expected stack (token :: rest) = (advance expected stack token).resume rest := by
  rw [build]
  cases advance expected stack token <;> rfl

theorem separates_newLine (depth : Nat) (rest : List Char) : Separates (newLine depth ++ rest) :=
  Or.inr (Or.inr ⟨_, rfl⟩)

theorem separates_writeItems (depth : Nat) (items : List Value) {rest : List Char}
    (separates : Separates rest) :
    Separates (writeItems depth items ++ rest) := by
  cases items with
  | nil => exact separates
  | cons item items => exact Or.inr (Or.inl ⟨_, rfl⟩)

theorem separates_writeEntries (depth : Nat) (entries : List (String × Value)) {rest : List Char}
    (separates : Separates rest) : Separates (writeEntries depth entries ++ rest) := by
  cases entries with
  | nil => exact separates
  | cons entry entries => exact Or.inr (Or.inl ⟨_, rfl⟩)

/-- A value may stand where the given thing is expected. -/
def Expected.admitsValue (expected : Expected) : Prop := expected = .value ∨ expected = .firstItem

theorem advance_eq_startValue {expected : Expected} (admits : expected.admitsValue)
    (stack : List Frame) {token : Token} (opens : token ≠ .mark .closeArray) :
    advance expected stack token = startValue expected stack token := by
  rcases admits with rfl | rfl
  · rfl
  · cases token with
    | mark mark => cases mark <;> first | rfl | exact absurd rfl opens
    | _ => rfl

section Moves

variable {expected : Expected} (stack outer : List Frame) (tokens : List Token)

theorem build_openArray (admits : expected.admitsValue) :
    build expected stack (.mark .openArray :: tokens) =
      build .firstItem (.array [] :: stack) tokens := by
  rw [build_cons, advance_eq_startValue admits stack (by simp)]
  rfl

theorem build_openObject (admits : expected.admitsValue) :
    build expected stack (.mark .openObject :: tokens) =
      build .firstKey (.object [] :: stack) tokens := by
  rw [build_cons, advance_eq_startValue admits stack (by simp)]
  rfl

theorem build_closeArray (items : List Document)
    (mayClose : expected = .firstItem ∨ expected = .next) :
    build expected (.array items :: outer) (.mark .closeArray :: tokens) =
      (deliver (.array items.reverse none) outer).resume tokens := by
  rcases mayClose with rfl | rfl <;> exact build_cons _ _ _ _

theorem build_closeObject (entries : List (Option String × Document))
    (mayClose : expected = .firstKey ∨ expected = .next) :
    build expected (.object entries :: outer) (.mark .closeObject :: tokens) =
      (deliver (.object entries.reverse none) outer).resume tokens := by
  rcases mayClose with rfl | rfl <;> exact build_cons _ _ _ _

theorem build_key (entries : List (Option String × Document)) (name : String)
    (mayStart : expected = .key ∨ expected = .firstKey) :
    build expected (.object entries :: outer) (.string (some name) :: .mark .colon :: tokens) =
      build .value (.entry entries (some name) :: outer) tokens := by
  rcases mayStart with rfl | rfl <;> rfl

theorem resume_deliver_array (value : Document) (items : List Document) :
    (deliver value (.array items :: outer)).resume tokens =
      build .next (.array (value :: items) :: outer) tokens :=
  rfl

theorem resume_deliver_entry (value : Document) (entries : List (Option String × Document))
    (key : Option String) :
    (deliver value (.entry entries key :: outer)).resume tokens =
      build .next (.object ((key, value) :: entries) :: outer) tokens :=
  rfl

end Moves

/-- A key with its colon is read as the start of an entry. -/
theorem build_writeKey {expected : Expected} (mayStart : expected = .key ∨ expected = .firstKey)
    (entries : List (Option String × Document)) (outer : List Frame) (name : String)
    (rest : List Char) :
    build expected (.object entries :: outer)
      (between.scan [] (writeString name ++ ':' :: ' ' :: rest)) =
      build .value (.entry entries (some name) :: outer) (between.scan [] rest) := by
  rw [between_scan_writeString, ← build_key outer _ entries name mayStart]
  simp [scan_cons, step, start]

mutual

theorem build_write (value : Value) (fits : value.Fits) {expected : Expected}
    (admits : expected.admitsValue) (depth : Nat) (stack : List Frame) {rest : List Char}
    (separates : Separates rest) :
    build expected stack (between.scan [] (write depth value ++ rest)) =
      (deliver value.document stack).resume (between.scan [] rest) := by
  cases value with
  | null =>
      simp [write, scan_cons, step, start, build_cons, advance_eq_startValue admits,
        startValue, document]
  | bool value =>
      cases value <;>
        simp [write, scan_cons, step, start, build_cons, advance_eq_startValue admits,
          startValue, document]
  | natural value =>
      rw [write, between_scan_natural fits separates, build_cons,
        advance_eq_startValue admits _ (by simp)]
      rfl
  | string text =>
      rw [write, between_scan_writeString, build_cons, advance_eq_startValue admits _ (by simp)]
      rfl
  | array items =>
      cases items with
      | nil =>
          simp [write, scan_cons, step, start, build_openArray _ _ admits, build_closeArray,
            document, documents]
      | cons item items =>
          have first := build_write item fits.1 (Or.inr rfl) (depth + 1) (.array [] :: stack)
            (separates_writeItems (depth + 1) items (separates_newLine depth (']' :: rest)))
          have others := build_writeItems items fits.2 (depth + 1) [item.document] stack
            (separates_newLine depth (']' :: rest))
          simp only [write, List.cons_append, List.append_assoc, scan_cons, step, start,
            List.nil_append]
          rw [build_openArray _ _ admits, between_scan_newLine, first, resume_deliver_array, others,
            between_scan_newLine]
          simp [scan_cons, step, start, build_closeArray, document]
  | object entries =>
      cases entries with
      | nil =>
          simp [write, scan_cons, step, start, build_openObject _ _ admits,
            build_closeObject, document]
      | cons entry entries =>
          rcases entry with ⟨key, value⟩
          have first :=
            build_write value fits.1 (Or.inl rfl) (depth + 1) (.entry [] (some key) :: stack)
            (separates_writeEntries (depth + 1) entries (separates_newLine depth ('\x7d' :: rest)))
          have others :=
            build_writeEntries entries fits.2 (depth + 1) [(some key, value.document)] stack
            (separates_newLine depth ('\x7d' :: rest))
          simp only [write, List.cons_append, List.append_assoc, scan_cons, step, start,
            List.nil_append]
          rw [build_openObject _ _ admits, between_scan_newLine, build_writeKey (Or.inr rfl), first,
            resume_deliver_entry, others, between_scan_newLine]
          simp [scan_cons, step, start, build_closeObject, document]

theorem build_writeItems (items : List Value) (fits : FitAll items) (depth : Nat)
    (known : List Document) (outer : List Frame) {rest : List Char} (separates : Separates rest) :
    build .next (.array known :: outer) (between.scan [] (writeItems depth items ++ rest)) =
      build .next (.array ((documents items).reverse ++ known) :: outer)
        (between.scan [] rest) := by
  cases items with
  | nil => rfl
  | cons item items =>
      have first := build_write item fits.1 (Or.inl rfl) depth (.array known :: outer)
        (separates_writeItems depth items separates)
      have others := build_writeItems items fits.2 depth (item.document :: known) outer separates
      simp only [writeItems, List.cons_append, List.append_assoc, scan_cons, step, start,
        List.nil_append]
      rw [build_cons]
      simp only [advance, Move.resume]
      rw [between_scan_newLine, first, resume_deliver_array, others]
      simp

theorem build_writeEntries (entries : List (String × Value))
    (fits : FitEntries entries) (depth : Nat) (known : List (Option String × Document))
    (outer : List Frame) {rest : List Char} (separates : Separates rest) :
    build .next (.object known :: outer) (between.scan [] (writeEntries depth entries ++ rest)) =
      build .next (.object ((documentEntries entries).reverse ++ known) :: outer)
        (between.scan [] rest) := by
  cases entries with
  | nil => rfl
  | cons entry entries =>
      rcases entry with ⟨key, value⟩
      have first := build_write value fits.1 (Or.inl rfl) depth (.entry known (some key) :: outer)
        (separates_writeEntries depth entries separates)
      have others :=
        build_writeEntries entries fits.2 depth
          ((some key, value.document) :: known) outer separates
      simp only [writeEntries, List.cons_append, List.append_assoc, scan_cons, step, start,
        List.nil_append]
      rw [build_cons]
      simp only [advance, Move.resume]
      rw [between_scan_newLine, build_writeKey (Or.inl rfl), first, resume_deliver_entry, others]
      simp

end

/-- The text of a value is read as its document, with nothing after it but perhaps the end of the
line. -/
theorem read_pretty_append {value : Value} (fits : value.Fits) {ending : String}
    (ends : ending = "" ∨ ending = "\n") :
    read (value.pretty ++ ending) = ⟨value.document, false⟩ := by
  have separates : Separates ending.toList := by
    rcases ends with rfl | rfl
    · exact Or.inl rfl
    · exact Or.inr (Or.inr ⟨[], rfl⟩)
  have nothing : between.scan [] ending.toList = [] := by
    rcases ends with rfl | rfl <;> rfl
  rw [read, tokens, pretty, String.toList_append, String.toList_ofList,
    build_write value fits (Or.inl rfl) 0 [] separates, nothing]
  rfl

theorem decode_pretty_append {α : Type} (decoder : Decoder α) {value : Value} (fits : value.Fits)
    {ending : String} (ends : ending = "" ∨ ending = "\n") :
    decode decoder (value.pretty ++ ending) = decoder { origin := .text } value.document := by
  rw [decode, read_pretty_append fits ends]
  simp

theorem decode_pretty {α : Type} (decoder : Decoder α) {value : Value} (fits : value.Fits) :
    decode decoder value.pretty = decoder { origin := .text } value.document := by
  simpa using decode_pretty_append decoder fits (Or.inl rfl)

end NotebookSlice.Json

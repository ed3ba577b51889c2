import NotebookSlice.Decimal.Shortest

/-!
# Numbers of JSON texts

A numeral without a fraction and without an exponent is an integer if it fits into 64 bits. All
other numerals stand for doubles: their leading digits, as far as they fit into 64 bits, are scaled
by a power of ten. A numeral beyond the largest double has no value.
-/

namespace NotebookSlice.Json

/-- The value of a numeral. -/
inductive Number where
  | integer (value : Int)
  /-- A double, by its bits. -/
  | double (bits : UInt64)
deriving DecidableEq, Repr, Inhabited

/-- A numeral by its parts; digits are kept in the order of the text. -/
structure Numeral where
  negative : Bool := false
  integer : List Char := []
  fraction : Option (List Char) := none
  /-- Whether the exponent is negative, and its digits. -/
  exponent : Option (Bool × List Char) := none
deriving DecidableEq, Repr, Inhabited

/-- The value of decimal digits. -/
def digitsValue (digits : List Char) : Nat :=
  digits.foldl (fun value digit => 10 * value + (digit.toNat - '0'.toNat)) 0

/-- Digits that were read so far, as many as fit into 64 bits, and the power of ten they are scaled
by. -/
structure Leading where
  significand : Nat := 0
  exponent : Int := 0
  /-- Whether a digit did not fit, so that later digits no longer count. -/
  full : Bool := false
deriving DecidableEq, Repr, Inhabited

namespace Leading

/-- Whether a digit can be added. -/
def fits (leading : Leading) (digit : Nat) : Bool :=
  !leading.full && 10 * leading.significand + digit < UInt64.size

/-- Adds a digit before the decimal point; a digit that does not fit counts as a zero. -/
def addInteger (leading : Leading) (digit : Char) : Leading :=
  let digit := digit.toNat - '0'.toNat
  if leading.fits digit then { leading with significand := 10 * leading.significand + digit }
  else { leading with exponent := leading.exponent + 1, full := true }

/-- Adds a digit after the decimal point; a digit that does not fit is dropped, and all later
ones. -/
def addFraction (leading : Leading) (digit : Char) : Leading :=
  let digit := digit.toNat - '0'.toNat
  if leading.fits digit then
    { leading with
      significand := 10 * leading.significand + digit, exponent := leading.exponent - 1 }
  else { leading with full := true }

end Leading

/-- The double `significand * 10 ^ exponent`, computed by one multiplication or by divisions, unless
it is too large. -/
def scale? (significand : Nat) (exponent : Int) : Option Float :=
  let start := significand.toUInt64.toFloat
  if exponent ≥ 0 then
    if significand = 0 then some start
    else if exponent > 308 then none
    else
      let result := start * Float.ofScientific 1 false exponent.toNat
      if result.isInf then none else some result
  else some (divide start (-exponent).toNat 4)
where
  /-- Divides by a power of ten, at most `10 ^ 308` at a time. -/
  divide (value : Float) (exponent : Nat) : Nat → Float
    | 0 => 0
    | steps + 1 =>
      if exponent ≤ 308 then value / Float.ofScientific 1 false exponent
      else divide (value / Float.ofScientific 1 false 308) (exponent - 308) steps

namespace Numeral

/-- The double that the numeral stands for. -/
def double? (numeral : Numeral) : Option Float :=
  let whole := numeral.integer.foldl Leading.addInteger {}
  -- Once a digit before the point did not fit, those after it may be tried again.
  let leading := (numeral.fraction.getD []).foldl Leading.addFraction { whole with full := false }
  let exponent := match numeral.exponent with
    | none => 0
    | some (negative, digits) =>
      if negative then -(digitsValue digits : Int) else digitsValue digits
  (scale? leading.significand (leading.exponent + exponent)).map fun value =>
    if numeral.negative then -value else value

/-- The value of the numeral; none if it is too large. -/
def value? (numeral : Numeral) : Option Number :=
  let whole := digitsValue numeral.integer
  let isInteger := numeral.fraction.isNone && numeral.exponent.isNone
  if isInteger && !numeral.negative && whole < UInt64.size then some (.integer whole)
  else if isInteger && numeral.negative && 0 < whole && whole ≤ Nat.pow 2 63 then
    some (.integer (-whole))
  else numeral.double?.map fun value => .double value.toBits

end Numeral

namespace Number

/-- The decimal digits of a natural number. -/
def digits (value : Nat) : List Char := Nat.toDigits 10 value

/-- An exponent with its sign and at least two digits. -/
def exponentText (exponent : Int) : String :=
  let size := digits exponent.natAbs
  (if exponent < 0 then "-" else "+") ++
    String.ofList (if size.length < 2 then '0' :: size else size)

/-- How a decimal is written: by its places when its first digit stands at most four places after
the point and at most sixteen before it, otherwise with an exponent. -/
def decimalText (decimal : Decimal.Expansion) : String :=
  let shown := digits decimal.digits
  let first : Int := decimal.exponent + shown.length - 1
  if first < -4 || 15 < first then
    match shown with
    | [] => ""
    | digit :: [] => digit.toString ++ "e" ++ exponentText first
    | digit :: others => digit.toString ++ "." ++ String.ofList others ++ "e" ++ exponentText first
  else if decimal.exponent ≥ 0 then
    String.ofList (shown ++ List.replicate decimal.exponent.toNat '0') ++ ".0"
  else if first < 0 then
    "0." ++ String.ofList (List.replicate (-first - 1).toNat '0' ++ shown)
  else
    String.ofList (shown.take (first.toNat + 1)) ++ "." ++
      String.ofList (shown.drop (first.toNat + 1))

/-- The text of a finite double. -/
def doubleText (bits : UInt64) : String :=
  (if bits.toNat ≥ Nat.pow 2 63 then "-" else "") ++ decimalText (Decimal.shortest bits)

end Number

end NotebookSlice.Json

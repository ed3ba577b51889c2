/-!
# Shortest decimals

The decimal that stands for a double-precision number is the shortest one that rounds to it; of
several of that length it is the one nearest to the number. The number is given by its bits.
-/

namespace NotebookSlice.Decimal

/-- A positive number as a quotient of natural numbers. -/
structure Quotient where
  numerator : Nat
  denominator : Nat
deriving DecidableEq, Repr, Inhabited

namespace Quotient

/-- The number `mantissa * base ^ exponent`. -/
def scaled (mantissa base : Nat) (exponent : Int) : Quotient :=
  if exponent ≥ 0 then ⟨mantissa * base.pow exponent.toNat, 1⟩
  else ⟨mantissa, base.pow (-exponent).toNat⟩

/-- Whether a number is less than another. -/
def less (first second : Quotient) : Bool :=
  first.numerator * second.denominator < second.numerator * first.denominator

/-- The distance of two numbers. -/
def distance (first second : Quotient) : Quotient :=
  let left := first.numerator * second.denominator
  let right := second.numerator * first.denominator
  ⟨max left right - min left right, first.denominator * second.denominator⟩

end Quotient

/-- The parts of a positive double: it is `mantissa * 2 ^ exponent`, and the doubles below it may be
nearer than those above it. -/
structure Parts where
  mantissa : Nat
  exponent : Int
  closeBelow : Bool
deriving DecidableEq, Repr, Inhabited

namespace Parts

/-- The parts of the double with the given bits, the sign aside. -/
def ofBits (bits : UInt64) : Parts :=
  let fraction : Nat := bits.toNat % Nat.pow 2 52
  let biased : Nat := bits.toNat / Nat.pow 2 52 % Nat.pow 2 11
  if biased = 0 then ⟨fraction, -1074, false⟩
  else ⟨Nat.pow 2 52 + fraction, (biased : Int) - 1075, fraction = 0 && biased > 1⟩

/-- The number itself. -/
def value (parts : Parts) : Quotient := .scaled parts.mantissa 2 parts.exponent

/-- Whether a number rounds to the double: it lies between the midpoints to the neighbours, and a
midpoint counts when the mantissa is even. -/
def attracts (parts : Parts) (number : Quotient) : Bool :=
  let above := Quotient.scaled (2 * parts.mantissa + 1) 2 (parts.exponent - 1)
  let below :=
    if parts.closeBelow then Quotient.scaled (4 * parts.mantissa - 1) 2 (parts.exponent - 2)
    else Quotient.scaled (2 * parts.mantissa - 1) 2 (parts.exponent - 1)
  if parts.mantissa % 2 = 0 then !number.less below && !above.less number
  else below.less number && number.less above

end Parts

/-- A decimal, which writes the number `digits * 10 ^ exponent`. -/
structure Expansion where
  digits : Nat
  exponent : Int
deriving DecidableEq, Repr, Inhabited

namespace Expansion

/-- The number that the decimal writes. -/
def value (decimal : Expansion) : Quotient := .scaled decimal.digits 10 decimal.exponent

end Expansion

/-- The decimals of a given exponent next to a number, below and above. -/
def neighbours (number : Quotient) (exponent : Int) : List Expansion :=
  let steps :=
    if exponent ≥ 0 then number.numerator / (number.denominator * Nat.pow 10 exponent.toNat)
    else number.numerator * Nat.pow 10 (-exponent).toNat / number.denominator
  [⟨steps, exponent⟩, ⟨steps + 1, exponent⟩]

/-- The best decimal of a given exponent that rounds to the double. -/
def bestAt? (parts : Parts) (exponent : Int) : Option Expansion :=
  match (neighbours parts.value exponent).filter fun decimal => parts.attracts decimal.value with
  | [] => none
  | [decimal] => some decimal
  | low :: high :: _ =>
    let below := parts.value.distance low.value
    let above := parts.value.distance high.value
    if above.less below || (!below.less above && low.digits % 2 = 1) then some high else some low

/-- The best decimal among the exponents from the given one downwards. -/
def searchFrom (parts : Parts) (exponent : Int) : Nat → Expansion
  | 0 => ⟨0, 0⟩
  | fuel + 1 =>
    match bestAt? parts exponent with
    | some decimal => decimal
    | none => searchFrom parts (exponent - 1) fuel

/-- The shortest decimal that rounds to the positive double with the given bits. -/
def shortest (bits : UInt64) : Expansion :=
  let parts := Parts.ofBits bits
  if parts.mantissa = 0 then ⟨0, 0⟩ else searchFrom parts 309 700

end NotebookSlice.Decimal

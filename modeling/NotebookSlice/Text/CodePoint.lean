/-!
# Tables of code points

A property of characters is given by a table in the notation of the Unicode data files: single code
points and ranges, in ascending order, in hexadecimal digits.
-/

namespace NotebookSlice.Text

/-- The value of a hexadecimal digit. -/
def hexDigitValue (char : Char) : Option Nat :=
  if '0' ≤ char && char ≤ '9' then some (char.toNat - '0'.toNat)
  else if 'A' ≤ char && char ≤ 'F' then some (char.toNat - 'A'.toNat + 10)
  else if 'a' ≤ char && char ≤ 'f' then some (char.toNat - 'a'.toNat + 10)
  else none

/-- The number that hexadecimal digits write; other characters count as zero digits. -/
def hexValue (digits : List Char) : Nat :=
  digits.foldl (fun value digit => 16 * value + (hexDigitValue digit).getD 0) 0

/-- Reads the rows of a table of code points as ranges with both ends included. -/
def readRanges (rows : List String) : Array (Nat × Nat) :=
  ((rows.flatMap (·.splitOn " ")).map fun entry =>
    match entry.splitOn ".." with
    | [low, high] => (hexValue low.toList, hexValue high.toList)
    | _ => (hexValue entry.toList, hexValue entry.toList)).toArray

/-- Looks for a code point in ranges in ascending order, between two indices, by halving. -/
def inRanges (ranges : Array (Nat × Nat)) (code : Nat) : Nat → Nat → Nat → Bool
  | 0, _, _ => false
  | fuel + 1, low, high =>
    if low ≥ high then false else
    let middle := (low + high) / 2
    let range := ranges.getD middle (0, 0)
    if code < range.1 then inRanges ranges code fuel low middle
    else if range.2 < code then inRanges ranges code fuel (middle + 1) high
    else true

end NotebookSlice.Text

import ApiWiring.Json.Basic

/-!
# Numbers in JSON text

A number is read digit by digit. A whole number that fits 64 bits, signed when negative, is an
integer. Every other number is the double nearest to what is written, a tie going to the even
significand; a number beyond the largest double stands for no value.
-/
namespace ApiWiring.Json

/-- A number as it is written. -/
structure Numeral where
  /-- Whether a minus sign stands in front. -/
  negative : Bool
  /-- The digits before the point. -/
  whole : List Nat
  /-- The digits after the point; empty when there is no point. -/
  fraction : List Nat
  /-- The exponent, if there is one: whether it is below zero, and its digits. -/
  power : Option (Bool × List Nat)
deriving DecidableEq, Repr

namespace Numeral

/-- The greatest whole number of 64 bits. -/
def greatestWhole : Nat := Nat.pow 2 64 - 1

/-- The greatest power of ten that a double reaches. -/
def greatestTen : Int := 308

/-- The least power of ten below which every number is nearest to zero. -/
def leastTen : Int := -324

/-- The natural that digits name. -/
def natural (digits : List Nat) : Nat := digits.foldl (fun value digit => 10 * value + digit) 0

/-- The power of ten behind the digits of the number when they are read as one natural. -/
def shift (numeral : Numeral) : Int :=
  let power : Int := match numeral.power with
    | none => 0
    | some (below, digits) => if below then -natural digits else natural digits
  power - numeral.fraction.length

/-- The double nearest to a natural times a power of ten; `none` when it is out of range. Powers far
out of range are told by the number of digits alone. -/
def scaled (significand : Nat) (power : Int) : Option Binary64 :=
  let leading : Int := power + (Nat.toDigits 10 significand).length - 1
  if significand = 0 || leading < leastTen then some Binary64.zero
  else if greatestTen < leading then none
  else Binary64.round (significand * Nat.pow 10 power.toNat) (Nat.pow 10 (-power).toNat)

/-- The number as a double. -/
def double? (numeral : Numeral) : Option Binary64 := do
  let magnitude ← scaled (natural (numeral.whole ++ numeral.fraction)) numeral.shift
  some (if numeral.negative then magnitude.negate else magnitude)

/-- The number as an integer, when it is written as one that fits 64 bits. -/
def integer? (numeral : Numeral) : Option Int :=
  if numeral.fraction.isEmpty && numeral.power.isNone then
    let value := natural numeral.whole
    if !numeral.negative then if value ≤ greatestWhole then some value else none
    else if 0 < value && value ≤ Nat.pow 2 63 then some (-value)
    else none
  else none

/-- The value of the number. -/
def value (numeral : Numeral) : Json :=
  match numeral.integer? with
  | some n => .int n
  | none => match numeral.double? with
    | some x => .float x
    | none => .unreadable

end Numeral

end ApiWiring.Json

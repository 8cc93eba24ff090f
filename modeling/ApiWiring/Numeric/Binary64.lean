/-!
# Double-precision numbers

A finite number of the binary double format as a sign, a significand and a power of two, so that
its value is `significand * 2 ^ exponent` exactly. A ratio of naturals is rounded once (`round`): to
the nearest number of the format, a tie to the even significand. A ratio beyond the largest finite
number is rounded to none.
-/
namespace ApiWiring

/-- A finite double-precision number. -/
structure Binary64 where
  /-- Whether the number is below zero, or is the negative zero. -/
  negative : Bool
  /-- The significand, below `2 ^ 53`. -/
  significand : Nat
  /-- The power of two that the significand counts. -/
  exponent : Int
deriving DecidableEq, Repr

namespace Binary64

/-- The least power of two of the format. -/
def leastExponent : Int := -1074

/-- The greatest power of two of the format. -/
def greatestExponent : Int := 971

/-- The number zero. -/
def zero : Binary64 := ⟨false, 0, leastExponent⟩

/-- Whether the number is zero, of either sign. -/
def isZero (x : Binary64) : Bool := x.significand == 0

/-- The number with the other sign. -/
def negate (x : Binary64) : Binary64 := { x with negative := !x.negative }

/-- The quotient rounded to the nearest natural, a tie to the even one. -/
def roundedQuotient (numerator denominator : Nat) : Nat :=
  let quotient := numerator / denominator
  let twice := 2 * (numerator % denominator)
  if twice < denominator || (twice == denominator && quotient % 2 == 0) then quotient
  else quotient + 1

/-- The power of two at which the ratio has a significand of 53 bits, or the least power where it
has fewer. -/
def scaleOf (numerator denominator : Nat) : Int :=
  let bits : Int := (numerator.log2 : Int) - denominator.log2
  let reached :=
    if 0 ≤ bits then denominator * Nat.pow 2 bits.toNat ≤ numerator
    else denominator ≤ numerator * Nat.pow 2 (-bits).toNat
  max (if reached then bits - 52 else bits - 53) leastExponent

/-- The number of the format nearest to a non-negative ratio. -/
def round (numerator denominator : Nat) : Option Binary64 :=
  if numerator = 0 then some zero
  else
    let scale := scaleOf numerator denominator
    let significand :=
      roundedQuotient (numerator * Nat.pow 2 (-scale).toNat) (denominator * Nat.pow 2 scale.toNat)
    let (significand, scale) :=
      if significand = Nat.pow 2 53 then (Nat.pow 2 52, scale + 1) else (significand, scale)
    if greatestExponent < scale then none else some ⟨false, significand, scale⟩

/-- A rounded quotient is within half a unit of the quotient. -/
theorem roundedQuotient_near (n d : Nat) (positive : 0 < d) :
    2 * n ≤ 2 * (roundedQuotient n d * d) + d ∧ 2 * (roundedQuotient n d * d) ≤ 2 * n + d := by
  have split := Nat.div_add_mod n d
  have bound := Nat.mod_lt n positive
  simp only [roundedQuotient]
  have commuted : n / d * d = d * (n / d) := Nat.mul_comm _ _
  split
  · rename_i small
    simp only [Bool.or_eq_true, decide_eq_true_eq, Bool.and_eq_true, beq_iff_eq] at small
    omega
  · rename_i large
    simp only [Bool.or_eq_true, decide_eq_true_eq, Bool.and_eq_true, beq_iff_eq, not_or] at large
    have expanded : (n / d + 1) * d = d * (n / d) + d := by rw [Nat.add_mul, commuted, Nat.one_mul]
    omega

end Binary64

end ApiWiring

import ApiWiring.Numeric.Binary64

/-!
# Shortest decimal digits

The decimal text of a double has the fewest digits that read back as that double, and among the
texts with that many digits it is the nearest. The decimals that round to a double fill an interval
around it, whose ends belong to it when the significand is even. For one digit, two digits and so on
the two neighbours of the double on the grid of decimals with that many digits are held against the
interval; the first grid with a neighbour inside wins, the nearer neighbour first and the even one
at a tie. All of it is arithmetic on naturals.

How the digits are laid out is a `Layout`: which decimal exponents are written in positions, and
whether a whole number keeps a decimal.
-/
namespace ApiWiring

/-- A positive decimal: an integer coefficient and a power of ten. -/
structure Decimal where
  /-- The digits. -/
  coefficient : Nat
  /-- The power of ten that the coefficient counts. -/
  exponent : Int
deriving DecidableEq, Repr

namespace Decimal

/-- The decimal digits of a natural, as characters. -/
def digits (n : Nat) : List Char := Nat.toDigits 10 n

/-- The same decimal with no zero at the end of its coefficient, given how many zeros to try. -/
def trimZeros : Nat → Decimal → Decimal
  | 0, x => x
  | zeros + 1, x =>
    if x.coefficient % 10 = 0 then trimZeros zeros ⟨x.coefficient / 10, x.exponent + 1⟩ else x

end Decimal

namespace Binary64

/-- The exponent of the leading decimal digit of a positive ratio. -/
def leadingExponent (numerator denominator : Nat) : Int :=
  if denominator ≤ numerator then ((Decimal.digits (numerator / denominator)).length : Int) - 1
  else -((Decimal.digits ((denominator - 1) / numerator)).length : Int)

/-- The interval of reals that round to a positive double, with the double itself: all three as
numerators over one denominator, and whether the ends belong to the interval. -/
structure Surroundings where
  /-- The lower end. -/
  low : Nat
  /-- The double. -/
  middle : Nat
  /-- The upper end. -/
  high : Nat
  /-- The common denominator. -/
  denominator : Nat
  /-- Whether the ends round to the double. -/
  closed : Bool

/-- The interval of reals that round to a positive double. The lower half is half as wide where
the next double below lies in a finer binade. -/
def surroundings (x : Binary64) : Surroundings :=
  let narrow := x.significand == Nat.pow 2 52 && leastExponent < x.exponent
  let unit := Nat.pow 2 x.exponent.toNat
  { low := (4 * x.significand - if narrow then 1 else 2) * unit
    middle := 4 * x.significand * unit
    high := (4 * x.significand + 2) * unit
    denominator := 4 * Nat.pow 2 (-x.exponent).toNat
    closed := x.significand % 2 == 0 }

/-- Whether a ratio lies in the interval. -/
def Surroundings.holds (s : Surroundings) (numerator denominator : Nat) : Bool :=
  let value := numerator * s.denominator
  let low := s.low * denominator
  let high := s.high * denominator
  if s.closed then low ≤ value && value ≤ high else low < value && value < high

/-- The neighbour of a double on the grid of multiples of `10 ^ power` that reads back as it. -/
def onGrid? (s : Surroundings) (power : Int) : Option Decimal :=
  let up := Nat.pow 10 power.toNat
  let down := Nat.pow 10 (-power).toNat
  let below := s.middle * down / (s.denominator * up)
  let above := below + 1
  let fits (coefficient : Nat) := s.holds (coefficient * up) down
  let twice := 2 * s.middle * down
  let between := (below + above) * (s.denominator * up)
  let lower := twice < between || (twice == between && below % 2 == 0)
  if fits below && (lower || !fits above) then some ⟨below, power⟩
  else if fits above then some ⟨above, power⟩
  else none

/-- The first of the grids with `count` or more digits, `tries` of them, that has a decimal reading
back as the double. -/
def firstGrid (s : Surroundings) (leading : Int) : Nat → Nat → Decimal
  | _, 0 => ⟨s.middle / s.denominator, 0⟩
  | count, tries + 1 =>
    (onGrid? s (leading - count + 1)).getD (firstGrid s leading (count + 1) tries)

/-- The shortest decimal that reads back as a positive double. Seventeen digits always do. -/
def shortest (x : Binary64) : Decimal :=
  let s := x.surroundings
  (firstGrid s (leadingExponent s.middle s.denominator) 1 17).trimZeros 17

/-- How the digits of a number are laid out. -/
structure Layout where
  /-- The least exponent of the leading digit that is written in positions. -/
  least : Int
  /-- The greatest exponent of the leading digit that is written in positions. -/
  greatest : Int
  /-- Whether a whole number in positions keeps a decimal, and zero its sign. -/
  marked : Bool

/-- The digits of a number in positions. -/
def positional (layout : Layout) (digits : List Char) (exponent : Int) : List Char :=
  if 0 ≤ exponent then
    digits ++ List.replicate exponent.toNat '0' ++ if layout.marked then ['.', '0'] else []
  else
    let places := (-exponent).toNat
    if places < digits.length then
      digits.take (digits.length - places) ++ '.' :: digits.drop (digits.length - places)
    else ['0', '.'] ++ List.replicate (places - digits.length) '0' ++ digits

/-- The digits of a number with one digit before the point and a power of ten. -/
def scientific (digits : List Char) (leading : Int) : List Char :=
  let fraction := match digits.drop 1 with
    | [] => []
    | rest => '.' :: rest
  let sign := if 0 ≤ leading then '+' else '-'
  digits.take 1 ++ fraction ++ 'e' :: sign :: Decimal.digits leading.natAbs

/-- The shortest text of a double in a layout. -/
def text (layout : Layout) (x : Binary64) : List Char :=
  if x.isZero then
    if layout.marked then (if x.negative then ['-'] else []) ++ ['0', '.', '0'] else ['0']
  else
    let decimal := x.shortest
    let digits := Decimal.digits decimal.coefficient
    let leading := decimal.exponent + digits.length - 1
    let body :=
      if layout.least ≤ leading && leading ≤ layout.greatest then
        positional layout digits decimal.exponent
      else scientific digits leading
    (if x.negative then ['-'] else []) ++ body

end Binary64

end ApiWiring

import DependencyDiagram.Decimal.Binary64

/-!
The fewest decimal digits that still read back as a given double. A decimal of `n` digits reads back
when it lies among the reals that round to the double; for `n = 1, 2, …` only the double's two
neighbours on the grid of `n`-digit decimals can do so, and the first grid with a hit decides.
-/

namespace DependencyDiagram.Decimal

/-- The decimal `digits * 10 ^ exponent`. -/
structure Digits where
  digits : Nat
  exponent : Int
deriving DecidableEq, Repr

namespace Binary64

/-- The reals that round to a double, as integers over one denominator. The ends count exactly when
the significand is even. -/
structure Interval where
  low : Nat
  value : Nat
  high : Nat
  denominator : Nat
  closed : Bool

/-- Below a power of two the doubles lie twice as dense, so the lower half of the interval is half
as wide there. -/
def interval (value : Binary64) : Interval :=
  let narrow := value.significand = Nat.pow 2 52 ∧ leastExponent < value.exponent
  let below := if narrow then 1 else 2
  let unit := toRatio ⟨1, value.exponent⟩
  ⟨(4 * value.significand - below) * unit.numerator, 4 * value.significand * unit.numerator,
    (4 * value.significand + 2) * unit.numerator, 4 * unit.denominator, value.significand % 2 = 0⟩

/-- Whether the decimal `digits * 10 ^ exponent` lies in the interval. -/
def Interval.holds (range : Interval) (decimal : Digits) : Bool :=
  let up := Nat.pow 10 decimal.exponent.toNat
  let down := Nat.pow 10 (-decimal.exponent).toNat
  let point := decimal.digits * up * range.denominator
  let low := range.low * down
  let high := range.high * down
  (low < point && point < high) || (range.closed && (point == low || point == high))

/-- Twice the value against the sum of two neighbouring grid points tells which is nearer. -/
def nearer (range : Interval) (below above : Digits) : Digits :=
  let up := Nat.pow 10 below.exponent.toNat
  let down := Nat.pow 10 (-below.exponent).toNat
  let twice := 2 * range.value * down
  let middle := (below.digits + above.digits) * up * range.denominator
  if twice < middle then below
  else if middle < twice then above
  else if below.digits % 2 = 0 then below else above

/-- The hit on the grid of multiples of `10 ^ exponent`, if there is one. -/
def onGrid? (range : Interval) (exponent : Int) : Option Digits :=
  let up := Nat.pow 10 exponent.toNat
  let down := Nat.pow 10 (-exponent).toNat
  let floor := range.value * down / (range.denominator * up)
  let below : Digits := ⟨floor, exponent⟩
  let above : Digits := ⟨floor + 1, exponent⟩
  match range.holds below, range.holds above with
  | true, true => some (nearer range below above)
  | true, false => some below
  | false, true => some above
  | false, false => none

/-- The number of decimal digits of a natural number. -/
def digitCount (n : Nat) : Nat := (Nat.toDigits 10 n).length

/-- The exponent of the leading decimal digit of a positive quotient. -/
def leadingExponent (numerator denominator : Nat) : Int :=
  let guess : Int := (digitCount numerator : Int) - digitCount denominator
  let reaches :=
    if guess < 0 then denominator ≤ numerator * Nat.pow 10 (-guess).toNat
    else denominator * Nat.pow 10 guess.toNat ≤ numerator
  if reaches then guess else guess - 1

def shortestFrom (range : Interval) (leading : Int) : Nat → Nat → Digits
  | _, 0 => ⟨range.value / range.denominator, 0⟩
  | count, fuel + 1 =>
    match onGrid? range (leading - count) with
    | some found => found
    | none => shortestFrom range leading (count + 1) fuel

/-- Trailing zeros say nothing, so they move into the exponent. -/
def dropZeros : Nat → Digits → Digits
  | 0, decimal => decimal
  | fuel + 1, decimal =>
    if decimal.digits ≠ 0 ∧ decimal.digits % 10 = 0 then
      dropZeros fuel ⟨decimal.digits / 10, decimal.exponent + 1⟩
    else decimal

/-- Seventeen digits always suffice for a double. -/
def shortest (value : Binary64) : Digits :=
  if value.significand = 0 then ⟨0, 0⟩
  else
    let range := value.interval
    let leading := leadingExponent range.value range.denominator
    dropZeros 400 (shortestFrom range leading 0 18)

end Binary64

end DependencyDiagram.Decimal

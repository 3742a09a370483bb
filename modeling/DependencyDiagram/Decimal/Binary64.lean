/-!
Finite double-precision magnitudes in exact arithmetic. A magnitude is `significand * 2 ^ exponent`;
every operation computes its exact rational result first and then rounds once to the nearest double,
with ties to the even significand.
-/

namespace DependencyDiagram.Decimal

structure Binary64 where
  significand : Nat
  exponent : Int
deriving DecidableEq, Repr, Inhabited

namespace Binary64

/-- The least exponent of a double, where subnormal numbers live. -/
def leastExponent : Int := -1074

/-- The exponent of the largest doubles, whose significand has all 53 bits. -/
def greatestExponent : Int := 971

def zero : Binary64 := ⟨0, leastExponent⟩

/-- A rational as numerator and positive denominator. -/
structure Ratio where
  numerator : Nat
  denominator : Nat

def toRatio (value : Binary64) : Ratio :=
  if value.exponent < 0 then ⟨value.significand, Nat.pow 2 (-value.exponent).toNat⟩
  else ⟨value.significand * Nat.pow 2 value.exponent.toNat, 1⟩

/-- The quotient rounded to the nearest integer, a half to the even neighbour. -/
def roundQuotient (numerator denominator : Nat) : Nat :=
  let quotient := numerator / denominator
  let twice := 2 * (numerator % denominator)
  if twice < denominator then quotient
  else if denominator < twice then quotient + 1
  else quotient + quotient % 2

/-- A ratio divided by a power of two, again as a quotient of naturals. -/
def scaled (ratio : Ratio) (exponent : Int) : Ratio :=
  if exponent < 0 then ⟨ratio.numerator * Nat.pow 2 (-exponent).toNat, ratio.denominator⟩
  else ⟨ratio.numerator, ratio.denominator * Nat.pow 2 exponent.toNat⟩

/-- The exponent at which a ratio has a significand of 53 bits, or the least one. -/
def exponentFor (ratio : Ratio) : Int :=
  let guess : Int := (ratio.numerator.log2 : Int) - ratio.denominator.log2 - 53
  let part := scaled ratio guess
  let exact := if part.numerator / part.denominator < Nat.pow 2 53 then guess else guess + 1
  max exact leastExponent

/-- The double nearest to a ratio, or none when it lies beyond the largest one. -/
def nearest? (ratio : Ratio) : Option Binary64 :=
  if ratio.numerator = 0 then some zero
  else
    let exponent := exponentFor ratio
    let part := scaled ratio exponent
    let significand := roundQuotient part.numerator part.denominator
    let rounded : Binary64 :=
      if significand = Nat.pow 2 53 then ⟨Nat.pow 2 52, exponent + 1⟩ else ⟨significand, exponent⟩
    if greatestExponent < rounded.exponent then none else some rounded

def ofNat? (n : Nat) : Option Binary64 := nearest? ⟨n, 1⟩

def mul? (x y : Binary64) : Option Binary64 :=
  let a := x.toRatio
  let b := y.toRatio
  nearest? ⟨a.numerator * b.numerator, a.denominator * b.denominator⟩

/-- Division by a magnitude other than zero. -/
def div? (x y : Binary64) : Option Binary64 :=
  let a := x.toRatio
  let b := y.toRatio
  nearest? ⟨a.numerator * b.denominator, a.denominator * b.numerator⟩

end Binary64

end DependencyDiagram.Decimal

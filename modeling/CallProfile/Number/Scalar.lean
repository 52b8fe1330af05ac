import CallProfile.Number.Binary64
import CallProfile.Number.Power
import CallProfile.Number.Rounding

/-!
# The arithmetic of statistics and charts

Statistics and chart coordinates are written once, over any type with the operations below. The
program computes in binary64; the same definitions over the rational numbers state what it computes
apart from rounding.
-/

namespace CallProfile.Number

/-- Numbers that can be counted, divided, compared and printed. -/
class Scalar (α : Type) extends Add α, Sub α, Mul α, Div α, Neg α, OfScientific α where
  ofNat : Nat → α
  /-- The strict comparison, false where one side is undefined. -/
  less : α → α → Bool
  /-- The comparison, false where one side is undefined. -/
  atMost : α → α → Bool
  /-- A total order, which agrees with `atMost` where that decides. -/
  precedes : α → α → Bool
  /-- The whole part of a number that is not negative, and at most `2 ^ 64 - 1`. -/
  whole : α → Nat
  /-- The least natural number that is not smaller. -/
  ceiling : α → Nat
  /-- The nearest whole number, a half going away from zero. -/
  nearest? : α → Option Int
  /-- The text with a fixed number of decimal places. -/
  fixed : Nat → α → String

namespace Scalar

variable {α : Type} [Scalar α]

/-- The larger of two numbers, the first one if they do not compare. -/
def larger (x y : α) : α :=
  if less x y then y else x

/-- A number without its sign. -/
def absolute (x : α) : α :=
  if less x 0.0 then -x else x

/-- The sum from left to right. It starts from the negative zero, which changes no summand. -/
def sum (values : List α) : α :=
  values.foldl (· + ·) (-0.0)

end Scalar

/-- The text of a binary64 number with a fixed number of decimal places. -/
def fixedFloat (places : Nat) (x : Float) : String :=
  match Binary64.decode x with
  | .undefined => "NaN"
  | .infinite negative => if negative then "-inf" else "inf"
  | .finite negative mantissa exponent =>
    let (n, d) := Binary64.quotient mantissa exponent
    fixedText places negative n d

/-- The text of a rational number with a fixed number of decimal places. -/
def fixedRat (places : Nat) (x : Rat) : String :=
  fixedText places (decide (x < 0)) x.num.natAbs x.den

/-- The whole number nearest to a rational number, a half going away from zero. -/
def nearestRat (x : Rat) : Int :=
  if x < 0 then -(-x + 1 / 2).floor else (x + 1 / 2).floor

/-- Binary64 arithmetic, in which the program computes. -/
instance : Scalar Float where
  ofNat := Float.ofNat
  less x y := decide (x < y)
  atMost x y := decide (x ≤ y)
  precedes x y := decide (Binary64.orderKey x ≤ Binary64.orderKey y)
  whole x := x.toUInt64.toNat
  ceiling := Binary64.ceiling
  nearest? := Binary64.nearest?
  fixed := fixedFloat

/-- Exact arithmetic. -/
instance : Scalar Rat where
  ofNat n := (n : Rat)
  less x y := decide (x < y)
  atMost x y := decide (x ≤ y)
  precedes x y := decide (x ≤ y)
  whole x := min x.floor.toNat (powerOfTwo 64 - 1)
  ceiling x := x.ceil.toNat
  nearest? x := some (nearestRat x)
  fixed := fixedRat

end CallProfile.Number

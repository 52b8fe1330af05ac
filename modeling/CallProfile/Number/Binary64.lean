import CallProfile.Number.Power

/-!
# The exact value of a binary64 number

A finite floating-point number is a whole number times a power of two. The functions here read that
form off the bits, so that rounding and printing are exact arithmetic on natural numbers.
-/

namespace CallProfile.Number.Binary64

/-- A floating-point number by its bits: `mantissa * 2 ^ exponent` with a sign, or no such value. -/
inductive Decoded where
  | finite (negative : Bool) (mantissa : Nat) (exponent : Int)
  | infinite (negative : Bool)
  | undefined

/-- The value of a number. Subnormal numbers have no hidden bit. -/
def decode (x : Float) : Decoded :=
  let bits := x.toBits.toNat
  let negative := decide (powerOfTwo 63 ≤ bits)
  let scale : Nat := bits / powerOfTwo 52 % powerOfTwo 11
  let fraction := bits % powerOfTwo 52
  if scale = 2047 then if fraction = 0 then .infinite negative else .undefined
  else if scale = 0 then .finite negative fraction (-1074)
  else .finite negative (powerOfTwo 52 + fraction) ((scale : Int) - 1075)

/-- The magnitude `mantissa * 2 ^ exponent` as a quotient of natural numbers. -/
def quotient (mantissa : Nat) (exponent : Int) : Nat × Nat :=
  match exponent with
  | .ofNat e => (mantissa * powerOfTwo e, 1)
  | .negSucc e => (mantissa, powerOfTwo (e + 1))

/-- The exact value of a finite number, and zero for the others. -/
def toRat (x : Float) : Rat :=
  match decode x with
  | .finite negative mantissa exponent =>
    let (n, d) := quotient mantissa exponent
    mkRat (if negative then -(n : Int) else n) d
  | _ => 0

/-- The position of a number in the total order that puts negative numbers by descending magnitude,
then positive ones, and tells the two zeros apart. -/
def orderKey (x : Float) : Nat :=
  let bits := x.toBits.toNat
  if powerOfTwo 63 ≤ bits then powerOfTwo 64 - 1 - bits else powerOfTwo 63 + bits

/-- The nearest whole number, a half going away from zero; an infinite or undefined number gives
nothing. -/
def nearest? (x : Float) : Option Int :=
  match decode x with
  | .finite negative mantissa exponent =>
    let (n, d) := quotient mantissa exponent
    let whole := (2 * n + d) / (2 * d)
    some (if negative then -(whole : Int) else whole)
  | _ => none

/-- The smallest natural number that is at least `x`. -/
def ceiling (x : Float) : Nat :=
  let whole := x.toUInt64.toNat
  if Float.ofNat whole < x then whole + 1 else whole

/-- The bits as sixteen digits in base sixteen. -/
def hexBits (x : Float) : String :=
  let digits := Nat.toDigits 16 x.toBits.toNat
  String.ofList (List.replicate (16 - digits.length) '0' ++ digits)

end CallProfile.Number.Binary64

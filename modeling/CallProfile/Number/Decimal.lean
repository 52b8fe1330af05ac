import CallProfile.Number.Binary64
import CallProfile.Number.Power
import CallProfile.Number.Rounding

/-!
# The shortest decimal of a binary64 number

A number is printed with the fewest digits that read back as the same number, and among those with
the digits nearest to it. The candidates of each length are the two neighbours of the value on the
grid of that many digits, and each is held against the interval of reals that round to the number.
-/

namespace CallProfile.Number

/-- A decimal `digits * 10 ^ exponent`. -/
structure Decimal where
  digits : Nat
  exponent : Int
  deriving DecidableEq, Repr

namespace Decimal

/-- The quotients `n * 10 ^ e` for a natural number `n`: numerator and denominator. -/
def scaled (n : Nat) (e : Int) : Nat × Nat :=
  match e with
  | .ofNat k => (n * powerOfTen k, 1)
  | .negSucc k => (n, powerOfTen (k + 1))

/-- The interval of reals that round to a number, by quotients over one denominator. -/
structure Interval where
  low : Nat
  value : Nat
  high : Nat
  denominator : Nat
  /-- Whether the ends round to the number too. -/
  closed : Bool

/-- The interval of `mantissa * 2 ^ exponent`. It reaches half way to both neighbours; below the
first number of a binade the neighbour is half as far. -/
def intervalOf (mantissa : Nat) (exponent : Int) : Interval :=
  let below := if mantissa = powerOfTwo 52 && -1074 < exponent then 1 else 2
  let (factor, denominator) := Binary64.quotient 1 (exponent - 2)
  { low := (4 * mantissa - below) * factor
    value := 4 * mantissa * factor
    high := (4 * mantissa + 2) * factor
    denominator
    closed := mantissa % 2 = 0 }

/-- Whether `n * 10 ^ e` lies in the interval. -/
def Interval.contains (i : Interval) (n : Nat) (e : Int) : Bool :=
  let (p, q) := scaled n e
  let x := p * i.denominator
  if i.closed then i.low * q ≤ x && x ≤ i.high * q else i.low * q < x && x < i.high * q

/-- The least `k` for which `value < 10 ^ k`, found from a first guess by steps of one. -/
def magnitude (i : Interval) : Int :=
  let isBelow (k : Int) : Bool :=
    let (p, q) := scaled 1 k
    i.value * q < p * i.denominator
  let guess : Int := ((Nat.log2 i.value : Int) - Nat.log2 i.denominator) * 1233 / 4096
  let candidates := [guess - 1, guess, guess + 1, guess + 2]
  (candidates.find? isBelow).getD (guess + 3)

/-- The grid point nearest to the value among its two neighbours, if one of them lies in the
interval. -/
def onGrid? (tie : Tie) (i : Interval) (e : Int) : Option Nat :=
  let (p, q) := scaled 1 e
  let n := i.value * q
  let d := i.denominator * p
  let floor := n / d
  let nearest := roundQuotient tie n d
  let other := if nearest = floor then floor + 1 else floor
  if i.contains nearest e then some nearest
  else if i.contains other e then some other
  else none

/-- Take the zeros at the end of the digits into the exponent. -/
def strip : Nat → Decimal → Decimal
  | 0, x => x
  | fuel + 1, x =>
    if x.digits ≠ 0 && x.digits % 10 = 0 then strip fuel ⟨x.digits / 10, x.exponent + 1⟩ else x

/-- The shortest decimal of `mantissa * 2 ^ exponent`: the first grid, from one digit to seventeen,
with a point in the interval. -/
def shortest (tie : Tie) (mantissa : Nat) (exponent : Int) : Decimal :=
  if mantissa = 0 then ⟨0, 0⟩
  else
    let i := intervalOf mantissa exponent
    let k := magnitude i
    let found := (List.range 17).findSome? fun (n : Nat) =>
      let e := k - ((n : Int) + 1)
      (onGrid? tie i e).map (⟨·, e⟩)
    strip 20 (found.getD ⟨mantissa, exponent⟩)

/-- How a decimal is laid out. The point stands after that many digits, counted from the first
digit; outside `least ≤ … ≤ most` the number is written with an exponent. -/
structure Style where
  tie : Tie
  least : Option Int
  most : Option Int
  /-- Whether a whole number is written with `.0`. -/
  pointed : Bool
  undefined : String

/-- Positional notation with the point after `point` digits. -/
def positional (pointed : Bool) (digits : List Char) (point : Int) : List Char :=
  if point ≤ 0 then '0' :: '.' :: List.replicate point.natAbs '0' ++ digits
  else
    let whole := point.toNat
    if digits.length ≤ whole then
      digits ++ List.replicate (whole - digits.length) '0' ++ (if pointed then ['.', '0'] else [])
    else digits.take whole ++ '.' :: digits.drop whole

/-- Notation with one digit before the point and a power of ten. -/
def exponential (digits : List Char) (point : Int) : List Char :=
  let power := (toString (point - 1)).toList
  match digits with
  | [] => []
  | [d] => d :: 'e' :: power
  | d :: rest => d :: '.' :: rest ++ 'e' :: power

/-- The characters of a decimal in a style. -/
def layout (style : Style) (x : Decimal) : List Char :=
  if x.digits = 0 then if style.pointed then ['0', '.', '0'] else ['0']
  else
    let digits := Nat.toDigits 10 x.digits
    let point := (digits.length : Int) + x.exponent
    if style.least.all (· ≤ point) && style.most.all (point ≤ ·) then
      positional style.pointed digits point
    else exponential digits point

/-- The text of a number in a style. -/
def Style.text (style : Style) (x : Float) : String :=
  match Binary64.decode x with
  | .undefined => style.undefined
  | .infinite negative => if negative then "-inf" else "inf"
  | .finite negative mantissa exponent =>
    let digits := layout style (shortest style.tie mantissa exponent)
    String.ofList (if negative then '-' :: digits else digits)

end Decimal

end CallProfile.Number

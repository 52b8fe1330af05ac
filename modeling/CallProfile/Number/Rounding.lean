import CallProfile.Number.Power

/-!
# Rounding quotients

A quotient of natural numbers is rounded to the nearest whole number. What happens to a half is the
caller's choice.
-/

namespace CallProfile.Number

/-- Where a half goes. -/
inductive Tie where
  | toEven
  | up
  deriving DecidableEq

/-- The whole number nearest to `n / d`. -/
def roundQuotient (tie : Tie) (n d : Nat) : Nat :=
  let whole := n / d
  let twice := 2 * (n % d)
  if twice < d then whole
  else if d < twice then whole + 1
  else
    match tie with
    | .toEven => if whole % 2 = 0 then whole else whole + 1
    | .up => whole + 1

/-- The digits of a number, padded in front with zeros to a least length. -/
def paddedDigits (length n : Nat) : List Char :=
  let digits := Nat.toDigits 10 n
  List.replicate (length - digits.length) '0' ++ digits

/-- The text of `n / d` with a fixed number of decimal places, a half going to the even digit. A
negative number keeps its sign even where all its digits are zero. -/
def fixedText (places : Nat) (negative : Bool) (n d : Nat) : String :=
  let scaled := roundQuotient .toEven (n * powerOfTen places) d
  let digits := paddedDigits (places + 1) scaled
  let whole := digits.take (digits.length - places)
  let fraction := digits.drop (digits.length - places)
  String.ofList ((if negative then ['-'] else []) ++ whole ++
    (if places = 0 then [] else '.' :: fraction))

end CallProfile.Number

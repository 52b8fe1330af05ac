import CallProfile.Number.Natural

/-!
# Reading decimal fractions

A decimal text is read as the binary64 number nearest to its value. Exponents far outside the range
of the numbers give zero or infinity without their power of ten being computed.
-/

namespace CallProfile.Number

/-- A decimal read from a text: a sign and `digits * 10 ^ exponent`. -/
structure Numeral where
  negative : Bool
  digits : Nat
  exponent : Int
  deriving DecidableEq, Repr

/-- A number with its sign changed if asked for. -/
def signed (negative : Bool) (x : Float) : Float :=
  if negative then -x else x

/-- The binary64 number nearest to a numeral. A magnitude from `10 ^ 310` on is infinite and one
below `10 ^ -400` is zero. -/
def Numeral.toFloat (x : Numeral) : Float :=
  if x.digits = 0 then signed x.negative 0
  else
    let point := ((Nat.toDigits 10 x.digits).length : Int) + x.exponent
    if 310 < point then signed x.negative (1 / 0)
    else if point < -400 then signed x.negative 0
    else
      match x.exponent with
      | .ofNat e => signed x.negative (Float.ofScientific x.digits false e)
      | .negSucc e => signed x.negative (Float.ofScientific x.digits true (e + 1))

/-- The sign in front of a number, and the characters after it. -/
def takeSign : List Char → Bool × List Char
  | '-' :: rest => (true, rest)
  | '+' :: rest => (false, rest)
  | chars => (false, chars)

/-- The exponent after the digits: none at all, or a letter `e` and a signed integer. -/
def readExponent? : List Char → Option Int
  | [] => some 0
  | c :: rest =>
    if c = 'e' || c = 'E' then
      let (negative, digits) := takeSign rest
      (readDigits? digits).map fun n => if negative then -(n : Int) else n
    else none

/-- An unsigned decimal: digits with an optional point, at least one digit in all, and an optional
exponent. -/
def readUnsigned? (negative : Bool) (chars : List Char) : Option Numeral :=
  let whole := chars.takeWhile isDigit
  let rest := chars.dropWhile isDigit
  let (fraction, rest) : List Char × List Char :=
    match rest with
    | '.' :: more => (more.takeWhile isDigit, more.dropWhile isDigit)
    | _ => ([], rest)
  if whole.isEmpty && fraction.isEmpty then none
  else
    (readExponent? rest).map fun e =>
      ⟨negative, digitsValue (whole ++ fraction), e - fraction.length⟩

/-- A number as a setting holds it: a decimal, or one of the words for infinity and for an undefined
number in any case, after an optional sign. -/
def readFloat? (text : String) : Option Float :=
  let (negative, rest) := takeSign text.toList
  let word := String.ofList (rest.map Char.toLower)
  if word = "inf" || word = "infinity" then some (signed negative (1 / 0))
  else if word = "nan" then some (0 / 0)
  else (readUnsigned? negative rest).map Numeral.toFloat

end CallProfile.Number

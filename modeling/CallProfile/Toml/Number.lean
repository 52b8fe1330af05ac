import CallProfile.Json.Reader
import CallProfile.Number.Power
import CallProfile.Number.Reading

/-!
# Numbers in TOML

Integers of 64 bits in four bases, and binary64 fractions. Underscores may stand between digits.
-/

namespace CallProfile.Toml

open Number (isDigit)

/-- The digits of a group without the underscores between them. -/
def digitsOf? (isDigit : Char → Bool) (chars : List Char) : Option (List Char) :=
  let groups := chars.splitOnP (· == '_')
  if groups.all fun group => !group.isEmpty && group.all isDigit then some groups.flatten else none

/-- The number of digits in a base. -/
def valueIn (base : Nat) (digits : List Char) : Nat :=
  digits.foldl (fun n c => n * base + (Json.hexValue? c).getD 0) 0

/-- Whether the character is a digit of a base. -/
def isDigitIn (base : Nat) (c : Char) : Bool :=
  (Json.hexValue? c).any (· < base)

/-- Whether decimal digits begin with a zero that means nothing. -/
def hasLeadingZero : List Char → Bool
  | '0' :: _ :: _ => true
  | _ => false

/-- The unsigned digits of a decimal integer. -/
def decimalDigits? (chars : List Char) : Option (List Char) :=
  (digitsOf? isDigit chars).filter fun digits => !hasLeadingZero digits

/-- An integer, unless it has more than 64 bits. -/
def readInteger? (chars : List Char) : Option Int :=
  let inBase (base : Nat) (rest : List Char) : Option Nat :=
    (digitsOf? (isDigitIn base) rest).map (valueIn base)
  let value : Option Int :=
    match chars with
    | '0' :: 'x' :: rest => (inBase 16 rest).map Int.ofNat
    | '0' :: 'o' :: rest => (inBase 8 rest).map Int.ofNat
    | '0' :: 'b' :: rest => (inBase 2 rest).map Int.ofNat
    | _ =>
      let (negative, rest) := Number.takeSign chars
      (decimalDigits? rest).map fun digits =>
        if negative then -(Number.digitsValue digits : Int) else Number.digitsValue digits
  value.filter fun n =>
    -(Number.powerOfTwo 63 : Int) ≤ n && n < (Number.powerOfTwo 63 : Int)

/-- The exponent of a fraction: a letter `e` and an integer. -/
def readExponent? : List Char → Option Int
  | [] => some 0
  | c :: rest =>
    if c = 'e' || c = 'E' then
      let (negative, rest) := Number.takeSign rest
      (digitsOf? isDigit rest).map fun digits =>
        if negative then -(Number.digitsValue digits : Int) else Number.digitsValue digits
    else none

/-- Whether the character belongs to a group of digits. -/
def isGroupChar (c : Char) : Bool :=
  isDigit c || c = '_'

/-- A fraction. One that is too large for a number is refused. -/
def readReal? (chars : List Char) : Option Float :=
  let (negative, rest) := Number.takeSign chars
  if rest = ['i', 'n', 'f'] then some (Number.signed negative (1 / 0))
  else if rest = ['n', 'a', 'n'] then some (0 / 0)
  else do
    let whole ← decimalDigits? (rest.takeWhile isGroupChar)
    let rest := rest.dropWhile isGroupChar
    let (fraction, rest) : List Char × List Char ←
      match rest with
      | '.' :: more =>
        (digitsOf? isDigit (more.takeWhile isGroupChar)).map (·, more.dropWhile isGroupChar)
      | _ => some ([], rest)
    if fraction.isEmpty && rest.isEmpty then none
    else
      let exponent ← readExponent? rest
      let value : Number.Numeral :=
        ⟨negative, Number.digitsValue (whole ++ fraction), exponent - fraction.length⟩
      if value.toFloat.isFinite then some value.toFloat else none

end CallProfile.Toml

import CallProfile.Number.Power

/-!
# Decimal integers

Reading whole numbers of a bounded range from their decimal digits. Digits are the ASCII ones, and a
sign may stand in front.
-/

namespace CallProfile.Number

/-- Whether the character is one of the ten ASCII digits. -/
def isDigit (c : Char) : Bool :=
  '0' ≤ c && c ≤ '9'

/-- The value of a digit. -/
def digitValue (c : Char) : Nat :=
  c.toNat - '0'.toNat

/-- The value of a sequence of digits, the first one weighing most. -/
def digitsValue (digits : List Char) : Nat :=
  digits.foldl (fun value c => value * 10 + digitValue c) 0

/-- The value of one or more digits. -/
def readDigits? (chars : List Char) : Option Nat :=
  if !chars.isEmpty && chars.all isDigit then some (digitsValue chars) else none

/-- The characters after a leading plus sign, if there is one. -/
def withoutPlus : List Char → List Char
  | '+' :: rest => rest
  | chars => chars

/-- A number below `limit`, from one or more digits after an optional plus sign. -/
def readNatural? (limit : Nat) (chars : List Char) : Option Nat :=
  (readDigits? (withoutPlus chars)).filter (· < limit)

/-- The numbers of 64 bits are those below this one. -/
def limit64 : Nat := powerOfTwo 64

/-- An integer of 64 bits in two's complement, from digits after an optional sign. -/
def readInteger? : List Char → Option Int
  | '-' :: rest =>
    match readDigits? rest with
    | some n => if n ≤ powerOfTwo 63 then some (-(n : Int)) else none
    | none => none
  | chars => (readNatural? (powerOfTwo 63) chars).map Int.ofNat

end CallProfile.Number

import CallProfile.Number.Natural
import CallProfile.Number.Rounding

/-!
# Dates and times in TOML

A date, a time of day, or both with an optional offset. No setting is a date, so a moment is read
only to be written again in its plain form.
-/

namespace CallProfile.Toml

open Number (isDigit digitsValue)

/-- A number of a fixed count of digits in a range, and what follows it. -/
def takeNumber? (count low high : Nat) (chars : List Char) : Option (List Char × List Char) :=
  let digits := chars.take count
  let n := digitsValue digits
  if digits.length = count && digits.all isDigit && low ≤ n && n ≤ high then
    some (digits, chars.drop count)
  else none

/-- The characters after an expected one. -/
def afterChar? (expected : Char) : List Char → Option (List Char)
  | c :: rest => if c = expected then some rest else none
  | [] => none

/-- The days of a month. -/
def daysIn (year month : Nat) : Nat :=
  let leap := year % 4 = 0 && (year % 100 ≠ 0 || year % 400 = 0)
  if month = 2 then if leap then 29 else 28
  else if [4, 6, 9, 11].contains month then 30 else 31

/-- A date, and what follows it. -/
def takeDate? (chars : List Char) : Option (List Char × List Char) := do
  let (year, rest) ← takeNumber? 4 0 9999 chars
  let (month, rest) ← takeNumber? 2 1 12 (← afterChar? '-' rest)
  let days := daysIn (digitsValue year) (digitsValue month)
  let (day, rest) ← takeNumber? 2 1 days (← afterChar? '-' rest)
  return (year ++ '-' :: month ++ '-' :: day, rest)

/-- The part of a second after its point, without zeros at its end and to nine places. -/
def trimFraction (digits : List Char) : List Char :=
  match ((digits.take 9).reverse.dropWhile (· == '0')).reverse with
  | [] => ['0']
  | kept => kept

/-- The seconds of a time, if there are any, and what follows them. -/
def takeSeconds? : List Char → Option (List Char × List Char)
  | ':' :: rest => do
    let (second, rest) ← takeNumber? 2 0 60 rest
    match rest with
    | '.' :: rest =>
      let digits := rest.takeWhile isDigit
      if digits.isEmpty then none
      else
        return (':' :: second ++ '.' :: trimFraction digits, rest.dropWhile isDigit)
    | _ => return (':' :: second, rest)
  | rest => some ([], rest)

/-- A time of day, and what follows it. -/
def takeTime? (chars : List Char) : Option (List Char × List Char) := do
  let (hour, rest) ← takeNumber? 2 0 23 chars
  let (minute, rest) ← takeNumber? 2 0 59 (← afterChar? ':' rest)
  let (seconds, rest) ← takeSeconds? rest
  return (hour ++ ':' :: minute ++ seconds, rest)

/-- The offset at the end of a moment, which may have none. -/
def readOffset? : List Char → Option (List Char)
  | [] => some []
  | c :: rest =>
    if c = 'Z' || c = 'z' then if rest.isEmpty then some ['Z'] else none
    else if c = '+' || c = '-' then do
      let (hour, rest) ← takeNumber? 2 0 23 rest
      let (minute, rest) ← takeNumber? 2 0 59 (← afterChar? ':' rest)
      if rest.isEmpty then some (c :: hour ++ ':' :: minute) else none
    else none

/-- A moment in its plain form, with a `T` between date and time. -/
def readMoment? (chars : List Char) : Option (List Char) :=
  match takeDate? chars with
  | some (date, []) => some date
  | some (date, c :: rest) =>
    if c = 'T' || c = 't' || c = ' ' then do
      let (time, rest) ← takeTime? rest
      let offset ← readOffset? rest
      return date ++ 'T' :: time ++ offset
    else none
  | none =>
    match takeTime? chars with
    | some (time, []) => some time
    | _ => none

end CallProfile.Toml

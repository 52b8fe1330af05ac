import CallProfile.Json.Basic

/-!
# Reading JSON

The reader accepts exactly one value with white space around it. Numbers keep their literal. Nesting
is bounded by the length of the text, which no value can exceed.
-/

namespace CallProfile.Json

/-- The white space between the parts of a value. -/
def isSpace (c : Char) : Bool :=
  c = ' ' || c = '\t' || c = '\n' || c = '\r'

/-- The characters after leading white space. -/
def skipSpace (chars : List Char) : List Char :=
  chars.dropWhile isSpace

/-- The characters after an expected beginning. -/
def after? (expected : List Char) (chars : List Char) : Option (List Char) :=
  expected.isPrefixOf? chars

/-- The value of a digit in base sixteen. -/
def hexValue? (c : Char) : Option Nat :=
  if '0' ≤ c && c ≤ '9' then some (c.toNat - '0'.toNat)
  else if 'a' ≤ c && c ≤ 'f' then some (c.toNat - 'a'.toNat + 10)
  else if 'A' ≤ c && c ≤ 'F' then some (c.toNat - 'A'.toNat + 10)
  else none

/-- The value of four digits in base sixteen. -/
def hexUnit? (a b c d : Char) : Option Nat := do
  return (((← hexValue? a) * 16 + (← hexValue? b)) * 16 + (← hexValue? c)) * 16 + (← hexValue? d)

/-- The character of an escape of one letter. -/
def simpleEscape? : Char → Option Char
  | '"' => some '"'
  | '\\' => some '\\'
  | '/' => some '/'
  | 'b' => some '\x08'
  | 'f' => some '\x0c'
  | 'n' => some '\n'
  | 'r' => some '\r'
  | 't' => some '\t'
  | _ => none

/-- The character of two halves of a surrogate pair. -/
def paired (high low : Nat) : Char :=
  Char.ofNat (0x10000 + (high - 0xD800) * 0x400 + (low - 0xDC00))

/-- Put a character in front of a text that was read. -/
def prepend (c : Char) : Option (List Char × List Char) → Option (List Char × List Char)
  | some (text, rest) => some (c :: text, rest)
  | none => none

/-- The rest of a text up to its closing quote, and what follows it. -/
def readText : List Char → Option (List Char × List Char)
  | [] => none
  | '"' :: rest => some ([], rest)
  | '\\' :: 'u' :: a :: b :: c :: d :: '\\' :: 'u' :: e :: f :: g :: h :: rest =>
    match hexUnit? a b c d, hexUnit? e f g h with
    | some high, some low =>
      if 0xD800 ≤ high && high < 0xDC00 then
        if 0xDC00 ≤ low && low < 0xE000 then prepend (paired high low) (readText rest) else none
      else if 0xDC00 ≤ high && high < 0xE000 then none
      else
        prepend (Char.ofNat high) (readText ('\\' :: 'u' :: e :: f :: g :: h :: rest))
    | _, _ => none
  | '\\' :: 'u' :: a :: b :: c :: d :: rest =>
    match hexUnit? a b c d with
    | some unit =>
      if 0xD800 ≤ unit && unit < 0xE000 then none else prepend (Char.ofNat unit) (readText rest)
    | none => none
  | '\\' :: e :: rest =>
    match simpleEscape? e with
    | some c => prepend c (readText rest)
    | none => none
  | c :: rest => if c.toNat < 0x20 then none else prepend c (readText rest)

/-- The longest run of digits, and what follows it. -/
def takeDigits (chars : List Char) : List Char × List Char :=
  (chars.takeWhile Char.isDigit, chars.dropWhile Char.isDigit)

/-- The whole part of a number: a zero, or digits that do not start with one. -/
def takeWhole : List Char → Option (List Char × List Char)
  | '0' :: rest => some (['0'], rest)
  | chars =>
    match takeDigits chars with
    | ([], _) => none
    | taken => some taken

/-- The part after the point, with the point, if there is one. -/
def takeFraction : List Char → Option (List Char × List Char)
  | '.' :: rest =>
    match takeDigits rest with
    | ([], _) => none
    | (digits, rest) => some ('.' :: digits, rest)
  | chars => some ([], chars)

/-- The sign of an exponent, if there is one. -/
def takeSign : List Char → List Char × List Char
  | '+' :: rest => (['+'], rest)
  | '-' :: rest => (['-'], rest)
  | chars => ([], chars)

/-- The exponent of a number, with its letter, if there is one. -/
def takeExponent : List Char → Option (List Char × List Char)
  | [] => some ([], [])
  | c :: rest =>
    if c = 'e' || c = 'E' then
      let (sign, rest) := takeSign rest
      match takeDigits rest with
      | ([], _) => none
      | (digits, rest) => some (c :: sign ++ digits, rest)
    else some ([], c :: rest)

/-- The literal of a number, and what follows it. -/
def readNumber (chars : List Char) : Option (List Char × List Char) := do
  let (sign, rest) : List Char × List Char :=
    match chars with
    | '-' :: rest => (['-'], rest)
    | _ => ([], chars)
  let (whole, rest) ← takeWhole rest
  let (fraction, rest) ← takeFraction rest
  let (exponent, rest) ← takeExponent rest
  return (sign ++ whole ++ fraction ++ exponent, rest)

mutual

/-- A value, and what follows it. -/
def readValue : Nat → List Char → Option (Json × List Char)
  | 0, _ => none
  | fuel + 1, chars =>
    match chars with
    | '"' :: rest => (readText rest).map fun (text, rest) => (string (String.ofList text), rest)
    | '[' :: rest =>
      match skipSpace rest with
      | ']' :: rest => some (array [], rest)
      | rest => (readItems fuel rest).map fun (items, rest) => (array items, rest)
    | '\x7b' :: rest =>
      match skipSpace rest with
      | '\x7d' :: rest => some (object [], rest)
      | rest => (readFields fuel rest).map fun (fields, rest) => (object fields, rest)
    | 'n' :: rest => (after? ['u', 'l', 'l'] rest).map (null, ·)
    | 't' :: rest => (after? ['r', 'u', 'e'] rest).map (bool true, ·)
    | 'f' :: rest => (after? ['a', 'l', 's', 'e'] rest).map (bool false, ·)
    | chars =>
      (readNumber chars).map fun (literal, rest) => (number (String.ofList literal), rest)

/-- The items of an array up to its closing bracket. -/
def readItems : Nat → List Char → Option (List Json × List Char)
  | 0, _ => none
  | fuel + 1, chars =>
    match readValue fuel (skipSpace chars) with
    | none => none
    | some (item, rest) =>
      match skipSpace rest with
      | ',' :: rest => (readItems fuel rest).map fun (items, rest) => (item :: items, rest)
      | ']' :: rest => some ([item], rest)
      | _ => none

/-- The fields of an object up to its closing brace. -/
def readFields : Nat → List Char → Option (List (String × Json) × List Char)
  | 0, _ => none
  | fuel + 1, chars =>
    match skipSpace chars with
    | '"' :: rest =>
      match readText rest with
      | none => none
      | some (key, rest) =>
        match skipSpace rest with
        | ':' :: rest =>
          match readValue fuel (skipSpace rest) with
          | none => none
          | some (value, rest) =>
            let field := (String.ofList key, value)
            match skipSpace rest with
            | ',' :: rest =>
              (readFields fuel rest).map fun (fields, rest) => (field :: fields, rest)
            | '\x7d' :: rest => some ([field], rest)
            | _ => none
        | _ => none
    | _ => none

end

/-- The value of a text. -/
def read? (text : String) : Option Json :=
  let chars := text.toList
  match readValue (2 * chars.length + 2) (skipSpace chars) with
  | some (value, rest) => if (skipSpace rest).isEmpty then some value else none
  | none => none

end CallProfile.Json

import CallProfile.Json.Printer
import CallProfile.Number.Decimal

/-!
# Printing TOML

How texts, numbers and lists are written in a document. A text takes the plainest quotes in which it
needs no escapes, if there are any.
-/

namespace CallProfile.Toml

/-- The quotes of a text. -/
inductive Quotes where
  | basic
  | literal
  | longBasic
  | longLiteral
  deriving DecidableEq, Repr

/-- Whether the character can stand in a text only as an escape. A tab and a line break need
none. -/
def isControl (c : Char) : Bool :=
  (c.toNat < 0x20 && c ≠ '\t' && c ≠ '\n') || c.toNat = 0x7F

/-- The length of the longest run of a character, after `current` of them. -/
def longestRun (mark : Char) (current : Nat) : List Char → Nat
  | [] => current
  | c :: rest =>
    if c = mark then longestRun mark (current + 1) rest else max current (longestRun mark 0 rest)

/-- The quotes that a text takes. -/
def quotesFor (chars : List Char) : Quotes :=
  let broken := chars.contains '\n'
  let control := chars.any isControl
  let has (c : Char) : Bool := chars.contains c
  if !control && !broken && !has '\\' && !has '"' then .basic
  else if !control && !broken && !has '\'' then .literal
  else if !control && !has '\\' && longestRun '"' 0 chars ≤ 2 then .longBasic
  else if !control && longestRun '\'' 0 chars ≤ 2 then .longLiteral
  else if broken then .longBasic
  else .basic

/-- A code point by four digits in base sixteen, in upper case. -/
def codeEscape (c : Char) : List Char :=
  let digits := (Nat.toDigits 16 c.toNat).map Char.toUpper
  '\\' :: 'u' :: List.replicate (4 - digits.length) '0' ++ digits

/-- How a character stands between double quotes. -/
def basicChar (c : Char) : List Char :=
  if c = '"' then ['\\', '"']
  else if c = '\\' then ['\\', '\\']
  else if c = '\x08' then ['\\', 'b']
  else if c = '\t' then ['\\', 't']
  else if c = '\n' then ['\\', 'n']
  else if c = '\x0c' then ['\\', 'f']
  else if c = '\r' then ['\\', 'r']
  else if c.toNat < 0x20 || c.toNat = 0x7F then codeEscape c
  else [c]

/-- How characters stand between three double quotes. Two quotes in a row stand for themselves and
the third is escaped; `run` of them stand in front. -/
def longBasicChars (run : Nat) : List Char → List Char
  | [] => []
  | c :: rest =>
    if c = '"' then
      if run = 2 then '\\' :: '"' :: longBasicChars 0 rest else '"' :: longBasicChars (run + 1) rest
    else if c = '\n' then '\n' :: longBasicChars 0 rest
    else basicChar c ++ longBasicChars 0 rest

/-- A line break behind the opening quotes of a text that has line breaks itself. -/
def firstBreak (chars : List Char) : List Char :=
  if chars.contains '\n' then ['\n'] else []

/-- A text with its quotes. -/
def quotedText (chars : List Char) : List Char :=
  match quotesFor chars with
  | .basic => '"' :: chars.flatMap basicChar ++ ['"']
  | .literal => '\'' :: chars ++ ['\'']
  | .longBasic =>
    '"' :: '"' :: '"' :: firstBreak chars ++ longBasicChars 0 chars ++ ['"', '"', '"']
  | .longLiteral => '\'' :: '\'' :: '\'' :: firstBreak chars ++ chars ++ ['\'', '\'', '\'']

/-- A text. -/
def text (value : String) : String :=
  String.ofList (quotedText value.toList)

/-- A list of texts on one line. -/
def texts (values : List String) : String :=
  "[" ++ ", ".intercalate (values.map text) ++ "]"

/-- How a fraction is written: positionally, and always with a point. -/
def fractionStyle : Number.Decimal.Style :=
  { tie := .up, least := none, most := none, pointed := true, undefined := "nan" }

/-- A fraction. -/
def fraction (value : Float) : String :=
  fractionStyle.text value

end CallProfile.Toml

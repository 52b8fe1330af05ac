import CallProfile.Json.Basic

/-!
# The grammar of JSON

Which characters spell a value, without a reader: the productions of the data format, with the text
of a string and the literal of a number as what they spell. `Document` allows white space around the
one value of a text.
-/

namespace CallProfile.Json

/-- White space between the parts of a value. -/
def Gap (chars : List Char) : Prop :=
  ∀ c ∈ chars, c ∈ [' ', '\t', '\n', '\r']

/-! ## Texts -/

/-- The digits of base sixteen with their values, in lower and in upper case. -/
def hexDigits : List (Char × Nat) :=
  ['0', '1', '2', '3', '4', '5', '6', '7', '8', '9', 'a', 'b', 'c', 'd', 'e', 'f'].zipIdx ++
    [('A', 10), ('B', 11), ('C', 12), ('D', 13), ('E', 14), ('F', 15)]

/-- Four digits of base sixteen and their value. -/
inductive HexUnit : List Char → Nat → Prop where
  | intro (a b c d : Char) (i j k l : Nat) :
      (a, i) ∈ hexDigits → (b, j) ∈ hexDigits → (c, k) ∈ hexDigits → (d, l) ∈ hexDigits →
      HexUnit [a, b, c, d] (i * 4096 + j * 256 + k * 16 + l)

/-- The letters of escapes with the characters that they stand for. -/
def letters : List (Char × Char) :=
  [('"', '"'), ('\\', '\\'), ('/', '/'), ('b', '\x08'), ('f', '\x0c'), ('n', '\n'), ('r', '\r'),
    ('t', '\t')]

/-- The characters between two quotes spell the text. Quotes, backslashes and controls are escaped;
any character may be, by its number, and one beyond sixteen bits by the two halves of a pair. -/
inductive SpellsText : List Char → List Char → Prop where
  | nil : SpellsText [] []
  | plain (c : Char) (text chars : List Char) :
      0x20 ≤ c.toNat → c ≠ '"' → c ≠ '\\' → SpellsText text chars →
      SpellsText (c :: text) (c :: chars)
  | letter (letter c : Char) (text chars : List Char) :
      (letter, c) ∈ letters → SpellsText text chars →
      SpellsText (c :: text) ('\\' :: letter :: chars)
  | unit (c : Char) (digits text chars : List Char) :
      HexUnit digits c.toNat → SpellsText text chars →
      SpellsText (c :: text) ('\\' :: 'u' :: digits ++ chars)
  | pair (c : Char) (high low : Nat) (first second text chars : List Char) :
      HexUnit first (0xD800 + high) → HexUnit second (0xDC00 + low) → high < 0x400 → low < 0x400 →
      c.toNat = 0x10000 + high * 0x400 + low → SpellsText text chars →
      SpellsText (c :: text) ('\\' :: 'u' :: first ++ '\\' :: 'u' :: second ++ chars)

/-- The characters are a text between quotes. -/
inductive SpellsString : String → List Char → Prop where
  | intro (text : String) (chars : List Char) :
      SpellsText text.toList chars → SpellsString text ('"' :: chars ++ ['"'])

/-! ## Numbers -/

/-- One or more decimal digits. -/
def Digits (chars : List Char) : Prop :=
  chars ≠ [] ∧ ∀ c ∈ chars, c.isDigit = true

/-- The whole part of a number: zero, or digits that do not begin with zero. -/
def Whole (chars : List Char) : Prop :=
  chars = ['0'] ∨ Digits chars ∧ chars.head? ≠ some '0'

/-- The fraction of a number, or none. -/
def Fraction (chars : List Char) : Prop :=
  chars = [] ∨ ∃ digits, chars = '.' :: digits ∧ Digits digits

/-- The power of ten of a number, or none. -/
def Power (chars : List Char) : Prop :=
  chars = [] ∨ ∃ mark sign digits, chars = mark :: sign ++ digits ∧ mark ∈ ['e', 'E'] ∧
    sign ∈ [[], ['+'], ['-']] ∧ Digits digits

/-- The characters are the literal of a number. -/
inductive Literal : List Char → Prop where
  | intro (sign whole fraction power : List Char) :
      sign ∈ [[], ['-']] → Whole whole → Fraction fraction → Power power →
      Literal (sign ++ whole ++ fraction ++ power)

/-! ## Values -/

mutual

/-- The characters spell the value. -/
inductive Spells : Json → List Char → Prop where
  | null : Spells .null ['n', 'u', 'l', 'l']
  | true : Spells (.bool true) ['t', 'r', 'u', 'e']
  | false : Spells (.bool false) ['f', 'a', 'l', 's', 'e']
  | number (literal : String) : Literal literal.toList → Spells (.number literal) literal.toList
  | string (text : String) (chars : List Char) :
      SpellsString text chars → Spells (.string text) chars
  | emptyArray (gap : List Char) : Gap gap → Spells (.array []) ('[' :: gap ++ [']'])
  | array (items : List Json) (chars : List Char) :
      SpellsItems items chars → Spells (.array items) ('[' :: chars ++ [']'])
  | emptyObject (gap : List Char) : Gap gap → Spells (.object []) ('\x7b' :: gap ++ ['\x7d'])
  | object (fields : List (String × Json)) (chars : List Char) :
      SpellsFields fields chars → Spells (.object fields) ('\x7b' :: chars ++ ['\x7d'])

/-- The characters spell one or more items, with commas and white space around them. -/
inductive SpellsItems : List Json → List Char → Prop where
  | last (before : List Char) (item : Json) (chars after : List Char) :
      Gap before → Spells item chars → Gap after →
      SpellsItems [item] (before ++ chars ++ after)
  | more (before : List Char) (item : Json) (chars after : List Char) (items : List Json)
      (rest : List Char) :
      Gap before → Spells item chars → Gap after → SpellsItems items rest →
      SpellsItems (item :: items) (before ++ chars ++ after ++ ',' :: rest)

/-- The characters spell one or more fields, with commas and white space around them. -/
inductive SpellsFields : List (String × Json) → List Char → Prop where
  | last (field : String × Json) (chars : List Char) :
      SpellsField field chars → SpellsFields [field] chars
  | more (field : String × Json) (chars : List Char) (fields : List (String × Json))
      (rest : List Char) :
      SpellsField field chars → SpellsFields fields rest →
      SpellsFields (field :: fields) (chars ++ ',' :: rest)

/-- The characters spell a key, a colon and a value, with white space around each. -/
inductive SpellsField : String × Json → List Char → Prop where
  | intro (before : List Char) (key : String) (name behind ahead : List Char) (value : Json)
      (chars after : List Char) :
      Gap before → SpellsString key name → Gap behind → Gap ahead → Spells value chars →
      Gap after →
      SpellsField (key, value) (before ++ name ++ behind ++ ':' :: ahead ++ chars ++ after)

end

/-- The text is one value with white space around it. -/
inductive Document (text : String) (value : Json) : Prop where
  | intro (before chars after : List Char) :
      Gap before → Spells value chars → Gap after → text.toList = before ++ chars ++ after →
      Document text value

end CallProfile.Json

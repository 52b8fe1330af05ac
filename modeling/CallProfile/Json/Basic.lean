import CallProfile.Number.Decimal

/-!
# JSON values

Values of the data format in which traces and drawings are exchanged. A number is kept as its
literal, since the text decides more than a number type could hold.
-/

namespace CallProfile

/-- A JSON value. Objects keep the order of their fields. -/
inductive Json where
  | null
  | bool (value : Bool)
  | number (literal : String)
  | string (text : String)
  | array (items : List Json)
  | object (fields : List (String × Json))

namespace Json

/-- A natural number. -/
def ofNat (n : Nat) : Json :=
  number (toString n)

/-- An integer. -/
def ofInt (n : Int) : Json :=
  number (toString n)

/-- How a fraction is written: positionally from `0.00001` up to below `1e16`, always with a
point. -/
def fractionStyle : Number.Decimal.Style :=
  { tie := .toEven, least := some (-4), most := some 16, pointed := true, undefined := "null" }

/-- A binary64 number. Numbers that are not finite have no literal. -/
def ofFloat (x : Float) : Json :=
  if x.isFinite then number (fractionStyle.text x) else null

/-- A list of texts. -/
def ofStrings (texts : List String) : Json :=
  array (texts.map string)

/-- A value, or `null` for none. -/
def ofOption : Option Json → Json
  | some value => value
  | none => null

/-- The last value under a key of an object. -/
def field? (key : String) : Json → Option Json
  | object fields => fields.reverse.lookup key
  | _ => none

end Json

end CallProfile

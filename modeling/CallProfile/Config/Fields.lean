import CallProfile.Config.Basic
import CallProfile.Config.Layer
import CallProfile.Number.Power
import CallProfile.Number.Reading

/-!
# Fields of a configuration

How settings become the fields of a configuration. Values convert where their meaning is plain:
numbers and truth values to text, fractions to the nearest integer, words and digits to numbers.
-/

namespace CallProfile

namespace Setting

/-- The text of a single value. -/
def asText? : Setting → Option String
  | text value => some value
  | boolean value => some (if value then "true" else "false")
  | integer value => some (toString value)
  | real value => some (Config.plainStyle.text value)
  | _ => none

/-- The texts of a list of single values. -/
def asTexts? : Setting → Option (List String)
  | list items => items.mapM asText?
  | _ => none

/-- The truth value of a word, in any case. -/
def truth? (word : String) : Option Bool :=
  let lower := String.ofList (word.toList.map Char.toLower)
  if ["true", "on", "yes"].contains lower then some true
  else if ["false", "off", "no"].contains lower then some false
  else none

/-- The numbers of 32 bits are those below this one. -/
def limit32 : Nat := Number.powerOfTwo 32

/-- The natural number nearest to a number, within 64 bits. -/
def nearestNatural (x : Float) : Nat :=
  match Number.Binary64.decode x with
  | .infinite negative => if negative then 0 else Number.limit64 - 1
  | .undefined => 0
  | .finite _ _ _ =>
    min ((Number.Binary64.nearest? x).getD 0).toNat (Number.limit64 - 1)

/-- A natural number. -/
def asNatural? : Setting → Option Nat
  | integer value => if 0 ≤ value then some value.toNat else none
  | boolean value => some value.toNat
  | real value => some (nearestNatural value)
  | text value =>
    match truth? value with
    | some b => some b.toNat
    | none => Number.readNatural? Number.limit64 value.toList
  | _ => none

/-- A natural number of 32 bits. -/
def asNatural32? (setting : Setting) : Option Nat :=
  setting.asNatural?.filter (· < limit32)

/-- A fraction. -/
def asReal? : Setting → Option Float
  | real value => some value
  | integer value => some (Float.ofInt value)
  | boolean value => some (if value then 1 else 0)
  | text value =>
    match truth? value with
    | some b => some (if b then 1 else 0)
    | none => Number.readFloat? value
  | _ => none

/-- The settings that make up a configuration. -/
def ofConfig (c : Config) : List (String × Setting) :=
  [("output-dir", text c.outputDir), ("access-ops", list (c.accessOps.map text)),
    ("mutate-ops", list (c.mutateOps.map text)), ("other-threshold", real c.otherThreshold),
    ("width", integer c.width), ("height", integer c.height)]

end Setting

namespace Config

/-- The problem of a field whose setting does not fit. -/
def misfit (key : String) : Problem :=
  .unreadable ("invalid value for `" ++ key ++ "`")

/-- The field of a key, which must have a setting. -/
def field {α : Type} (convert : Setting → Option α) (settings : Setting) (key : String) :
    Except Problem α :=
  match (settings.entries.lookup key).bind convert with
  | some value => .ok value
  | none => .error (misfit key)

/-- The field of a key, which may be left out. -/
def optionalField {α : Type} (convert : Setting → Option α) (settings : Setting) (key : String) :
    Except Problem (Option α) :=
  match settings.entries.lookup key with
  | none => .ok none
  | some .absent => .ok none
  | some setting =>
    match convert setting with
    | some value => .ok (some value)
    | none => .error (misfit key)

/-- The configuration of settings. -/
def ofSettings (settings : Setting) : Except Problem Config := do
  return {
    input := ← optionalField Setting.asText? settings "input"
    outputDir := ← field Setting.asText? settings "output-dir"
    tableId := ← optionalField Setting.asText? settings "table-id"
    accessOps := ← field Setting.asTexts? settings "access-ops"
    mutateOps := ← field Setting.asTexts? settings "mutate-ops"
    otherThreshold := ← field Setting.asReal? settings "other-threshold"
    width := ← field Setting.asNatural32? settings "width"
    height := ← field Setting.asNatural32? settings "height" }

end Config

end CallProfile

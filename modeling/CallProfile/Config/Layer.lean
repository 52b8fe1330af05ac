import CallProfile.Config.Setting

/-!
# Layers of settings

Settings of several sources are laid over one another, and the later source counts. A key can be a
path into tables and lists, such as `a.b` or `a[0]`; a key that is no path names itself.
-/

namespace CallProfile

/-- A step of a path. -/
inductive KeyStep where
  | key (name : String)
  /-- An item of a list, counted from the end if negative. -/
  | index (position : Int)
  deriving DecidableEq, Repr

namespace Setting

/-- The entries of a table; nothing else has any. -/
def entries : Setting → List (String × Setting)
  | table entries => entries
  | _ => []

/-- The items of a list; nothing else has any. -/
def items : Setting → List Setting
  | list items => items
  | _ => []

/-- Put a setting under a name, in place of the one that is there. -/
def putEntry (entries : List (String × Setting)) (name : String) (value : Setting) :
    List (String × Setting) :=
  entries.filter (·.1 != name) ++ [(name, value)]

/-- Change the item at a position. A list that is too short is filled up with absent items, in front
for a position counted from the end. -/
def updateItem (items : List Setting) (position : Int) (change : Setting → Setting) :
    List Setting :=
  match position with
  | .ofNat i =>
    let filled := items ++ List.replicate (i + 1 - items.length) absent
    filled.modify i change
  | .negSucc back =>
    if back < items.length then items.modify (items.length - 1 - back) change
    else
      match List.replicate (back + 1 - items.length) absent ++ items with
      | first :: rest => change first :: rest
      | [] => []

/-- Change the setting at the end of a path. What stands in the way becomes a table or a list. -/
def update (change : Setting → Setting) : List KeyStep → Setting → Setting
  | [], setting => change setting
  | .key name :: path, setting =>
    let inner := (setting.entries.lookup name).getD absent
    table (putEntry setting.entries name (update change path inner))
  | .index position :: path, setting =>
    list (updateItem setting.items position (update change path))

mutual

/-- Lay a setting over another. Tables are merged key by key. -/
def atop : Setting → Setting → Setting
  | table entries, below => table (entriesAtop entries below.entries)
  | setting, _ => setting

/-- Lay entries over others. -/
def entriesAtop : List (String × Setting) → List (String × Setting) → List (String × Setting)
  | [], below => below
  | (name, setting) :: rest, below =>
    entriesAtop rest (putEntry below name (atop setting ((below.lookup name).getD absent)))

end

end Setting

namespace KeyStep

/-- Whether the character may stand in a name of a path. -/
def isNameChar (c : Char) : Bool :=
  c.isAlphanum || c = '_' || c = '-'

/-- A name of at least one character, and what follows it. -/
def readName? (chars : List Char) : Option (String × List Char) :=
  let name := chars.takeWhile isNameChar
  if name.isEmpty then none else some (String.ofList name, chars.dropWhile isNameChar)

/-- The position between brackets. -/
def readPosition? (chars : List Char) : Option Int :=
  let isSpace (c : Char) : Bool := c = ' ' || c = '\t'
  let trimmed := ((chars.dropWhile isSpace).reverse.dropWhile isSpace).reverse
  let value (digits : List Char) : Option Nat :=
    if !digits.isEmpty && digits.all Char.isDigit then (String.ofList digits).toNat? else none
  match trimmed with
  | '-' :: digits => (value digits).map fun n => -(n : Int)
  | '+' :: digits => (value digits).map Int.ofNat
  | digits => (value digits).map Int.ofNat

/-- The steps behind the first name. -/
def readSteps? : Nat → List Char → Option (List KeyStep)
  | 0, _ => none
  | _, [] => some []
  | fuel + 1, '.' :: rest => do
    let (name, rest) ← readName? rest
    return .key name :: (← readSteps? fuel rest)
  | fuel + 1, '[' :: rest => do
    let position ← readPosition? (rest.takeWhile (· != ']'))
    match rest.dropWhile (· != ']') with
    | _ :: rest => return .index position :: (← readSteps? fuel rest)
    | [] => none
  | _, _ => none

/-- The steps of a path. A text that is no path is a name. -/
def path (text : String) : List KeyStep :=
  let steps : Option (List KeyStep) := do
    let (name, rest) ← readName? text.toList
    return .key name :: (← readSteps? (rest.length + 1) rest)
  steps.getD [.key text]

end KeyStep

/-- Lay settings by their keys over a setting. -/
def Setting.layer (below : Setting) (layer : List (String × Setting)) : Setting :=
  layer.foldl (fun below (key, setting) => below.update setting.atop (KeyStep.path key)) below

end CallProfile

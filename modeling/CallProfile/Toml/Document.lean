import CallProfile.Config.Setting
import CallProfile.Toml.Moment
import CallProfile.Toml.Number
import CallProfile.Toml.Text

/-!
# TOML documents

A document assigns values to keys, in tables that are opened by headers. Every key and every table
is defined once; only tables that came up on the way to others may still be opened or extended.
-/

namespace CallProfile.Toml

/-- How a table came up. -/
inductive Origin where
  /-- On the way to a table that a header opened. -/
  | implied
  /-- By its own header. -/
  | header
  /-- By a key with points in it. -/
  | dotted
  deriving DecidableEq, Repr

/-- What stands under a key while a document is read. -/
inductive Node where
  | value (setting : Setting)
  | table (origin : Origin) (entries : List (String × Node))
  /-- Tables opened one after the other under the same header. -/
  | tables (all : List (List (String × Node)))

/-- The entries of a table. -/
abbrev Entries := List (String × Node)

/-- Put a node under a key, in place of the one that is there. -/
def putNode (entries : Entries) (key : String) (node : Node) : Entries :=
  entries.filter (·.1 != key) ++ [(key, node)]

/-- A step into a table: its entries, and how the changed entries are put back. -/
abbrev Enter := Option Node → Option (Entries × (Entries → Node))

/-- Step into the last of several tables. -/
def enterLast (all : List Entries) : Entries × (Entries → Node) :=
  (all.getLast?.getD [], fun entries => .tables (all.dropLast ++ [entries]))

/-- A step on the way to the table of a header. -/
def enterHeader : Enter
  | none => some ([], .table .implied)
  | some (.table origin entries) => some (entries, .table origin)
  | some (.tables all) => some (enterLast all)
  | some (.value _) => none

/-- A step on the way along a key with points. Tables with a header of their own are closed. -/
def enterDotted : Enter
  | none => some ([], .table .dotted)
  | some (.table .header _) => none
  | some (.table origin entries) => some (entries, .table origin)
  | some (.tables all) => some (enterLast all)
  | some (.value _) => none

/-- The last step along a key with points, into a table that only such keys extend. -/
def enterOwner : Enter
  | none => some ([], .table .dotted)
  | some (.table .dotted entries) => some (entries, .table .dotted)
  | _ => none

/-- Change the entries at the end of a path. -/
def within (enter : Enter) (change : Entries → Option Entries) :
    List String → Entries → Option Entries
  | [], entries => change entries
  | key :: path, entries => do
    let (inner, rebuild) ← enter (entries.lookup key)
    let changed ← within enter change path inner
    return putNode entries key (rebuild changed)

/-- Add a node under a key that is still free. -/
def addNode (key : String) (node : Node) (entries : Entries) : Option Entries :=
  if (entries.lookup key).isSome then none else some (entries ++ [(key, node)])

/-- Assign a value to a key of some parts. -/
def assign (key : List String) (value : Setting) (entries : Entries) : Option Entries :=
  match key.reverse with
  | [] => none
  | [name] => addNode name (.value value) entries
  | name :: owner :: above =>
    within enterDotted (within enterOwner (addNode name (.value value)) [owner]) above.reverse
      entries

/-- Open the table of a header. -/
def openTable (path : List String) (root : Entries) : Option Entries :=
  match path.reverse with
  | [] => none
  | name :: above =>
    within enterHeader (fun entries =>
      match entries.lookup name with
      | none => some (entries ++ [(name, .table .header [])])
      | some (.table .implied inner) => some (putNode entries name (.table .header inner))
      | _ => none) above.reverse root

/-- Open one more table of a header with double brackets. -/
def openElement (path : List String) (root : Entries) : Option Entries :=
  match path.reverse with
  | [] => none
  | name :: above =>
    within enterHeader (fun entries =>
      match entries.lookup name with
      | none => some (entries ++ [(name, .tables [[]])])
      | some (.tables all) => some (putNode entries name (.tables (all ++ [[]])))
      | _ => none) above.reverse root

mutual

/-- The setting of a node. -/
def Node.toSetting : Node → Setting
  | .value setting => setting
  | .table _ entries => .table (entrySettings entries)
  | .tables all => .list (tableSettings all)

/-- The settings of entries. -/
def entrySettings : List (String × Node) → List (String × Setting)
  | [] => []
  | (key, node) :: rest => (key, node.toSetting) :: entrySettings rest

/-- The settings of tables. -/
def tableSettings : List (List (String × Node)) → List Setting
  | [] => []
  | entries :: rest => .table (entrySettings entries) :: tableSettings rest

end

/-- Whether the character is a space within a line. -/
def isLineSpace (c : Char) : Bool :=
  c = ' ' || c = '\t'

/-- The characters after spaces within the line. -/
def skipSpace (chars : List Char) : List Char :=
  chars.dropWhile isLineSpace

/-- The characters after spaces, line breaks and comments (`comment` within one). -/
def skipTrivia (comment : Bool) : List Char → Option (List Char)
  | [] => some []
  | '\r' :: '\n' :: rest => skipTrivia false rest
  | '\n' :: rest => skipTrivia false rest
  | c :: rest =>
    if comment then if isTextChar c then skipTrivia true rest else none
    else if isLineSpace c then skipTrivia false rest
    else if c = '#' then skipTrivia true rest
    else some (c :: rest)

/-- Whether the line ends here, but for spaces and a comment. -/
def endsLine (chars : List Char) : Bool :=
  match skipSpace chars with
  | [] => true
  | '\n' :: _ => true
  | '\r' :: '\n' :: _ => true
  | '#' :: _ => true
  | _ => false

/-- Whether the character may stand in a key without quotes. -/
def isBareChar (c : Char) : Bool :=
  c.isAlphanum || c = '_' || c = '-'

/-- One part of a key, and what follows it. -/
def readKeyPart (chars : List Char) : Option (String × List Char) :=
  match chars with
  | '"' :: rest => (readBasic rest).map fun (text, rest) => (String.ofList text, rest)
  | '\'' :: rest => (readLiteral rest).map fun (text, rest) => (String.ofList text, rest)
  | _ =>
    let name := chars.takeWhile isBareChar
    if name.isEmpty then none else some (String.ofList name, chars.dropWhile isBareChar)

/-- A key with points between its parts, and what follows it. -/
def readKey : Nat → List Char → Option (List String × List Char)
  | 0, _ => none
  | fuel + 1, chars => do
    let (part, rest) ← readKeyPart (skipSpace chars)
    match skipSpace rest with
    | '.' :: rest =>
      let (parts, rest) ← readKey fuel rest
      return (part :: parts, rest)
    | rest => return ([part], rest)

/-- Whether the character ends a value without quotes. -/
def endsWord (c : Char) : Bool :=
  isLineSpace c || c = '\n' || c = '\r' || c = ',' || c = ']' || c = '\x7d' || c = '#' || c = '='

/-- The characters of a value without quotes, and what follows them. A space between a date and a
time belongs to the value. -/
def takeWord (chars : List Char) : List Char × List Char :=
  let word := chars.takeWhile (!endsWord ·)
  let rest := chars.dropWhile (!endsWord ·)
  match takeDate? word, rest with
  | some (_, []), ' ' :: c :: more =>
    if Number.isDigit c then
      (word ++ ' ' :: (c :: more).takeWhile (!endsWord ·), (c :: more).dropWhile (!endsWord ·))
    else (word, rest)
  | _, _ => (word, rest)

/-- The value of a word. -/
def wordValue? (word : List Char) : Option Setting :=
  if word = ['t', 'r', 'u', 'e'] then some (.boolean true)
  else if word = ['f', 'a', 'l', 's', 'e'] then some (.boolean false)
  else
    match readMoment? word, readInteger? word, readReal? word with
    | some moment, _, _ => some (.text (String.ofList moment))
    | none, some n, _ => some (.integer n)
    | none, none, some x => some (.real x)
    | none, none, none => none

mutual

/-- A value, and what follows it. -/
def readValue : Nat → List Char → Option (Setting × List Char)
  | 0, _ => none
  | fuel + 1, chars =>
    match chars with
    | '"' :: _ | '\'' :: _ =>
      (readText chars).map fun (text, rest) => (.text (String.ofList text), rest)
    | '[' :: rest => (readItems fuel rest).map fun (items, rest) => (.list items, rest)
    | '\x7b' :: rest =>
      (readFields fuel [] rest).map fun (entries, rest) => (.table (entrySettings entries), rest)
    | _ =>
      let (word, rest) := takeWord chars
      (wordValue? word).map (·, rest)

/-- The items of a list up to its bracket. -/
def readItems : Nat → List Char → Option (List Setting × List Char)
  | 0, _ => none
  | fuel + 1, chars => do
    match ← skipTrivia false chars with
    | ']' :: rest => return ([], rest)
    | chars =>
      let (item, rest) ← readValue fuel chars
      match ← skipTrivia false rest with
      | ',' :: rest =>
        let (items, rest) ← readItems fuel rest
        return (item :: items, rest)
      | ']' :: rest => return ([item], rest)
      | _ => none

/-- The entries of a table in braces, after those already read. -/
def readFields : Nat → Entries → List Char → Option (Entries × List Char)
  | 0, _, _ => none
  | fuel + 1, entries, chars => do
    match ← skipTrivia false chars with
    | '\x7d' :: rest => return (entries, rest)
    | chars =>
      let (key, rest) ← readKey fuel chars
      match rest with
      | '=' :: rest =>
        let (value, rest) ← readValue fuel (skipSpace rest)
        let entries ← assign key value entries
        match ← skipTrivia false rest with
        | ',' :: rest => readFields fuel entries rest
        | '\x7d' :: rest => return (entries, rest)
        | _ => none
      | _ => none

end

/-- A document being read: everything so far, and the table that is open. -/
structure Draft where
  root : Entries
  path : List String

/-- A key and its value in the open table. -/
def readAssignment (fuel : Nat) (draft : Draft) (chars : List Char) :
    Option (Draft × List Char) := do
  let (key, rest) ← readKey fuel chars
  match rest with
  | '=' :: rest =>
    let (value, rest) ← readValue fuel (skipSpace rest)
    let root ← within enterHeader (assign key value) draft.path draft.root
    return ({ draft with root }, rest)
  | _ => none

/-- A header up to its closing brackets. -/
def readHeader (fuel : Nat) (draft : Draft) (chars : List Char) : Option (Draft × List Char) := do
  match chars with
  | '[' :: chars =>
    let (path, rest) ← readKey fuel chars
    match rest with
    | ']' :: ']' :: rest => return (⟨← openElement path draft.root, path⟩, rest)
    | _ => none
  | chars =>
    let (path, rest) ← readKey fuel chars
    match rest with
    | ']' :: rest => return (⟨← openTable path draft.root, path⟩, rest)
    | _ => none

/-- The statements of a document. -/
def readStatements : Nat → Draft → List Char → Option Draft
  | 0, _, _ => none
  | fuel + 1, draft, chars => do
    match ← skipTrivia false chars with
    | [] => return draft
    | chars =>
      let (draft, rest) ←
        match chars with
        | '[' :: rest => readHeader fuel draft rest
        | chars => readAssignment fuel draft chars
      if endsLine rest then readStatements fuel draft rest else none

/-- The settings of a document. A byte order mark in front of it is left out. -/
def read? (text : String) : Option (List (String × Setting)) :=
  let chars :=
    match text.toList with
    | c :: rest => if c.toNat = 0xFEFF then rest else c :: rest
    | [] => []
  (readStatements (2 * chars.length + 2) ⟨[], []⟩ chars).map fun draft => entrySettings draft.root

end CallProfile.Toml

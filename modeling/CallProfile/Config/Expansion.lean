import CallProfile.Environment
import CallProfile.Path
import CallProfile.Text.Alphanumeric

/-!
# Expansion of paths

A path may name variables (`$NAME`, `${NAME}`, or `${NAME:-default}`) and begin with `~` for the
home directory. Two dollar signs stand for one. A path that names a variable without a value is
left as it is.
-/

namespace CallProfile.Expansion

/-- Whether the character may stand in the name of a variable. -/
def isNameChar (c : Char) : Bool :=
  c.isAlphanum || c = '_' || Text.alphanumericBeyondAscii.contains c

/-- The characters in front of a mark and those behind it, if it occurs. -/
def splitAt? (mark : List Char) : List Char → Option (List Char × List Char)
  | [] => none
  | c :: rest =>
    match mark.isPrefixOf? (c :: rest) with
    | some after => some ([], after)
    | none => (splitAt? mark rest).map fun (before, after) => (c :: before, after)

/-- A name in braces, with the default behind `:-` unless the name would be empty. -/
def nameAndDefault (inside : List Char) : List Char × Option (List Char) :=
  match splitAt? [':', '-'] inside with
  | some ([], _) => (inside, none)
  | some (name, default) => (name, some default)
  | none => (inside, none)

/-- The value of a variable, or its name as the reason why there is none. -/
def valueOf (env : Environment) (name : List Char) (default : Option (List Char)) :
    Except String (List Char) :=
  match env.get? (String.ofList name), default with
  | some value, _ => .ok value.toList
  | none, some text => .ok text
  | none, none => .error (String.ofList name)

/-- The characters of a path with its variables replaced, in at most `fuel` steps. -/
def expandFrom (env : Environment) : Nat → List Char → Except String (List Char)
  | 0, _ => .ok []
  | _, [] => .ok []
  | fuel + 1, c :: rest =>
    if c ≠ '$' then return c :: (← expandFrom env fuel rest)
    else
      match rest with
      | '$' :: rest => return '$' :: (← expandFrom env fuel rest)
      | '\x7b' :: more =>
        match splitAt? ['\x7d'] more with
        | none => return '$' :: '\x7b' :: (← expandFrom env fuel more)
        | some (inside, after) => do
          let (name, default) := nameAndDefault inside
          let value ← valueOf env name default
          return value ++ (← expandFrom env fuel after)
      | rest =>
        let name := rest.takeWhile isNameChar
        if name.isEmpty then return '$' :: (← expandFrom env fuel rest)
        else do
          let value ← valueOf env name none
          return value ++ (← expandFrom env fuel (rest.dropWhile isNameChar))

/-- The path with its variables replaced. -/
def expandVariables (env : Environment) (path : String) : Except String String :=
  (expandFrom env path.length.succ path.toList).map String.ofList

/-- The path with the home directory in place of a tilde that stands for it. -/
def expandHome (env : Environment) (path : String) : String :=
  match path.toList, env.home? with
  | ['~'], some home => home
  | '~' :: '/' :: rest, some home => home ++ String.ofList ('/' :: rest)
  | _, _ => path

/-- Whether the path begins with a tilde. -/
def beginsWithTilde (path : String) : Bool :=
  path.toList.head? == some '~'

/-- The expanded path, or the variable that has no value. A tilde that comes from a variable stands
for itself. -/
def expand (env : Environment) (path : String) : Except String String := do
  let expanded ← expandVariables env path
  if !beginsWithTilde path && beginsWithTilde expanded then return expanded
  else return expandHome env expanded

/-- The expanded path, or the path itself if a variable has no value. -/
def expandOrKeep (env : Environment) (path : String) : String :=
  match expand env path with
  | .ok expanded => expanded
  | .error _ => path

/-- What is logged about a variable without a value. -/
def complaint (path name : String) : String :=
  "Not expanding " ++ path ++ ": error looking key '" ++ name ++
    "' up: environment variable not found"

end CallProfile.Expansion

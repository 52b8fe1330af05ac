import CallProfile.Config.Expansion
import CallProfile.Config.Fields
import CallProfile.Console
import CallProfile.Number.Natural
import CallProfile.Path
import CallProfile.Text.Utf8
import CallProfile.Toml.Document

/-!
# Loading a configuration

A configuration has three layers: the defaults, a file, and the environment. The file is the one
that is named, or else the file of the user if there is one.
-/

namespace CallProfile.Config

/-- The beginning of the variables that hold settings, in lower case. -/
def variableStart : String := "corfu_profiler_"

/-- The keys whose variables are lists between commas. -/
def listKeys : List String := ["access-ops", "mutate-ops"]

/-- Whether a word ends between two characters: a letter and a digit, in either order. -/
def wordEndsBetween (a b : Char) : Bool :=
  (a.isAlpha && b.isDigit) || (a.isDigit && b.isAlpha)

/-- The characters with hyphens between their words. Words end at underscores, hyphens and spaces,
and between letters and digits. -/
def hyphenated : List Char → List Char
  | a :: b :: rest =>
    if wordEndsBetween a b then a :: '-' :: hyphenated (b :: rest) else a :: hyphenated (b :: rest)
  | chars => chars

/-- The key that a name in lower case stands for. -/
def keyOfName (name : List Char) : String :=
  let isMark (c : Char) : Bool := c = '_' || c = '-' || c = ' '
  let words := ((hyphenated name).splitOnP isMark).filter (!·.isEmpty)
  "-".intercalate (words.map String.ofList)

/-- The setting of a variable under a key. A value that looks like a truth value or a number is one,
but for the keys of lists. -/
def settingOfVariable (key value : String) : Setting :=
  if listKeys.contains key then
    .list ((value.toList.splitOnP (· == ',')).map fun item => .text (String.ofList item))
  else
    let lower := String.ofList (value.toList.map Char.toLower)
    if lower = "true" then .boolean true
    else if lower = "false" then .boolean false
    else
      match Number.readInteger? value.toList, Number.readFloat? value with
      | some n, _ => .integer n
      | none, some x => .real x
      | none, none => .text value

/-- The setting of a variable, if it holds one. -/
def ofVariable? (name value : String) : Option (String × Setting) :=
  (variableStart.toList.isPrefixOf? (name.toList.map Char.toLower)).map fun rest =>
    let key := keyOfName rest
    (key, settingOfVariable key value)

/-- The settings of the environment. -/
def ofEnvironment (env : Environment) : List (String × Setting) :=
  env.bindings.filterMap fun (name, value) => ofVariable? name value

/-- The configuration of a file's settings and the environment over the defaults. -/
def ofLayers (file : List (String × Setting)) (env : Environment) : Except Problem Config :=
  let settings :=
    (((Setting.table []).layer (Setting.ofConfig default)).layer file).layer (ofEnvironment env)
  match ofSettings settings with
  | .ok config => config.validated
  | .error problem => .error problem

/-- The variable that names the file of the user. -/
def pathVariable : String := "CORFU_PROFILER_CONFIG_PATH"

/-- The file of the user: the one a variable names, or a file in the directory for configurations,
which `XDG_CONFIG_HOME` gives if it is absolute and which lies in the home directory otherwise. -/
def userPath? (env : Environment) : Option String :=
  match env.get? pathVariable with
  | some path => some path
  | none =>
    let directory :=
      match (env.get? "XDG_CONFIG_HOME").filter Path.isAbsolute with
      | some directory => some directory
      | none => env.home?.map fun home => Path.join home ".config"
    directory.map fun directory => Path.joinAll directory ["corfu-profiler", "config.toml"]

/-- The ending of files that can be read. -/
def fileExtension : String := "toml"

/-- The path with the ending of files that can be read. -/
def withExtension? (path : String) : Option String :=
  (Path.fileName? path).map fun name =>
    Path.join ((Path.parent? path).getD "") (name ++ "." ++ fileExtension)

/-- The problem of a file that is not there. -/
def missingFile (path : String) : Problem :=
  .unreadable ("configuration file \"" ++ path ++ "\" not found")

/-- The problem of a file whose ending is not known. -/
def unknownFormat (path : String) : Problem :=
  .unreadable ("configuration file \"" ++ path ++ "\" is not of a registered file format")

/-- The bytes of a file without the byte order mark in front of them. -/
def withoutMark : List UInt8 → List UInt8
  | 0xEF :: 0xBB :: 0xBF :: rest => rest
  | bytes => bytes

/-- The settings of a file. -/
def settingsOfBytes (path : String) (bytes : List UInt8) :
    Except Problem (List (String × Setting)) :=
  match Toml.read? (Text.Utf8.decodeLossy (withoutMark bytes)) with
  | some settings => .ok settings
  | none => .error (.unreadable ("invalid TOML in " ++ path))

variable {m : Type → Type} [Monad m] [Host m]

/-- Whether a path leads to a file. -/
def isFile (path : String) : m Bool := do
  return (← Host.isPresent path) && !(← Host.isDirectory path)

/-- The settings of a file that is there. -/
def readSettings (path : String) : m (Except Problem (List (String × Setting))) := do
  match ← Host.readFile path with
  | .ok bytes => return settingsOfBytes path bytes
  | .error fault => return .error (.unreadable fault.message)

/-- The settings of a named file. Where there is none of that name, the usual ending is added. -/
def readNamed (path : String) : m (Except Problem (List (String × Setting))) := do
  if ← isFile path then
    if Path.extension? path = some fileExtension then readSettings path
    else return .error (unknownFormat path)
  else
    match withExtension? path with
    | none => return .error (missingFile path)
    | some extended =>
      if ← isFile extended then readSettings extended else return .error (missingFile path)

/-- The settings of the file layer. -/
def readFileLayer (console : Console) (env : Environment) (named : Option String) :
    m (Except Problem (List (String × Setting))) := do
  match named, userPath? env with
  | some path, _ => readNamed path
  | none, none => return .ok []
  | none, some path =>
    if ← Host.isPresent path then
      console.log .settings .debug ("Loading config from " ++ path)
      readNamed path
    else return .ok []

/-- Load the configuration, with a named file or that of the user. -/
def load (console : Console) (env : Environment) (named : Option String) :
    m (Except Problem Config) := do
  match ← readFileLayer console env named with
  | .ok file => return ofLayers file env
  | .error problem => return .error problem

/-- A path of the configuration, expanded. A path that is not expanded is logged. -/
def resolvePath (console : Console) (env : Environment) (path : String) : m String := do
  match Expansion.expand env path with
  | .ok expanded => return expanded
  | .error name =>
    console.log .settings .debug (Expansion.complaint path name)
    return path

end CallProfile.Config

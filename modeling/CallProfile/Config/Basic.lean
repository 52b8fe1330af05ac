import CallProfile.Number.Decimal
import CallProfile.Text.Quoted
import CallProfile.Toml.Printer

/-!
# Configurations

Everything the user can set, with its defaults and the conditions that a usable configuration meets.
-/

namespace CallProfile

open Number (Decimal)

/-- The settings of the program. -/
structure Config where
  /-- A log file or a directory of logs. -/
  input : Option String
  /-- The directory for charts. -/
  outputDir : String
  /-- The table that charts of a single table break down. -/
  tableId : Option String
  /-- The methods that count as accesses. -/
  accessOps : List String
  /-- The methods that count as mutations. -/
  mutateOps : List String
  /-- Slices of pies below this share are folded together. -/
  otherThreshold : Float
  /-- The width of charts in pixels. -/
  width : Nat
  /-- The height of charts in pixels. -/
  height : Nat

namespace Config

/-- The configuration without any file or variable. -/
def default : Config :=
  { input := none
    outputDir := "results"
    tableId := none
    accessOps := ["containsKey"]
    mutateOps := ["put"]
    otherThreshold := 0.015
    width := 1024
    height := 768 }

/-- Why a configuration is not usable. -/
inductive Problem where
  | thresholdOutOfRange (threshold : String)
  | emptySize
  | noOutputDir
  /-- The sources of the configuration could not be read, or do not fit the fields. -/
  | unreadable (reason : String)
  deriving DecidableEq, Repr

/-- The wording of a problem. -/
def Problem.message : Problem → String
  | thresholdOutOfRange threshold => "other-threshold must be in [0, 1), got " ++ threshold
  | emptySize => "width and height must be non-zero"
  | noOutputDir => "output-dir cannot be empty"
  | unreadable reason => reason

/-- How a number is told: positionally, with a point only where there are decimal places. -/
def plainStyle : Decimal.Style :=
  { tie := .up, least := none, most := none, pointed := false, undefined := "NaN" }

/-- The first condition that a configuration does not meet. -/
def problem? (c : Config) : Option Problem :=
  if !(decide (0 ≤ c.otherThreshold) && decide (c.otherThreshold < 1)) then
    some (.thresholdOutOfRange (plainStyle.text c.otherThreshold))
  else if c.width = 0 || c.height = 0 then some .emptySize
  else if c.outputDir = "" then some .noOutputDir
  else none

/-- The configuration, if it is usable. -/
def validated (c : Config) : Except Problem Config :=
  match c.problem? with
  | some problem => .error problem
  | none => .ok c

/-- The line of a key in a document. -/
def tomlLine (key value : String) : String :=
  key ++ " = " ++ value ++ "\n"

/-- The configuration as a TOML document. Fields without a value are left out. -/
def toToml (c : Config) : String :=
  let optional (key : String) (value : Option String) : List String :=
    value.toList.map fun text => tomlLine key (Toml.text text)
  String.join
    (optional "input" c.input ++ [tomlLine "output-dir" (Toml.text c.outputDir)] ++
      optional "table-id" c.tableId ++
      [tomlLine "access-ops" (Toml.texts c.accessOps),
        tomlLine "mutate-ops" (Toml.texts c.mutateOps),
        tomlLine "other-threshold" (Toml.fraction c.otherThreshold),
        tomlLine "width" (toString c.width), tomlLine "height" (toString c.height)])

/-- How a number is shown among other fields: always with a point, and with an exponent from
`1e16` on and below `0.0001`. -/
def shownStyle : Decimal.Style :=
  { tie := .up, least := some (-3), most := some 16, pointed := true, undefined := "NaN" }

/-- The configuration on one line, as it is logged. -/
def shown (c : Config) : String :=
  let optional : Option String → String
    | some text => "Some(" ++ Text.quoted text ++ ")"
    | none => "None"
  let list (texts : List String) : String := "[" ++ ", ".intercalate (texts.map Text.quoted) ++ "]"
  "ProfilerConfig \x7b input: " ++ optional c.input ++
    ", output_dir: " ++ Text.quoted c.outputDir ++ ", table_id: " ++ optional c.tableId ++
    ", access_ops: " ++ list c.accessOps ++ ", mutate_ops: " ++ list c.mutateOps ++
    ", other_threshold: " ++ shownStyle.text c.otherThreshold ++ ", width: " ++ toString c.width ++
    ", height: " ++ toString c.height ++ " \x7d"

end Config

end CallProfile

import CallProfile.Chart.Kind

/-!
# Parameters

What can be told to the program on its command line: options, which are called by a name of one
letter or of words, and one argument without a name.
-/

namespace CallProfile.CommandLine

/-- A parameter of the command line. -/
inductive Parameter where
  /-- The log to read, the only parameter without a name. -/
  | input
  | outputDir
  | verbose
  | chart
  | config
  | tableId
  | accessOp
  | mutateOp
  | help
  | version
  deriving DecidableEq, Repr

/-- What a value must be. -/
inductive ValueRule where
  /-- Any text. -/
  | anyText
  /-- A path, which is never empty. -/
  | path
  /-- The name of a kind of chart. -/
  | chartName
  deriving DecidableEq, Repr

/-- What is wrong with a value. -/
inductive ValueFault where
  /-- There is none. -/
  | absent
  /-- It is not among those that are possible. -/
  | unknown
  deriving DecidableEq, Repr

/-- What is wrong with a value under a rule. An empty value counts as none where a rule does not
allow it. -/
def ValueRule.fault? (rule : ValueRule) (value : String) : Option ValueFault :=
  match rule with
  | anyText => none
  | path => if value = "" then some .absent else none
  | chartName =>
    if (ChartKind.ofName? value).isSome then none
    else if value = "" then some .absent
    else some .unknown

namespace Parameter

/-- The long name of an option, which is written behind two hyphens. -/
def long? : Parameter → Option String
  | input => none
  | outputDir => some "output-dir"
  | verbose => some "verbose"
  | chart => some "chart"
  | config => some "config"
  | tableId => some "table-id"
  | accessOp => some "access-op"
  | mutateOp => some "mutate-op"
  | help => some "help"
  | version => some "version"

/-- The letter of an option, which is written behind one hyphen. -/
def short? : Parameter → Option Char
  | outputDir => some 'o'
  | verbose => some 'v'
  | help => some 'h'
  | version => some 'V'
  | _ => none

/-- What the value is called, if the parameter takes one. -/
def valueName? : Parameter → Option String
  | input => some "INPUT"
  | outputDir => some "DIR"
  | chart => some "CHART"
  | config => some "FILE"
  | tableId => some "TABLE_ID"
  | accessOp | mutateOp => some "METHOD"
  | verbose | help | version => none

/-- Whether the parameter takes a value. -/
def takesValue (p : Parameter) : Bool :=
  p.valueName?.isSome

/-- Whether the parameter may be given more than once. -/
def isRepeatable : Parameter → Bool
  | chart | accessOp | mutateOp => true
  | _ => false

/-- What a value of the parameter must be. -/
def rule : Parameter → ValueRule
  | input | outputDir | config => .path
  | chart => .chartName
  | _ => .anyText

/-- The values that are possible, where they are known beforehand, with what each means. -/
def possible : Parameter → List (String × String)
  | chart => ChartKind.all.map fun kind => (kind.name, kind.about)
  | _ => []

/-- What the parameter does, in a few words. -/
def about : Parameter → String
  | input => "Log file, directory of log files, or `-` for stdin"
  | outputDir => "Directory for the PNG files [default: results]"
  | verbose => "Show debug logging (files read, lines skipped, charts written)"
  | chart => "Chart to draw (repeatable; default: all)"
  | config => "Config file to use instead of the user config"
  | tableId => "Table the per-table charts break down"
  | accessOp => "Method counted as an access (repeatable; replaces the config list)"
  | mutateOp => "Method counted as a mutation (repeatable; replaces the config list)"
  | help => "Print help"
  | version => "Print version"

/-- What else there is to say about the parameter. -/
def remark? : Parameter → Option String
  | input => some "Falls back to `input` from the config file."
  | _ => none

/-- The parameter as it is named in messages. -/
def label (p : Parameter) : String :=
  match p.long?, p.valueName? with
  | some long, some value => "--" ++ long ++ " <" ++ value ++ ">"
  | some long, none => "--" ++ long
  | none, some value => "[" ++ value ++ "]"
  | none, none => ""

end Parameter

end CallProfile.CommandLine

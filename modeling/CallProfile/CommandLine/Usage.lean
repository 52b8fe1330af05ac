import CallProfile.CommandLine.Command
import CallProfile.CommandLine.Emphasis

/-!
# Usage lines

One line tells how a command is typed. After a mistake it shows the options that were used instead
of all that are possible.
-/

namespace CallProfile.CommandLine

/-- The value that a parameter takes, as usage shows it: in brackets if it may be left out. -/
def Parameter.markedValue (p : Parameter) (isRequired : Bool) : String :=
  match p.valueName? with
  | some value =>
    Emphasis.placeholder.mark (if isRequired then "<" ++ value ++ ">" else "[" ++ value ++ "]")
  | none => ""

/-- What stands between an option and its value. -/
def Parameter.markedGap (p : Parameter) : String :=
  if p.takesValue && p.long?.isSome then Emphasis.placeholder.mark " " else ""

/-- The long name of an option, as usage shows it. -/
def Parameter.markedLong (p : Parameter) : String :=
  match p.long? with
  | some long => Emphasis.literal.mark ("--" ++ long)
  | none => ""

/-- An option with its value, as usage shows it. -/
def Parameter.markedOption (p : Parameter) : String :=
  p.markedLong ++ p.markedGap ++ p.markedValue true

namespace Usage

/-- What stands for a choice of options. -/
def anyOptions : String :=
  Emphasis.placeholder.mark "[OPTIONS]"

/-- What stands for the word that calls a command below. -/
def anyCommand : String :=
  Emphasis.placeholder.mark "<COMMAND>"

/-- How a command is typed when some parameters are used, or with any of them where none is. -/
def line (c : Command) (used : List Parameter) : String :=
  let options :=
    if used.isEmpty then [anyOptions]
    else (used.filter (·.long?.isSome)).map Parameter.markedOption
  let input := if c.takesInput then [Parameter.markedValue .input (used.contains .input)] else []
  let command := if c.subcommands.isEmpty then [] else [anyCommand]
  " ".intercalate ([Emphasis.literal.mark c.fullName] ++ options ++ input ++ command)

/-- The usage of a command under its title. -/
def titled (c : Command) (used : List Parameter) : String :=
  Emphasis.heading.mark "Usage:" ++ " " ++ line c used

end Usage

end CallProfile.CommandLine

import CallProfile.CommandLine.Reading
import CallProfile.Plotting

/-!
# Invocations

What a command line asks for, once it has been read.
-/

namespace CallProfile.CommandLine

/-- What the program is to do. -/
inductive Action where
  | plot (input : Option String) (request : PlotRequest)
  | summary (input : Option String)
  | trace (input : Option String)
  | showConfig
  deriving DecidableEq, Repr

/-- A command line that was understood. -/
structure Invocation where
  /-- Whether much is to be logged. -/
  verbose : Bool
  /-- The file of the configuration, if one is named. -/
  configFile : Option String
  action : Action
  deriving DecidableEq, Repr

/-- The value of a parameter that is given once. -/
def Given.value? (given : Given) (p : Parameter) : Option String :=
  (given.values p).head?

/-- The request for charts in what is given to the command that draws them. -/
def Given.plotRequest (given : Given) : PlotRequest :=
  { charts := (given.values .chart).filterMap ChartKind.ofName?
    outputDir := given.value? .outputDir
    tableId := given.value? .tableId
    accessOps := given.values .accessOp
    mutateOps := given.values .mutateOp }

/-- The action of a command, if it does something by itself. -/
def Reading.action? (r : Reading) : Option Action :=
  match r.command with
  | .plot => some (.plot (r.given.value? .input) r.given.plotRequest)
  | .summary => some (.summary (r.given.value? .input))
  | .trace => some (.trace (r.given.value? .input))
  | .showConfig => some .showConfig
  | .program | .config => none

namespace Invocation

/-- The invocation of what was given to the commands from the outermost one on. Shared options may
stand behind any of the commands, and the innermost one decides. -/
def ofReadings (readings : List Reading) : Option Invocation := do
  let action ← (← readings.getLast?).action?
  return {
    verbose := readings.any (·.given.mentions .verbose)
    configFile := readings.reverse.findSome? (·.given.value? .config)
    action }

/-- The invocation of a command line. -/
def read (arguments : List String) : Except Stop Invocation := do
  match ofReadings (← CommandLine.read arguments) with
  | some invocation => return invocation
  | none => .error (.nothingGiven .program)

end Invocation

end CallProfile.CommandLine

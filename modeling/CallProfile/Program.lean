import CallProfile.CommandLine.Help
import CallProfile.CommandLine.Invocation
import CallProfile.Summary
import CallProfile.Trace.Load
import CallProfile.TraceEvent

/-!
# The program

A run reads its command line, loads the configuration and does what it is asked for. Failures are
told at the end, and the exit code says how the run went.
-/

namespace CallProfile.Program

open CommandLine (Invocation Stop Action)

/-- How a run ends. -/
inductive Ending where
  | done
  | failed
  /-- The command line was not understood. -/
  | misused
  deriving DecidableEq, Repr

/-- The exit code of an ending. -/
def Ending.code : Ending → Nat
  | done => 0
  | failed => 1
  | misused => 2

/-- The failure without any input. -/
def noInput : Failure :=
  .invalidConfig "no input given; pass a file, directory or `-`, or set `input`"

/-- The warning about lines that hold no record. -/
def skippedWarning (skipped : Nat) : String :=
  Terminal.warning ("Skipped " ++ Summary.amount skipped "malformed line")

variable {m : Type → Type} [Monad m] [Host m]

/-- The path of the input: the given one, or else the configured one. -/
def chosenInput? (console : Console) (env : Environment) (config : Config) (given : Option String) :
    m (Option String) := do
  match given, config.input with
  | some path, _ => return some path
  | none, some path => return some (← Config.resolvePath console env path)
  | none, none => return none

/-- Load the input, with a warning about lines that hold no record. -/
def loadInput (console : Console) (env : Environment) (config : Config) (given : Option String) :
    m (Except Failure Trace) := do
  match ← chosenInput? console env config given with
  | none => return .error noInput
  | some path =>
    match ← Trace.load console path with
    | .error failure => return .error failure
    | .ok trace =>
      if 0 < trace.skipped then console.note (skippedWarning trace.skipped)
      return .ok trace

/-- Load the input and do something with it. What failed is returned. -/
def withInput (console : Console) (env : Environment) (config : Config) (given : Option String)
    (use : Trace → m (List Failure)) : m (List Failure) := do
  match ← loadInput console env config given with
  | .error failure => return [failure]
  | .ok trace => use trace

/-- The comment on where the configuration comes from. -/
def sourceComment (env : Environment) (named : Option String) : m String := do
  match named <|> Config.userPath? env with
  | none => return "# No config file location (using defaults)"
  | some path =>
    if ← Host.isPresent path then return "# Config file: " ++ path
    else return "# Config file: " ++ path ++ " (not found, using defaults)"

/-- Do an action under a configuration. What failed is returned. -/
def perform (console : Console) (env : Environment) (config : Config) (named : Option String) :
    Action → m (List Failure)
  | .plot input request => withInput console env config input (request.run console env config)
  | .summary input =>
    withInput console env config input fun trace => do
      console.write (Summary.text trace)
      return []
  | .trace input =>
    withInput console env config input fun trace => do
      console.write (TraceEvent.exportText trace.records ++ "\n")
      return []
  | .showConfig => do
    console.write ((← sourceComment env named) ++ "\n\n" ++ config.toToml)
    return []

/-- Do what an invocation asks for. What failed is returned. -/
def execute (console : Console) (env : Environment) (invocation : Invocation) :
    m (List Failure) := do
  match ← Config.load console env invocation.configFile with
  | .error problem => return [.invalidConfig problem.message]
  | .ok config =>
    console.log .program .debug ("Effective config: " ++ config.shown)
    perform console env config invocation.configFile invocation.action

/-- Tell why nothing is run. -/
def stop (env : Environment) (reason : Stop) : m Ending := do
  let console := (Console.ofEnvironment env false).1
  let width := CommandLine.Help.widthOf env
  match reason with
  | .help command isLong =>
    console.write (CommandLine.Help.page command width isLong)
    return .done
  | .version =>
    console.write (CommandLine.Command.program.name ++ " " ++ CommandLine.Command.version ++ "\n")
    return .done
  | .nothingGiven command =>
    console.tell (CommandLine.Help.page command width false)
    return .misused
  | .refused refusal =>
    console.tell refusal.message
    return .misused

/-- Run the program. -/
def run (env : Environment) (arguments : List String) : m Ending := do
  match Invocation.read arguments with
  | .error reason => stop env reason
  | .ok invocation =>
    let (console, complaints) := Console.ofEnvironment env invocation.verbose
    complaints.forM fun complaint =>
      Host.printError ("warning: " ++ complaint ++ ", ignoring it\n")
    let failures ← execute console env invocation
    failures.forM fun failure => console.note failure.message
    return if failures.isEmpty then .done else .failed

end CallProfile.Program

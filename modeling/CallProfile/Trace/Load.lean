import CallProfile.Console
import CallProfile.Failure
import CallProfile.Path
import CallProfile.Text.Utf8
import CallProfile.Trace

/-!
# Loading traces

A trace is loaded from a file, from all files below a directory, or from the standard input. Bytes
of files that are no text are read as U+FFFD; the standard input must be text.
-/

namespace CallProfile.Trace

variable {m : Type → Type} [Monad m] [Host m]

/-- The path that stands for the standard input. -/
def standardInput : String := "-"

/-- The trace, unless it holds no record. -/
def orNoRecords (source : String) (trace : Trace) : Except Failure Trace :=
  if trace.isEmpty then .error (.noRecords source trace.skipped) else .ok trace

/-- The report on a text, with a log message for every dropped line. -/
def reportOn (console : Console) (source text : String) : m LineReport := do
  let report := LineReport.ofText text
  report.malformed.forM fun (number, error) =>
    console.log .lines .debug ("Skipping line " ++ toString number ++ ": " ++ error.message)
  console.log .loading .debug
    (source ++ ": " ++ toString report.records.length ++ " records, " ++ toString report.skipped ++
      " skipped")
  return report

/-- The report on a file. -/
def readFile (console : Console) (path : String) : m (Except Failure LineReport) := do
  match ← Host.readFile path with
  | .error fault => return .error (.inaccessible path fault.message)
  | .ok bytes => return .ok (← reportOn console path (Text.Utf8.decodeLossy bytes))

/-- Load a file. -/
def loadFile (console : Console) (path : String) : m (Except Failure Trace) := do
  match ← readFile console path with
  | .error failure => return .error failure
  | .ok report => return orNoRecords path (ofReports [(path, report)])

/-- The reports on files. The first file that cannot be read ends the reading. -/
def readFiles (console : Console) : List String → m (Except Failure (List (String × LineReport)))
  | [] => return .ok []
  | path :: rest => do
    console.log .loading .info ("Reading " ++ path)
    match ← readFile console path with
    | .error failure => return .error failure
    | .ok report =>
      match ← readFiles console rest with
      | .error failure => return .error failure
      | .ok reports => return .ok ((path, report) :: reports)

/-- The order of files: part by part, a directory in front of what lies below it. -/
def notBehind (a b : List String) : Bool :=
  !List.lex b a fun x y => decide (x < y)

/-- The files below a directory in their order. -/
def filePaths (directory : String) (files : List (List String)) : List String :=
  (files.mergeSort notBehind).map (Path.joinAll directory)

/-- Load every file below a directory. -/
def loadDirectory (console : Console) (directory : String) : m (Except Failure Trace) := do
  match ← Host.filesUnder directory with
  | .error fault => return .error (.inaccessible directory fault.message)
  | .ok files =>
    match ← readFiles console (filePaths directory files) with
    | .error failure => return .error failure
    | .ok reports => return orNoRecords directory (ofReports reports)

/-- Load the standard input. -/
def loadInput (console : Console) : m (Except Failure Trace) := do
  match Text.Utf8.decode? (← Host.readInput) with
  | none => return .error (.inaccessible standardInput Fault.notUtf8.message)
  | some text =>
    let report ← reportOn console standardInput text
    return orNoRecords standardInput (ofReports [(standardInput, report)])

/-- Load what a path stands for. -/
def load (console : Console) (path : String) : m (Except Failure Trace) := do
  if path = standardInput then loadInput console
  else if ← Host.isDirectory path then loadDirectory console path
  else loadFile console path

end CallProfile.Trace

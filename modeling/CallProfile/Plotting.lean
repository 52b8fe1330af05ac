import CallProfile.Chart.Files
import CallProfile.Config.Load
import CallProfile.Trace

/-!
# Plotting

Which charts are drawn with which options, and what the user is told of them. Every selected chart
is drawn once and told about once: by the files it wrote, or by why it failed.
-/

namespace CallProfile

/-- What a run that draws charts is asked for, in place of what the configuration says. -/
structure PlotRequest where
  /-- The charts to draw, or none to draw all. -/
  charts : List ChartKind
  outputDir : Option String
  tableId : Option String
  /-- The methods that count as accesses, or none to keep those of the configuration. -/
  accessOps : List String
  /-- The methods that count as mutations, or none to keep those of the configuration. -/
  mutateOps : List String
  deriving DecidableEq, Repr

namespace PlotRequest

/-- The methods that were asked for, or else the configured ones. -/
def chosen (asked configured : List String) : List String :=
  if asked.isEmpty then configured else asked

/-- The options of a request over a configuration, whose output directory is given expanded. -/
def options (request : PlotRequest) (config : Config) (outputDir : String) : PlotOptions :=
  { outputDir := request.outputDir.getD outputDir
    size := ⟨config.width, config.height⟩
    tableId := request.tableId <|> config.tableId
    accessOps := chosen request.accessOps config.accessOps
    mutateOps := chosen request.mutateOps config.mutateOps
    otherThreshold := config.otherThreshold }

/-- Whether a chart of a single table has none to show. -/
def lacksTable (options : PlotOptions) (kind : ChartKind) : Bool :=
  kind.needsTable && options.tableId.isNone

/-- The charts that are left out because they need a table. Requested ones are never left out. -/
def leftOut (request : PlotRequest) (options : PlotOptions) : List ChartKind :=
  if request.charts.isEmpty then ChartKind.all.filter (lacksTable options) else []

/-- The charts to draw: the requested ones, each once, or all that are not left out. -/
def selected (request : PlotRequest) (options : PlotOptions) : List ChartKind :=
  if request.charts.isEmpty then ChartKind.all.filter (!lacksTable options ·)
  else request.charts.eraseDups

end PlotRequest

/-- What became of the charts of a run. -/
structure PlotReport where
  /-- The files written. -/
  paths : List String
  /-- What the user is told of charts that failed. -/
  failures : List Failure

namespace ChartResult

/-- The files written. -/
def paths (result : ChartResult) : List String :=
  match result.files with
  | .ok paths => paths
  | .error _ => []

/-- Why the chart failed, if it did. -/
def failure? (result : ChartResult) : Option Failure :=
  match result.files with
  | .ok _ => none
  | .error failure => some failure

end ChartResult

namespace PlotReport

/-- The failures with their count among several charts. A chart by itself speaks for itself. -/
def counted (total : Nat) (failures : List Failure) : List Failure :=
  if total = 1 || failures.isEmpty then failures
  else failures ++ [.chartsFailed failures.length total]

/-- The report on results, in their order. -/
def ofResults (results : List ChartResult) : PlotReport :=
  { paths := results.flatMap (·.paths)
    failures := counted results.length (results.filterMap (·.failure?)) }

end PlotReport

namespace PlotRequest

variable {m : Type → Type} [Monad m] [Host m]

/-- The warning about a chart that is left out. -/
def warning (kind : ChartKind) : String :=
  Terminal.warning ("Skipping " ++ kind.name ++ ": no table-id configured")

/-- Draw the selected charts of records. The report says nothing of charts if their directory cannot
be made. -/
def draw (console : Console) (request : PlotRequest) (options : PlotOptions)
    (records : List Record) : m PlotReport := do
  (request.leftOut options).forM fun kind => console.note (warning kind)
  let kinds := request.selected options
  match ← Host.makeDirectories options.outputDir with
  | .error fault => return ⟨[], [.noDirectory options.outputDir fault.message]⟩
  | .ok () =>
    console.log .plotting .info
      ("Drawing " ++ toString kinds.length ++ " charts from " ++ toString records.length ++
        " records into " ++ options.outputDir)
    return .ofResults (← ChartKind.drawAll console records options kinds)

/-- Plot the records of a trace and print the files written. What failed is returned. -/
def run (console : Console) (env : Environment) (config : Config) (request : PlotRequest)
    (trace : Trace) : m (List Failure) := do
  let options := request.options config (← Config.resolvePath console env config.outputDir)
  let report ← request.draw console options trace.records
  report.paths.forM fun path => console.write (Terminal.doneSign ++ " " ++ path ++ "\n")
  return report.failures

end PlotRequest

end CallProfile

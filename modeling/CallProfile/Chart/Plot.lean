import CallProfile.Chart.Bars
import CallProfile.Chart.Kind
import CallProfile.Chart.Pie
import CallProfile.Failure
import CallProfile.Share

/-!
# The pictures of a chart

What each kind of chart shows of a trace. A chart that has nothing to show fails, and so does one
of a single table when no table is chosen.
-/

namespace CallProfile

open Number (Scalar)

/-- What a chart needs to know besides the records. -/
structure PlotOptions where
  outputDir : String
  size : Size
  tableId : Option String
  accessOps : List String
  mutateOps : List String
  /-- Slices below this share are folded together. -/
  otherThreshold : Float

namespace ChartKind

/-- How many bars the histogram of operations has. -/
def binCount : Nat := 10

/-- The slices of a share as portions of a pie. -/
def portions (share : Share) : List (Pie.Portion Float) :=
  share.slices.map fun s =>
    ⟨s.label ++ " (" ++ toString s.count ++ ")", Scalar.ofNat s.count⟩

/-- What is drawn, unless there is nothing to show. -/
def unlessEmpty {β : Type} (kind : ChartKind) (isEmpty : Bool) (drawn : List β) :
    Except Failure (List β) :=
  if isEmpty then .error (.emptyChart kind.name) else .ok drawn

/-- The table of a chart that needs one. -/
def chosenTable (kind : ChartKind) (options : PlotOptions) : Except Failure String :=
  match options.tableId with
  | some id => .ok id
  | none => .error (.missingTableId kind.name)

section

variable (α : Type) [Scalar α]

/-- A series by itself over the elapsed time. -/
def seriesChart (title yTitle name : String) (points : List SeriesPoint) : Chart α :=
  Chart.ofDots title yTitle [⟨name, points, .steelBlue⟩]

/-- The bars of calls per transaction. -/
def callCharts (kind : ChartKind) (records : List Record) (options : PlotOptions)
    (table : Option String) : Except Failure (List (Chart α)) :=
  let counts := Transaction.calls records options.accessOps options.mutateOps table
  let frequencies := Transaction.frequencyTable (counts.map (·.access)) (counts.map (·.mutate))
  kind.unlessEmpty counts.isEmpty
    [Chart.ofFrequencies "Num Ops per Transaction" "Num Ops" "Num Txs" frequencies]

/-- The charts with axes of a kind, one for each of its files. A pie has none. -/
def charts (kind : ChartKind) (records : List Record) (options : PlotOptions) :
    Except Failure (List (Chart α)) :=
  match kind with
  | activeThreads =>
    let points := Series.ofThreads records
    kind.unlessEmpty points.isEmpty
      [seriesChart α "Number of Active Threads vs. Time Elapsed" "Number of Active Threads"
        "threads" points]
  | seqCalls =>
    let points := Series.ofEvent records Series.sequencerEvent
    kind.unlessEmpty points.isEmpty
      [seriesChart α "Number of Seq Calls vs. Time Elapsed" "Number of Seq Calls" "Seq" points]
  | opsPerTx =>
    let bins : List (Bin α) := Histogram.ofSamples (Transaction.sizes records) binCount
    kind.unlessEmpty bins.isEmpty
      [Chart.ofBins "Num Ops per Transaction" "Num Ops" "Frequency" bins]
  | tableOps =>
    let use := TableUse.ofRecords records
    kind.unlessEmpty use.isEmpty
      [Chart.ofTableUse "Operations per Table" "Num Ops" "Table" use]
  | tableOpsPerTx => callCharts α kind records options none
  | tableIdOpsPerTx => do callCharts α kind records options (some (← kind.chosenTable options))
  | opLatency =>
    let stats := Latency.ofRecords α records
    kind.unlessEmpty stats.isEmpty
      [Chart.ofLatencies "Time per Operation" "Time (ms)" stats,
        Chart.ofValues "Average Time per Operation" "Time (ms)" (Latency.averages stats)]
  | reads =>
    let reads := ReadSeries.ofRecords records
    kind.unlessEmpty reads.isEmpty
      [Chart.ofDots "Tx and Non-Tx Reads vs. Time" "Number of Reads"
        [⟨"tx reads", reads.tx, .forestGreen⟩, ⟨"non-tx reads", reads.nonTx, .steelBlue⟩]]
  | allOps | allMethods | allMethodsTx | allMethodsById | txOpTime => .ok []

end

/-- The pie of call counts. -/
def sharePictures (kind : ChartKind) (options : PlotOptions) (title : String)
    (counts : List (String × Nat)) : Except Failure (List (Picture Float)) :=
  let share := Share.fold counts options.otherThreshold
  kind.unlessEmpty share.isEmpty
    [Pie.picture options.size title (portions share)
      (some ("Total Count: " ++ toString share.total ++ " ops"))]

/-- The pictures of a kind, one for each of its files. -/
def pictures (kind : ChartKind) (records : List Record) (options : PlotOptions) :
    Except Failure (List (Picture Float)) :=
  match kind with
  | allOps => kind.sharePictures options "Calls per Operation" (Share.ofEvents records)
  | allMethods => kind.sharePictures options "Calls per Method" (Share.ofMethods records .all)
  | allMethodsTx =>
    kind.sharePictures options "Calls per Method in Transactions"
      (Share.ofMethods records .transactional)
  | allMethodsById => do
    let table ← kind.chosenTable options
    kind.sharePictures options "Calls per Method on Table"
      (Share.ofMethods records (.onTable table))
  | txOpTime =>
    let times := Transaction.meanTimes Float records
    let label (event : String) (ms : Float) : String :=
      event ++ " (" ++ Scalar.fixed 3 ms ++ " ms)"
    kind.unlessEmpty (times.all fun (_, ms) => Scalar.atMost ms 0.0)
      [Pie.picture options.size "Average Time per Transactional Operation"
        (times.map fun (event, ms) => ⟨label event ms, ms⟩) none]
  | activeThreads | seqCalls | opsPerTx | tableOps | tableOpsPerTx | tableIdOpsPerTx | opLatency
  | reads => return (← kind.charts Float records options).map .chart

end ChartKind

end CallProfile

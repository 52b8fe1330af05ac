import CallProfile.Drawing.Picture
import CallProfile.Histogram
import CallProfile.Series

/-!
# Charts of series and histograms

Series are drawn as dots over the elapsed time, and histograms as bars over the range of the
samples.
-/

namespace CallProfile.Chart

open Number (Scalar)

variable {α : Type} [Scalar α]

/-- The largest of some values and zero, with a tenth added, or one if there is nothing above
zero. -/
def axisEnd (values : List α) : α :=
  let largest := values.foldl Scalar.larger 0.0
  if Scalar.less 0.0 largest then largest * 1.1 else 1.0

/-- An axis of numbers. -/
def numericAxis (low high : α) (title : String) (labelArea : Nat) : Axis α :=
  { range := ⟨low, high⟩, title := some title, labelArea, labels := .numeric, maxLabels := none
    grid := true }

/-- The pixels below a chart for the labels of its horizontal axis. -/
def bottomArea : Nat := 45

/-- The pixels beside a chart for numbers. -/
def numberArea : Nat := 60

/-- A series to be drawn as dots. -/
structure Dots where
  name : String
  points : List SeriesPoint
  color : Color

/-- The dot of a point. -/
def dot (color : Color) (p : SeriesPoint) : Shape α :=
  .circle ⟨Scalar.ofNat p.elapsedMs, Scalar.ofNat p.count⟩ 3 (.filled color)

/-- The dots of a series with its legend entry. -/
def Dots.plotted (dots : Dots) : PlotSeries α :=
  { shapes := dots.points.map (dot dots.color)
    entry := some ⟨dots.name, .circle ⟨0, 0⟩ 4 (.filled dots.color)⟩ }

/-- Series over the elapsed time. A legend stands only where there is more than one. -/
def ofDots (title yTitle : String) (series : List Dots) : Chart α :=
  let points := series.flatMap (·.points)
  let right : α := axisEnd (points.map fun p => Scalar.ofNat p.elapsedMs)
  let top : α := axisEnd (points.map fun p => Scalar.ofNat p.count)
  { title
    x := numericAxis (-right * 0.02) right "Time Elapsed (ms)" bottomArea
    y := numericAxis 0.0 top yTitle numberArea
    series := series.map Dots.plotted
    legend := if 1 < series.length then some .upperRight else none }

/-- The bar of a bin. -/
def binBar (paint : Paint) (bin : Bin α) : Shape α :=
  .rectangle ⟨bin.start, 0.0⟩ ⟨bin.stop, bin.fraction⟩ paint

/-- A histogram. Bars that are not empty have an outline. -/
def ofBins (title xTitle yTitle : String) (bins : List (Bin α)) : Chart α :=
  let left := (bins.head?.map (·.start)).getD 0.0
  let right := (bins.getLast?.map (·.stop)).getD 1.0
  let filledBins := bins.filter fun bin => Scalar.less 0.0 bin.fraction
  { title
    x := numericAxis left right xTitle bottomArea
    y := numericAxis 0.0 (axisEnd (bins.map (·.fraction))) yTitle numberArea
    series :=
      [⟨bins.map (binBar (.filled .limeGreen)), none⟩,
        ⟨filledBins.map (binBar (.outlined .black 1)), none⟩]
    legend := none }

end CallProfile.Chart

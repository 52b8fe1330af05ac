import CallProfile.Chart.Dots
import CallProfile.Latency
import CallProfile.Number.Power
import CallProfile.TableUse
import CallProfile.Transaction

/-!
# Bar charts and box plots

Bars stand side by side over a number, lie stacked in the row of a table, or lie in rows with their
value beside them. A box plot has one row for every event.
-/

namespace CallProfile.Chart

open Number (Scalar)

variable {α : Type} [Scalar α]

/-- The symbol of a legend entry for bars. -/
def barSymbol (color : Color) : Shape Int :=
  .rectangle ⟨0, -5⟩ ⟨10, 5⟩ (.filled color)

/-- The width of one of two bars that stand side by side. -/
def barWidth : α := 0.27

/-- A bar that stands on the horizontal axis. -/
def standingBar (color : Color) (left height : α) : Shape α :=
  .rectangle ⟨left, 0.0⟩ ⟨left + barWidth, height⟩ (.filled color)

/-- The numbers of transactions by number of operations, accesses beside mutations. -/
def ofFrequencies (title xTitle yTitle : String) (frequencies : List Transaction.Frequency) :
    Chart α :=
  let most := ((frequencies.map (·.ops)).max?).getD 0
  let heights : List α :=
    frequencies.flatMap fun f => [Scalar.ofNat f.accessTxs, Scalar.ofNat f.mutateTxs]
  let access := frequencies.map fun f =>
    standingBar .steelBlue (Scalar.ofNat f.ops) (Scalar.ofNat f.accessTxs)
  let mutate := frequencies.map fun f =>
    standingBar .brickRed (Scalar.ofNat f.ops + barWidth) (Scalar.ofNat f.mutateTxs)
  { title
    x :=
      { numericAxis (-0.5) (Scalar.ofNat most + 1.0) xTitle bottomArea with labels := .whole }
    y := numericAxis 0.0 (axisEnd heights) yTitle numberArea
    series :=
      [⟨access, some ⟨"accessOps", barSymbol .steelBlue⟩⟩,
        ⟨mutate, some ⟨"mutateOps", barSymbol .brickRed⟩⟩]
    legend := some .upperRight }

/-- A bar that lies in a row. -/
def lyingBar (color : Color) (row : Nat) (left right : α) : Shape α :=
  let y : α := Scalar.ofNat row
  .rectangle ⟨left, y - 0.4⟩ ⟨right, y + 0.4⟩ (.filled color)

/-- The part of a table identifier in front of its first hyphen. -/
def shortId (id : String) : String :=
  String.ofList (id.toList.takeWhile (· != '-'))

/-- Whether each of some texts is new, neither seen before nor among the texts in front of it. -/
def allNew (seen : List String) : List String → Bool
  | [] => true
  | text :: rest => !seen.contains text && allNew (text :: seen) rest

/-- The labels of tables: the short identifiers, or the whole ones if two short ones are equal. -/
def tableNames (ids : List String) : List String :=
  if allNew [] (ids.map shortId) then ids.map shortId else ids

/-- The sum of the counts of some events in a row, which is where the bar of the next one begins. -/
def stackedTo (counts : List (String × Nat)) (events : List String) : α :=
  (events.filterMap fun event => counts.lookup event).foldl
    (fun left n => left + Scalar.ofNat n) 0.0

/-- The bars of an event, in the rows of the tables it names. -/
def stackedBars (use : TableUse) (color : Color) (before : List String) (event : String) :
    List (Shape α) :=
  use.zipIdx.filterMap fun ((_, counts), row) =>
    (counts.lookup event).map fun n =>
      let left : α := stackedTo counts before
      lyingBar color row left (left + Scalar.ofNat n)

/-- The series of an event by its position. -/
def stackedSeries (use : TableUse) (events : List String) (event : String) (index : Nat) :
    PlotSeries α :=
  let color := Color.categorical index
  { shapes := stackedBars use color (events.take index) event
    entry := some ⟨event, barSymbol color⟩ }

/-- The use of tables, one row for each and its events behind one another. -/
def ofTableUse (title xTitle yTitle : String) (use : TableUse) : Chart α :=
  let events := TableUse.events use
  let totals : List α := use.map fun (_, counts) => Scalar.ofNat (Number.total (counts.map (·.2)))
  { title
    x := numericAxis 0.0 (axisEnd totals) xTitle bottomArea
    y :=
      { numericAxis (-0.5) (Scalar.ofNat use.length - 0.5) yTitle 100 with
        labels := .names (tableNames (use.map (·.1)))
        maxLabels := some (use.length * 2 + 1) }
    series := events.zipIdx.map fun (event, index) => stackedSeries use events event index
    legend := some .lowerRight }

/-- An axis of rows with names. -/
def rowAxis (low high : α) (names : List String) (rows : Nat) : Axis α :=
  { range := ⟨low, high⟩, title := none, labelArea := 120, labels := .names names
    maxLabels := some (rows * 2 + 1), grid := false }

/-- The font of the values beside bars. -/
def valueFont : Font := .ofSize 14

/-- Named values in rows from top to bottom, each with its text beside it. -/
def ofValues (title xTitle : String) (values : List (String × α)) : Chart α :=
  let count := values.length
  let row (i : Nat) : Nat := count - 1 - i
  let bars := values.zipIdx.map fun ((_, v), i) =>
    lyingBar (Color.categorical i) (row i) 0.0 v
  let texts := values.zipIdx.map fun ((_, v), i) =>
    Shape.text (Scalar.fixed 6 v) ⟨v, Scalar.ofNat (row i)⟩ valueFont
  { title
    x := numericAxis 0.0 (axisEnd (values.map (·.2)) * 1.15) xTitle bottomArea
    y := rowAxis (-0.5) (Scalar.ofNat count - 0.5) (values.reverse.map (·.1)) count
    series := [⟨bars, none⟩, ⟨texts, none⟩]
    legend := none }

/-- Half the height of a box. -/
def boxHalf : α := 0.25

/-- A line. -/
def segment (paint : Paint) (x₁ y₁ x₂ y₂ : α) : Shape α :=
  .path [⟨x₁, y₁⟩, ⟨x₂, y₂⟩] paint

/-- The lines of a row: the median, both whiskers, and the caps of the whiskers. -/
def boxLines (y : α) (s : Latency α) : List (Shape α) :=
  let thin := Paint.outlined .black 1
  let cap := boxHalf / 2.0
  [segment (.outlined .orange 2) s.median (y - boxHalf) s.median (y + boxHalf),
    segment thin s.whiskerLow y s.q1 y,
    segment thin s.q3 y s.whiskerHigh y,
    segment thin s.whiskerLow (y - cap) s.whiskerLow (y + cap),
    segment thin s.whiskerHigh (y - cap) s.whiskerHigh (y + cap)]

/-- The distributions of latencies in rows from the bottom, the first one in row 1, with their means
marked. -/
def ofLatencies (title xTitle : String) (stats : List (Latency α)) : Chart α :=
  let rows : List (α × Latency α) :=
    stats.zipIdx.map fun (s, i) => (Scalar.ofNat (i + 1), s)
  let boxes := rows.map fun (y, s) =>
    Shape.rectangle ⟨s.q1, y - boxHalf⟩ ⟨s.q3, y + boxHalf⟩ (.outlined .black 1)
  let means := rows.map fun (y, s) => Shape.circle ⟨s.mean, y⟩ 4 (.filled .pureBlue)
  let reach := stats.flatMap fun s => [s.whiskerHigh, s.mean]
  { title
    x := numericAxis (-1.0) (axisEnd reach) xTitle bottomArea
    y := rowAxis 0.5 (Scalar.ofNat stats.length + 0.5) ("" :: stats.map (·.event)) stats.length
    series := [⟨boxes, none⟩, ⟨rows.flatMap fun (y, s) => boxLines y s, none⟩, ⟨means, none⟩]
    legend := none }

end CallProfile.Chart

import CallProfile.Drawing.Shape
import CallProfile.Number.Scalar

/-!
# Pictures

A picture is a chart with axes, or shapes under a title. A chart says everything there is to draw:
ranges, labels, series and legend.
-/

namespace CallProfile

open Number (Scalar)

/-- The range of an axis. -/
structure AxisRange (α : Type) where
  low : α
  high : α

/-- The labels at the marks of an axis. -/
inductive TickLabels where
  /-- The numbers themselves. -/
  | numeric
  /-- Numbers without decimal places. -/
  | whole
  /-- The names of the whole numbers from zero, and nothing between them. -/
  | names (names : List String)
  deriving DecidableEq, Repr

namespace TickLabels

variable {α : Type} [Scalar α]

/-- The name at a value: that of the nearest whole number, if it is no further than a millionth. -/
def nameAt (names : List String) (value : α) : String :=
  match Scalar.nearest? value with
  | some (.ofNat row) =>
    if Scalar.less 1e-6 (Scalar.absolute (value - Scalar.ofNat row)) then ""
    else names.getD row ""
  | _ => ""

/-- The label at a value, unless the numbers stand for themselves. -/
def label? (labels : TickLabels) : Option (α → String) :=
  match labels with
  | numeric => none
  | whole => some (Scalar.fixed 0)
  | names list => some (nameAt list)

end TickLabels

/-- One axis. -/
structure Axis (α : Type) where
  range : AxisRange α
  title : Option String
  /-- The pixels kept free for the labels. -/
  labelArea : Nat
  labels : TickLabels
  /-- How many labels there may be, if that is not left open. -/
  maxLabels : Option Nat
  /-- Whether lines of the grid cross the axis. -/
  grid : Bool

/-- The legend entry of a series. The symbol is drawn in pixels around the entry. -/
structure LegendEntry where
  name : String
  symbol : Shape Int

/-- Shapes that belong together. -/
structure PlotSeries (α : Type) where
  shapes : List (Shape α)
  entry : Option LegendEntry

/-- The corner in which a legend stands. -/
inductive Corner where
  | upperRight
  | lowerRight
  deriving DecidableEq, Repr

/-- A chart with two axes. -/
structure Chart (α : Type) where
  title : String
  x : Axis α
  y : Axis α
  series : List (PlotSeries α)
  legend : Option Corner

/-- What one file shows. -/
inductive Picture (α : Type) where
  | chart (chart : Chart α)
  | titled (title : String) (shapes : List (Shape Int))

/-- The size of a picture in pixels. -/
structure Size where
  width : Nat
  height : Nat
  deriving DecidableEq, Repr

end CallProfile

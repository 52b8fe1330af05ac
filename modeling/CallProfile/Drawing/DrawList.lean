import CallProfile.Drawing.Picture
import CallProfile.Json.Printer

/-!
# Draw lists

A picture is written down as the list of its drawing steps, in the order in which they are carried
out. Coordinates of the data are written by the bits of their numbers, so that nothing is lost.
-/

namespace CallProfile.DrawList

/-- A number by its bits. -/
def exact (x : Float) : Json :=
  if x.isNaN then .string "NaN" else .string (Number.Binary64.hexBits x)

/-- The parts of a colour. -/
def color (c : Color) : Json :=
  .array [.ofNat c.red, .ofNat c.green, .ofNat c.blue]

/-- A colour through which some of the ground shows. -/
def translucent (c : Color) (opacity : Float) : Json :=
  .array [.ofNat c.red, .ofNat c.green, .ofNat c.blue, exact opacity]

/-- The paint of a shape. -/
def paint : Paint → Json
  | .filled c => .object [("fill", color c)]
  | .outlined c width => .object [("stroke", color c), ("width", .ofNat width)]

/-- A font with its anchor. -/
def font (f : Font) : Json :=
  let anchor := if f.centered then ["Center", "Center"] else ["Left", "Top"]
  .array
    ([.string "sans-serif", exact (Float.ofNat f.size),
        .string (if f.bold then "Bold" else "Normal")] ++
      anchor.map Json.string)

section

variable {α : Type} (coordinate : α → Json)

/-- A point. -/
def point (p : Point α) : Json :=
  .array [coordinate p.x, coordinate p.y]

/-- A shape. -/
def shape : Shape α → Json
  | .circle center radius style =>
    .array [.string "circle", point coordinate center, .ofNat radius, paint style]
  | .rectangle corner opposite style =>
    .array [.string "rect", .array [point coordinate corner, point coordinate opposite],
      paint style]
  | .path points style =>
    .array [.string "path", .array (points.map (point coordinate)), paint style]
  | .polygon points style =>
    .array [.string "polygon", .array (points.map (point coordinate)), paint style]
  | .text content position style =>
    .array [.string "text", .string content, point coordinate position, font style]

end

/-- The font of the title of a chart. -/
def chartTitleFont : Font := .ofSize 24

/-- The font of the title over a picture without axes. -/
def titleFont : Font := .ofSize 26

/-- The pixels kept free around a chart. -/
def margin : Nat := 20

/-- The ends of a range. -/
def range (r : AxisRange Float) : Json :=
  .array [exact r.low, exact r.high]

/-- The chart of a title and two ranges. -/
def frame (c : Chart Float) : Json :=
  .array
    [.string "chart",
      .object
        [("caption", .array [.string c.title, font chartTitleFont]), ("margin", .ofNat margin),
          ("x_label_area", .ofNat c.x.labelArea), ("y_label_area", .ofNat c.y.labelArea),
          ("x", range c.x.range), ("y", range c.y.range)]]

/-- The values at which the labels of an axis are written down: every quarter from the low end, at
most 240 of them, and two values just beside the first half. -/
def probes (r : AxisRange Float) : List Float :=
  let quarters := (List.range 240).map fun i => r.low + Float.ofNat i * 0.25
  quarters.takeWhile (fun v => v ≤ r.high) ++ [r.low + 0.5 + 1e-7, r.low + 0.5 + 1e-5]

/-- The labels of an axis at its probes. -/
def tickTexts (a : Axis Float) : Json :=
  Json.ofOption (a.labels.label?.map fun label => .ofStrings ((probes a.range).map label))

/-- The grid of a chart with its labels. -/
def mesh (c : Chart Float) : Json :=
  .array
    [.string "mesh",
      .object
        [("x_desc", Json.ofOption (c.x.title.map .string)),
          ("y_desc", Json.ofOption (c.y.title.map .string)),
          ("y_labels", Json.ofOption (c.y.maxLabels.map .ofNat)), ("y_mesh", .bool c.y.grid),
          ("x_format", tickTexts c.x), ("y_format", tickTexts c.y)]]

/-- The shapes of a series. -/
def series (s : PlotSeries Float) : Json :=
  .array [.string "series", .array (s.shapes.map (shape exact))]

/-- The name of a corner. -/
def corner : Corner → String
  | .upperRight => "UpperRight"
  | .lowerRight => "LowerRight"

/-- The entry of a series, which may have none. -/
def entry (s : PlotSeries Float) : Json :=
  match s.entry with
  | some e => .array [.string e.name, shape Json.ofInt e.symbol]
  | none => .array [.null, .null]

/-- The legend of a chart, over a translucent ground. -/
def legend (c : Chart Float) (place : Corner) : Json :=
  .array
    [.string "legend",
      .object
        [("background", translucent .white 0.8), ("border", color .black),
          ("position", .string (corner place)), ("entries", .array (c.series.map entry))]]

/-- The steps that draw a picture between the ground and the end. -/
def body : Picture Float → List Json
  | .chart c => [frame c, mesh c] ++ c.series.map series ++ (c.legend.map (legend c)).toList
  | .titled title shapes =>
    .array [.string "title", .string title, font titleFont] :: shapes.map (shape Json.ofInt)

/-- All steps that draw a picture of a size. -/
def ofPicture (size : Size) (picture : Picture Float) : Json :=
  .array
    ([.array [.string "canvas", .ofNat size.width, .ofNat size.height],
        .array [.string "fill", color .white]] ++
      body picture ++ [.array [.string "present"]])

/-- The bytes of the steps. -/
def bytes (size : Size) (picture : Picture Float) : List UInt8 :=
  (ofPicture size picture).compact.toUTF8.toList

end CallProfile.DrawList

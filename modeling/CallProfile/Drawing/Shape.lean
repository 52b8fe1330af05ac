import CallProfile.Drawing.Color

/-!
# Shapes

What is drawn, in coordinates of the data or in pixels.
-/

namespace CallProfile

/-- A point of the plane. -/
structure Point (α : Type) where
  x : α
  y : α
  deriving DecidableEq, Repr

/-- How a shape is painted. -/
inductive Paint where
  | filled (color : Color)
  | outlined (color : Color) (width : Nat)
  deriving DecidableEq, Repr

/-- A sans-serif font. Its text is placed by its upper left corner, or by its middle. -/
structure Font where
  size : Nat
  bold : Bool
  centered : Bool
  deriving DecidableEq, Repr

/-- A regular font of a size, placed by its corner. -/
def Font.ofSize (size : Nat) : Font :=
  ⟨size, false, false⟩

/-- The font placed by the middle of its text. -/
def Font.inMiddle (font : Font) : Font :=
  { font with centered := true }

/-- A shape with its paint. The radius of a circle is in pixels. -/
inductive Shape (α : Type) where
  | circle (center : Point α) (radius : Nat) (paint : Paint)
  | rectangle (corner opposite : Point α) (paint : Paint)
  | path (points : List (Point α)) (paint : Paint)
  | polygon (points : List (Point α)) (paint : Paint)
  | text (content : String) (position : Point α) (font : Font)

/-- The points that a shape is given by. -/
def Shape.points {α : Type} : Shape α → List (Point α)
  | circle center _ _ => [center]
  | rectangle corner opposite _ => [corner, opposite]
  | path points _ => points
  | polygon points _ => points
  | text _ position _ => [position]

end CallProfile

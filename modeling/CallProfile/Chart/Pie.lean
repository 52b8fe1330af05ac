import CallProfile.Drawing.Picture
import CallProfile.Number.Power

/-!
# Pies

A pie is drawn in pixels, clockwise from the top. Each value has a wedge whose angle is its share
of a full turn; the name stands outside of it and the share inside. Values that are not positive
have no wedge.
-/

namespace CallProfile.Pie

open Number (Scalar)

/-- A value to be shown. -/
structure Portion (α : Type) where
  label : String
  value : α

/-- A wedge, with the position of its portion among all of them and its angles in degrees. -/
structure Wedge (α : Type) where
  portion : Portion α
  index : Nat
  start : α
  sweep : α

section

variable {α : Type} [Scalar α]

/-- The sum of the values. -/
def total (portions : List (Portion α)) : α :=
  Scalar.sum (portions.map (·.value))

/-- The wedges of portions, one behind the other from an angle on. -/
def wedgesFrom (total start : α) : List (Portion α × Nat) → List (Wedge α)
  | [] => []
  | (portion, index) :: rest =>
    if Scalar.atMost portion.value 0.0 then wedgesFrom total start rest
    else
      let sweep := portion.value / total * 360.0
      ⟨portion, index, start, sweep⟩ :: wedgesFrom total (start + sweep) rest

/-- The wedges of a pie. -/
def wedges (portions : List (Portion α)) : List (Wedge α) :=
  wedgesFrom (total portions) (-90.0) portions.zipIdx

/-- The angles of the corners on the arc of a wedge: about one for every degree, and both ends. -/
def arcAngles (start sweep : α) : List α :=
  let steps := max (Scalar.ceiling sweep) 2
  (List.range (steps + 1)).map fun i =>
    start + sweep * Scalar.ofNat i / Scalar.ofNat steps

/-- The font of the names. -/
def nameFont : Font := (Font.ofSize 15).inMiddle

/-- The font of the shares. -/
def shareFont : Font := (Font.ofSize 13).inMiddle

/-- The font of the line under a pie. -/
def footerFont : Font := ⟨18, true, true⟩

/-- The shapes of a wedge around a centre. The pixel at a distance and an angle is found by
`polar`. -/
def wedgeShapes (polar : α → α → Point Int) (center : Point Int) (radius total : α)
    (w : Wedge α) : List (Shape Int) :=
  let outline := center :: (arcAngles w.start w.sweep).map (polar radius)
  let middle := w.start + w.sweep / 2.0
  [.polygon outline (.filled (Color.categorical w.index)),
    .path (outline ++ [center]) (.outlined .white 2),
    .text w.portion.label (polar (radius * 1.18) middle) nameFont,
    .text (Scalar.fixed 1 (w.portion.value / total * 100.0) ++ "%") (polar (radius * 0.7) middle)
      shareFont]

end

/-- An integer of 32 bits in two's complement. -/
def word32 (n : Int) : Int :=
  Int.bmod n (Number.powerOfTwo 32)

/-- The least integer of 32 bits. -/
def least32 : Int := -(Number.powerOfTwo 31 : Int)

/-- The largest integer of 32 bits. -/
def most32 : Int := (Number.powerOfTwo 31 : Int) - 1

/-- The nearest integer of 32 bits. -/
def nearest32 (x : Float) : Int :=
  match Number.Binary64.decode x with
  | .infinite negative => if negative then least32 else most32
  | .undefined => 0
  | .finite _ _ _ =>
    max least32 (min most32 ((Number.Binary64.nearest? x).getD 0))

/-- The radians of one degree. -/
def radiansPerDegree : Float := 3.141592653589793 / 180.0

/-- The pixel at a distance from a centre, by an angle in degrees. -/
def polarPixel (center : Point Int) (radius degrees : Float) : Point Int :=
  let radians := degrees * radiansPerDegree
  ⟨word32 (center.x + nearest32 (radius * radians.cos)),
    word32 (center.y + nearest32 (radius * radians.sin))⟩

/-- The pixels that the title takes. -/
def titleHeight : Nat := 36

/-- A pie under a title, with an optional line below it. -/
def picture (size : Size) (title : String) (portions : List (Portion Float))
    (footer : Option String) : Picture Float :=
  let height := size.height - titleHeight
  let middle : Int := (word32 size.width).tdiv 2
  let center : Point Int := ⟨middle, (word32 height).tdiv 2 - 10⟩
  let radius := Float.ofNat (min size.width height) * 0.32
  let shapes := (wedges portions).flatMap
    (wedgeShapes (polarPixel center) center radius (total portions))
  let footers := footer.toList.map fun text =>
    Shape.text text ⟨middle, word32 (word32 height - 20)⟩ footerFont
  .titled title (shapes ++ footers)

end CallProfile.Pie

/-!
# Colours

The colours of the charts. Series that have no colour of their own take the colours of a palette of
eight in turn.
-/

namespace CallProfile

/-- A colour by its red, green and blue parts, each below 256. -/
structure Color where
  red : Nat
  green : Nat
  blue : Nat
  deriving DecidableEq, Repr

namespace Color

def white : Color := ⟨255, 255, 255⟩
def black : Color := ⟨0, 0, 0⟩
def pureBlue : Color := ⟨0, 0, 255⟩
def limeGreen : Color := ⟨50, 205, 50⟩
def orange : Color := ⟨255, 127, 14⟩

/-- The colour of accesses, and of series that stand alone. -/
def steelBlue : Color := ⟨31, 119, 180⟩

/-- The colour of mutations. -/
def brickRed : Color := ⟨214, 39, 40⟩

/-- The colour of what happens inside transactions. -/
def forestGreen : Color := ⟨44, 160, 44⟩

/-- The palette for categories. -/
def palette : List Color :=
  [⟨102, 194, 165⟩, ⟨252, 141, 98⟩, ⟨141, 160, 203⟩, ⟨231, 138, 195⟩, ⟨166, 216, 84⟩,
    ⟨255, 217, 47⟩, ⟨229, 196, 148⟩, ⟨179, 179, 179⟩]

/-- The colour of a category by its position. -/
def categorical (index : Nat) : Color :=
  palette.getD (index % palette.length) black

end Color

end CallProfile

/-!
# Sets of characters

A large class of characters is a list of bounds: membership alternates at each of them. The list is
searched from the front, so a lookup stops at the first bound above the character.
-/

namespace CallProfile.Text

/-- A set of characters, given by the ascending code points where membership changes. -/
structure CharSet where
  ofBounds ::
  bounds : List Nat

namespace CharSet

/-- Membership of a code point, starting outside (`inside = false`) before the first bound. -/
def search (code : Nat) (inside : Bool) : List Nat → Bool
  | [] => inside
  | bound :: rest => if code < bound then inside else search code (!inside) rest

/-- A character is in the set when an odd number of bounds are at most its code point. -/
def contains (set : CharSet) (c : Char) : Bool :=
  search c.toNat false set.bounds

end CharSet

end CallProfile.Text

/-!
# Powers and totals

The powers that number formats are made of, and the total of counts.
-/

namespace CallProfile.Number

/-- A power of two. -/
def powerOfTwo (n : Nat) : Nat :=
  Nat.pow 2 n

/-- A power of ten. -/
def powerOfTen (n : Nat) : Nat :=
  Nat.pow 10 n

/-- The total of counts. -/
def total (counts : List Nat) : Nat :=
  counts.foldr Nat.add 0

end CallProfile.Number

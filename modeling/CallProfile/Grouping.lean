/-!
# Grouping by key

Values are grouped by key with the keys in ascending order and the values of a key in the order in
which they came. Counting is grouping with nothing but the number of values kept.
-/

namespace CallProfile

variable {κ β : Type} [LE κ] [DecidableLE κ] [DecidableEq κ]

/-- Join neighbours of equal key. -/
def runs : List (κ × β) → List (κ × List β)
  | [] => []
  | (key, value) :: rest =>
    match runs rest with
    | [] => [(key, [value])]
    | (next, values) :: groups =>
      if key = next then (key, value :: values) :: groups
      else (key, [value]) :: (next, values) :: groups

/-- The values of every key. -/
def grouped (pairs : List (κ × β)) : List (κ × List β) :=
  runs (pairs.mergeSort fun a b => a.1 ≤ b.1)

/-- How often every key occurs. -/
def tally (keys : List κ) : List (κ × Nat) :=
  (grouped (keys.map (·, ()))).map fun (key, values) => (key, values.length)

/-- The distinct keys in ascending order. -/
def ascending (keys : List κ) : List κ :=
  (tally keys).map (·.1)

/-- The value kept for a key, and zero for a key that does not occur. -/
def countOf [BEq κ] (counts : List (κ × Nat)) (key : κ) : Nat :=
  (counts.lookup key).getD 0

end CallProfile

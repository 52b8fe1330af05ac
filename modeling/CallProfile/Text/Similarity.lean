/-!
# Similarity of words

The Jaro similarity of two words, by which a mistyped word is told what it may have meant. Two
characters match when they are equal and no further apart than half the longer word; the measure
averages the matched shares of both words and the share of matches that keep their order.
-/

namespace CallProfile.Text

/-- The first position in `low ≤ i < high` that holds `c` and is not taken yet. -/
def freeMatch (c : Char) (low high : Nat) (word : List Char) (taken : List Bool) : Option Nat :=
  let candidates := ((word.zip taken).zipIdx).filter fun ((d, used), i) =>
    low ≤ i && i < high && d == c && !used
  candidates.head?.map (·.2)

/-- Match the characters of the first word, in order, against free positions of the second. The
result lists the matched characters of the first word and marks the positions taken. -/
def matchWords (reach : Nat) (word : List Char) :
    Nat → List Char → List Bool → List Char × List Bool
  | _, [], taken => ([], taken)
  | i, c :: rest, taken =>
    match freeMatch c (i - reach) (i + reach + 1) word taken with
    | some j =>
      let (found, marks) := matchWords reach word (i + 1) rest (taken.set j true)
      (c :: found, marks)
    | none => matchWords reach word (i + 1) rest taken

/-- The Jaro similarity, between 0 and 1. With `m` matches of which `t` pairs are out of order, it
is the mean of `m / |a|`, `m / |b|` and `(m - t) / m`. -/
def similarity (left right : String) : Float :=
  let a := left.toList
  let b := right.toList
  if a.isEmpty && b.isEmpty then 1
  else
    let reach := max a.length b.length / 2 - 1
    let (found, marks) := matchWords reach b 0 a (b.map fun _ => false)
    let partners := (b.zip marks).filterMap fun (c, used) => if used then some c else none
    let m := found.length
    if m = 0 then 0
    else
      let moved := ((found.zip partners).countP fun (c, d) => c != d) / 2
      let share (n d : Nat) : Float := Float.ofNat n / Float.ofNat d
      (share m a.length + share m b.length + share (m - moved) m) / 3

end CallProfile.Text

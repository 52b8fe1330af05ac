import CallProfile.Grouping
import CallProfile.Record.Basic

/-!
# Latency statistics

The distribution of the durations of an event, as a box plot shows it. Quartiles are interpolated
between the two samples around their position, and whiskers reach the outermost samples within one
and a half times the height of the box.
-/

namespace CallProfile

open Number (Scalar)

/-- The distribution of the durations of one event, in milliseconds. -/
structure Latency (α : Type) where
  event : String
  count : Nat
  min : α
  q1 : α
  median : α
  q3 : α
  max : α
  mean : α
  whiskerLow : α
  whiskerHigh : α

namespace Latency

variable {α : Type} [Scalar α]

/-- The value at `quarters` fourths of the way through ascending samples. The position between the
first and the last sample is `quarters * (n - 1) / 4`; its remainder is the way to the next sample.
As a binary64 number the position is exact for fewer than `2 ^ 51` samples, so that its whole part
and its fraction are those that are found here with whole numbers. -/
def quartile (sorted : List α) (quarters : Nat) : α :=
  let position := quarters * (sorted.length - 1)
  let below := sorted.getD (position / 4) 0.0
  let above := sorted.getD ((position + 3) / 4) 0.0
  below + (above - below) * (Scalar.ofNat (position % 4) / Scalar.ofNat 4)

/-- The samples in ascending order. -/
def sortedSamples (samples : List α) : List α :=
  samples.mergeSort Scalar.precedes

/-- The statistics of samples, if there are any. -/
def ofSamples? (event : String) (samples : List α) : Option (Latency α) :=
  let sorted := sortedSamples samples
  match sorted.head?, sorted.getLast? with
  | some least, some most =>
    let q1 := quartile sorted 1
    let q3 := quartile sorted 3
    let reach := 1.5 * (q3 - q1)
    some
      { event
        count := sorted.length
        min := least
        q1
        median := quartile sorted 2
        q3
        max := most
        mean := Scalar.sum sorted / Scalar.ofNat sorted.length
        whiskerLow := (sorted.find? (Scalar.atMost (q1 - reach) ·)).getD least
        whiskerHigh := (sorted.reverse.find? (Scalar.atMost · (q3 + reach))).getD most }
  | _, _ => none

/-- By descending mean, and by event where means are equal. -/
def slower (a b : Latency α) : Bool :=
  Scalar.precedes b.mean a.mean && (!Scalar.precedes a.mean b.mean || a.event ≤ b.event)

/-- The statistics of every event, the slowest first. -/
def ofRecords (α : Type) [Scalar α] (records : List Record) : List (Latency α) :=
  let samples := grouped (records.map fun r => (r.event, r.durationMs α))
  (samples.filterMap fun (event, values) => ofSamples? event values).mergeSort slower

/-- By ascending mean, and by event where means are equal. -/
def faster (a b : String × α) : Bool :=
  Scalar.precedes a.2 b.2 && (!Scalar.precedes b.2 a.2 || a.1 ≤ b.1)

/-- The mean of every event, the fastest first. -/
def averages (stats : List (Latency α)) : List (String × α) :=
  (stats.map fun s => (s.event, s.mean)).mergeSort faster

end Latency

end CallProfile

import CallProfile.Number.Scalar

/-!
# Histograms

The range of the samples is cut into bins of equal width. The height of a bin is the share of the
samples in it, so the heights add up to one.
-/

namespace CallProfile

open Number (Scalar)

/-- One bar of a histogram. -/
structure Bin (α : Type) where
  start : α
  stop : α
  /-- The share of the samples in the bin. -/
  fraction : α

namespace Histogram

variable {α : Type} [Scalar α]

/-- The ends of the range, half a unit outside if all samples are equal. -/
def range (least most : Nat) : α × α :=
  if least = most then (Scalar.ofNat least - 0.5, Scalar.ofNat most + 0.5)
  else (Scalar.ofNat least, Scalar.ofNat most)

/-- The bin of a sample. The last bin includes its right end. -/
def binIndex (low width : α) (bins sample : Nat) : Nat :=
  min (Scalar.whole ((Scalar.ofNat sample - low) / width)) (bins - 1)

/-- A weight added up `count` times. -/
def accumulated (weight : α) (count : Nat) : α :=
  (List.replicate count weight).foldl (· + ·) 0.0

/-- The histogram of samples. At least one bin is drawn, and none without a sample. -/
def ofSamples (samples : List Nat) (bins : Nat) : List (Bin α) :=
  match samples.min?, samples.max? with
  | some least, some most =>
    let bins := max bins 1
    let (low, high) := range least most
    let width : α := (high - low) / Scalar.ofNat bins
    let weight : α := 1.0 / Scalar.ofNat samples.length
    let indices := samples.map (binIndex low width bins)
    (List.range bins).map fun i =>
      { start := low + width * Scalar.ofNat i
        stop := low + width * Scalar.ofNat (i + 1)
        fraction := accumulated weight (indices.count i) }
  | _, _ => []

end Histogram

end CallProfile

import CallProfile.Grouping
import CallProfile.Number.Power
import CallProfile.Number.Scalar
import CallProfile.Record.Basic

/-!
# Shares

How often every event or method was called, and the slices a pie of these counts has. Entries whose
share of the total is below a threshold are folded into one last slice.
-/

namespace CallProfile

open Number (Scalar)

/-- Which calls count toward the methods. -/
inductive CallFilter where
  | all
  | transactional
  | onTable (id : String)

/-- Whether the filter lets a record through. -/
def CallFilter.keeps : CallFilter → Record → Bool
  | all, _ => true
  | transactional, r => r.transactional
  | onTable id, r => r.namesTable id

/-- One slice of a pie. -/
structure Slice where
  label : String
  count : Nat
  deriving DecidableEq, Repr

/-- The slices of a pie and the sum of their counts. -/
structure Share where
  /-- By ascending count and label, and the folded slice last. -/
  slices : List Slice
  total : Nat
  deriving DecidableEq

namespace Share

/-- How many records every event has. -/
def ofEvents (records : List Record) : List (String × Nat) :=
  tally (records.map (·.event))

/-- How many calls every method has among the records of a filter. -/
def ofMethods (records : List Record) (filter : CallFilter) : List (String × Nat) :=
  tally ((records.filter filter.keeps).filterMap (·.method))

/-- The label of the folded slice. -/
def foldedLabel : String := "Other"

/-- By count, and by label where counts are equal. -/
def notLarger (a b : String × Nat) : Bool :=
  a.2 < b.2 || (a.2 == b.2 && a.1 ≤ b.1)

/-- Whether a count is below the threshold as a share of the total. -/
def isSmall {α : Type} [Scalar α] (total : Nat) (threshold : α) (count : Nat) : Bool :=
  Scalar.less (Scalar.ofNat count / Scalar.ofNat total) threshold

/-- The slices of counts, with the small ones folded. -/
def fold {α : Type} [Scalar α] (counts : List (String × Nat)) (threshold : α) : Share :=
  let total := Number.total (counts.map (·.2))
  let (small, kept) := (counts.mergeSort notLarger).partition fun entry =>
    isSmall total threshold entry.2
  let folded := Number.total (small.map (·.2))
  { slices := kept.map (fun (label, count) => ⟨label, count⟩) ++ [⟨foldedLabel, folded⟩]
    total }

/-- Whether nothing was counted. -/
def isEmpty (share : Share) : Bool :=
  share.total = 0

/-- The count of the folded slice. -/
def folded (share : Share) : Nat :=
  (share.slices.getLast?.map (·.count)).getD 0

end Share

end CallProfile

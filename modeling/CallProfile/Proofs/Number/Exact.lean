import CallProfile.Number.Scalar
import Mathlib.Algebra.Order.Ring.Rat
import Mathlib.Tactic.Linarith
import Mathlib.Tactic.NormNum
import Mathlib.Tactic.Positivity
import Mathlib.Tactic.Ring

/-!
# Exact arithmetic

The operations of `Scalar` over the rational numbers are those of the rational numbers.
-/

namespace CallProfile.Number.Scalar

/-- A count is itself. -/
@[simp] theorem ofNat_rat (n : Nat) : (ofNat n : Rat) = n := rfl

/-- The literal of zero is zero. -/
theorem zero_rat : (0.0 : Rat) = 0 := by
  norm_num

/-- The strict comparison is that of the numbers. -/
@[simp] theorem less_rat (x y : Rat) : less x y = decide (x < y) := rfl

/-- The larger of two numbers is their maximum. -/
@[simp] theorem larger_rat (x y : Rat) : larger x y = max x y := by
  unfold larger
  rw [less_rat]
  by_cases hlt : x < y
  · simp [hlt, hlt.le]
  · simp [hlt, not_lt.mp hlt]

/-- A number without its sign is its absolute value. -/
@[simp] theorem absolute_rat (x : Rat) : absolute x = |x| := by
  unfold absolute
  rw [less_rat, zero_rat]
  by_cases hneg : x < 0
  · rw [decide_eq_true hneg, if_pos rfl, abs_of_neg hneg]
  · rw [decide_eq_false hneg, if_neg Bool.false_ne_true, abs_of_nonneg (not_lt.mp hneg)]

/-- A sum of numbers from a start that is not below zero is not below the start, if none of the
numbers is below zero. -/
theorem le_foldl_add (start : Rat) {values : List Rat} (h : ∀ v ∈ values, 0 ≤ v) :
    start ≤ values.foldl (· + ·) start := by
  induction values generalizing start with
  | nil => exact le_refl start
  | cons v values ih =>
      have hv : 0 ≤ v := h v List.mem_cons_self
      have hrest := ih (start + v) fun w hw => h w (List.mem_cons_of_mem _ hw)
      rw [List.foldl_cons]
      linarith

/-- A sum of no numbers is zero. -/
theorem sum_nil_rat : sum ([] : List Rat) = 0 := by
  norm_num [sum]

/-- A number in front adds to a sum. -/
theorem sum_cons_rat (v : Rat) (values : List Rat) : sum (v :: values) = v + sum values := by
  rw [sum, List.foldl_cons, add_comm, List.foldl_assoc, sum]

/-- A sum of numbers that are not below zero is not below zero. -/
theorem sum_nonneg {values : List Rat} (h : ∀ v ∈ values, 0 ≤ v) : 0 ≤ sum values := by
  calc
    (0 : Rat) ≤ -0.0 := by norm_num
    _ ≤ sum values := le_foldl_add _ h

end CallProfile.Number.Scalar

import CallProfile.Number.Scalar
import Mathlib.Data.List.Perm.Basic

/-!
# The order of binary64 numbers

A number is its bits, and `orderKey` numbers all bit patterns one by one. So the order by it is a
total order in which no two numbers tie, the two zeros included (`order_key_injective`), and a list
of numbers can be sorted in one way only.
-/

namespace CallProfile.Number

namespace Binary64

/-- A number is determined by its bits. -/
theorem eq_of_to_bits {x y : Float} (h : x.toBits = y.toBits) : x = y := by
  obtain ⟨⟨bits, hbits⟩⟩ := x
  obtain ⟨⟨other, hother⟩⟩ := y
  cases show bits = other from h
  rfl

/-- No two numbers stand at one position of the order. -/
theorem order_key_injective {x y : Float} (h : orderKey x = orderKey y) : x = y := by
  have hx : x.toBits.toNat < powerOfTwo 64 := x.toBits.toNat_lt
  have hy : y.toBits.toNat < powerOfTwo 64 := y.toBits.toNat_lt
  have hhalf : powerOfTwo 64 = 2 * powerOfTwo 63 := by decide
  refine eq_of_to_bits (UInt64.toNat_inj.mp ?_)
  simp only [orderKey] at h
  split at h <;> split at h <;> omega

open Float.Model in
/-- Bits whose exponent is all ones are no finite number. -/
theorem is_finite_unpack_of_exponent {bits : BitVec Format.binary64.numBits}
    (h : UnpackedFloat.unpackExponent bits = -1#11) :
    (UnpackedFloat.unpack Format.binary64 bits).isFinite = false := by
  have hspecial : UnpackedFloat.unpack Format.binary64 bits =
      if UnpackedFloat.unpackMantissa bits = 0#_ then .infinity _ else .notANumber := if_pos h
  rw [hspecial]
  split
  · rfl
  · rfl

open Float.Model in
/-- The exponent of a finite number is not all ones. -/
theorem scale_ne_of_is_finite {x : Float} (h : x.isFinite = true) :
    x.toBits.toNat / powerOfTwo 52 % powerOfTwo 11 ≠ 2047 := by
  intro hscale
  have hones : @UnpackedFloat.unpackExponent Format.binary64 x.toBits.toBitVec =
      -1#11 := by
    -- The exponent is the eleven bits above the fifty-two of the fraction.
    have hvalue : x.toBits.toNat / 2 ^ 52 % 2 ^ 11 = 2047 := hscale
    apply BitVec.eq_of_toNat_eq
    simpa [UnpackedFloat.unpackExponent, Nat.shiftRight_eq_div_pow] using hvalue
  have hfinite : x.isFinite = false := is_finite_unpack_of_exponent hones
  simp [hfinite] at h

/-- A number that is finite has a mantissa and an exponent. -/
theorem decode_of_is_finite {x : Float} (h : x.isFinite = true) :
    ∃ negative mantissa exponent, decode x = .finite negative mantissa exponent := by
  unfold decode
  rw [if_neg (scale_ne_of_is_finite h)]
  split
  · exact ⟨_, _, _, rfl⟩
  · exact ⟨_, _, _, rfl⟩

end Binary64

namespace Scalar

/-- The order of binary64 numbers is transitive. -/
theorem float_precedes_trans (x y z : Float) (hxy : precedes x y = true)
    (hyz : precedes y z = true) : precedes x z = true :=
  decide_eq_true (Nat.le_trans (of_decide_eq_true hxy) (of_decide_eq_true hyz))

/-- The order of binary64 numbers is total. -/
theorem float_precedes_total (x y : Float) : (precedes x y || precedes y x) = true := by
  have htotal := Nat.le_total (Binary64.orderKey x) (Binary64.orderKey y)
  simpa [precedes] using htotal

/-- No two binary64 numbers tie. -/
theorem float_precedes_antisymm (x y : Float) (hxy : precedes x y = true)
    (hyx : precedes y x = true) : x = y :=
  Binary64.order_key_injective (Nat.le_antisymm (of_decide_eq_true hxy) (of_decide_eq_true hyx))

/-- Sorting binary64 numbers does not depend on the order in which they come. -/
theorem merge_sort_float_of_perm {samples other : List Float} (h : samples.Perm other) :
    samples.mergeSort precedes = other.mergeSort precedes := by
  have hperm : (samples.mergeSort precedes).Perm (other.mergeSort precedes) :=
    ((List.mergeSort_perm samples _).trans h).trans (List.mergeSort_perm other _).symm
  exact hperm.eq_of_pairwise (fun x y _ _ => float_precedes_antisymm x y)
    (List.pairwise_mergeSort float_precedes_trans float_precedes_total samples)
    (List.pairwise_mergeSort float_precedes_trans float_precedes_total other)

end Scalar

end CallProfile.Number

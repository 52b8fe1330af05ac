import CallProfile.Number.Scalar
import Mathlib.Algebra.Order.Ring.Int

/-!
# Operations on numbers in parts

What the operations of binary64 arithmetic come down to, one equation each, with the numbers of the
format filled in. Rounding shifts twice (`round_with_accuracy_units`), and a sum or a quotient of
positive numbers is one rounding (`add_finite`, `div_finite`). The bits of a number hold its
exponent plus 1075 (`pack_finite`) and are taken apart again with or without a hidden bit
(`unpack_hidden`, `unpack_subnormal`).
-/

namespace CallProfile.Number.Binary64

open Float.Model (Format UnpackedFloat totalExponent)
open Float.Model.UnpackedFloat

/-! ## Rounding -/

/-- The last of 53 bits is aimed at, but none below that of the smallest number. -/
theorem target_exponent (t : Int) : Format.binary64.targetExponent t = max (t - 53) (-1074) := rfl

/-- A number of units, as rounding leaves it: with 53 bits at most. -/
def ofUnits (n : Nat) (e : Int) : UnpackedFloat :=
  let final := shiftToTargetExponent Format.binary64 n e .exact
  if h : final.1.mantissa = 0 then .zero .positive
  else .finite .positive final.1.mantissa final.2 (Nat.pos_of_ne_zero h)

/-- Rounding leaves the units of the mantissa that the first shift rounds to. -/
theorem round_with_accuracy_units {q : Nat} {t e : Int} {accuracy : Accuracy}
    {em : ExtendedMantissa}
    (h : shiftToTargetExponent Format.binary64 q t accuracy = (em, e)) :
    roundWithAccuracy Format.binary64 .positive q t accuracy = ofUnits em.roundedMantissa e := by
  unfold roundWithAccuracy
  rw [h]
  rfl

/-- Units are a number with the mantissa that shifting leaves. -/
theorem of_units_finite {n : Nat} {e f : Int} {em : ExtendedMantissa}
    (h : shiftToTargetExponent Format.binary64 n e .exact = (em, f)) (hpos : 0 < em.mantissa) :
    ofUnits n e = .finite .positive em.mantissa f hpos := by
  obtain ⟨rfl, rfl⟩ := Prod.mk.inj h
  exact dif_neg (Nat.ne_of_gt hpos)

/-- Units are zero or a positive number. -/
theorem of_units_cases (n : Nat) (e : Int) :
    ofUnits n e = .zero .positive ∨ ∃ m f hm, ofUnits n e = .finite .positive m f hm := by
  by_cases hzero : (shiftToTargetExponent Format.binary64 n e .exact).1.mantissa = 0
  · exact Or.inl (dif_pos hzero)
  · exact Or.inr ⟨_, _, _, dif_neg hzero⟩

/-- The sign has no part in rounding. -/
theorem round_with_accuracy_negative (q : Nat) (t : Int) (accuracy : Accuracy) :
    roundWithAccuracy Format.binary64 .negative q t accuracy =
      (roundWithAccuracy Format.binary64 .positive q t accuracy).neg :=
  (apply_dite UnpackedFloat.neg (_ = 0) (fun _ => .zero .positive)
    fun hne => .finite .positive _ _ (Nat.pos_of_ne_zero hne)).symm

/-- A mantissa is shifted up to the exponent aimed at, where that is smaller, and rounded there. -/
theorem round_finite {sign : Sign} {m k : Nat} {e t : Int}
    (ht : Format.binary64.targetExponent (totalExponent m e) = t) (hk : (e - t).toNat = k) :
    UnpackedFloat.round Format.binary64 sign m e =
      roundWithAccuracy Format.binary64 sign (m <<< k) (e - k) .exact := by
  subst ht hk
  rfl

/-! ## Sums and quotients -/

/-- A positive sum of mantissas is rounded with a plus sign. -/
theorem normalize_positive {k : Nat} (hk : 0 < k) (e : Int) :
    UnpackedFloat.normalize Format.binary64 k e .positive =
      UnpackedFloat.round Format.binary64 .positive k e := by
  have hcompare : compare (k : Int) 0 = .gt := Int.compare_eq_gt.mpr (by omega)
  unfold UnpackedFloat.normalize
  rw [hcompare]
  rfl

/-- A negative sum of mantissas is rounded with a minus sign. -/
theorem normalize_negative {k : Nat} (hk : 0 < k) (e : Int) :
    UnpackedFloat.normalize Format.binary64 (-k) e .positive =
      UnpackedFloat.round Format.binary64 .negative k e := by
  have hcompare : compare (-(k : Int)) 0 = .lt := Int.compare_eq_lt.mpr (by omega)
  unfold UnpackedFloat.normalize
  rw [hcompare, Int.neg_neg]
  rfl

/-- Positive numbers are added in units of the smaller of their last bits, and rounded. -/
theorem add_finite {m n : Nat} {e f : Int} (hm : 0 < m) (hn : 0 < n) :
    UnpackedFloat.add Format.binary64 (.finite .positive m e hm) (.finite .positive n f hn) =
      UnpackedFloat.round Format.binary64 .positive
        (m <<< (e - min e f).toNat + n <<< (f - min e f).toNat) (min e f) :=
  normalize_positive (Nat.add_pos_left (Nat.shiftLeft_pos_iff.mpr hm) _) _

/-- The quotient of positive numbers is cut at the exponent aimed at, or at that of the last bits if
it is smaller, and rounded. -/
theorem div_finite {m n k : Nat} {e f t : Int} (hm : 0 < m) (hn : 0 < n)
    (ht : min (e - f)
      (Format.binary64.targetExponent (totalExponent m e - totalExponent n f)) = t)
    (hk : (e - f - t).toNat = k) :
    UnpackedFloat.div Format.binary64 (.finite .positive m e hm) (.finite .positive n f hn) =
      roundWithAccuracy Format.binary64 .positive (m <<< k / n) t
        (accuracyOfFraction (m <<< k % n) n) := by
  subst ht hk
  rfl

/-! ## Bits -/

/-- Parts are compared field by field. -/
theorem finite_congr {s t : Sign} {m n : Nat} {e f : Int} {hm : 0 < m} {hn : 0 < n} (hs : s = t)
    (hmantissa : m = n) (hexponent : e = f) :
    UnpackedFloat.finite s m e hm = .finite t n f hn := by
  subst hs hmantissa hexponent
  rfl

/-- The sign is found where it was put. -/
theorem sign_of_components (sign : Sign) (exponent : BitVec 11) (mantissa : BitVec 52) :
    Sign.ofBitVec (unpackSign (packComponents Format.binary64 sign exponent mantissa)) = sign := by
  have hbit : unpackSign (packComponents Format.binary64 sign exponent mantissa) =
      sign.toBitVec := by
    show (sign.toBitVec ++ exponent ++ mantissa).extractLsb' 63 1 = sign.toBitVec
    rw [BitVec.extractLsb'_append_eq_of_le (by decide),
      BitVec.extractLsb'_append_eq_of_le (by decide)]
    exact BitVec.extractLsb'_eq_self
  rw [hbit]
  cases sign <;> rfl

/-- The bits of a finite number: its exponent with the bias, or none if there is no hidden bit. From
the exponent for infinity on it is infinity. -/
theorem pack_finite {sign : Sign} {m : Nat} {e : Int} (hm : 0 < m) :
    UnpackedFloat.pack Format.binary64 (.finite sign m e hm) =
      if 2047 ≤ (e + 1075).toNat then packedInfinity Format.binary64 sign
      else packComponents Format.binary64 sign
        (if m.log2 = 52 then BitVec.ofNat 11 (e + 1075).toNat else 0#11) (BitVec.ofNat 52 m) := by
  have hfield : (e + Format.binary64.exponentBias +
      Format.binary64.mantissaBitsWithoutImplicit).toNat = (e + 1075).toNat := by
    show (e + 1023 + 52).toNat = _
    omega
  show (if 2048 ≤ (e + Format.binary64.exponentBias +
      Format.binary64.mantissaBitsWithoutImplicit).toNat + 1 then _
    else if m.log2 + 1 = 53 then _ else _) = _
  rw [hfield]
  by_cases hrange : 2047 ≤ (e + 1075).toNat
  · rw [if_pos hrange, if_pos (Nat.succ_le_succ hrange)]
  · rw [if_neg hrange, if_neg (fun h => hrange (Nat.le_of_succ_le_succ h))]
    by_cases hhidden : m.log2 = 52
    · rw [if_pos hhidden, if_pos (congrArg Nat.succ hhidden)]
    · rw [if_neg hhidden, if_neg (fun h => hhidden (Nat.succ.inj h))]

section Unpacking

variable {bits : BitVec Format.binary64.numBits} {m : Nat}

/-- At the least exponent there is no hidden bit. -/
theorem unpack_subnormal (hexponent : (unpackExponent bits).toNat = 0)
    (hmantissa : (unpackMantissa bits).toNat = m) (hm : 0 < m) :
    UnpackedFloat.unpack Format.binary64 bits =
      .finite (Sign.ofBitVec (unpackSign bits)) m (-1074) hm := by
  have hzero : unpackExponent bits = 0#11 := BitVec.eq_of_toNat_eq hexponent
  have hones : unpackExponent bits ≠ -1#11 := by
    rw [hzero]
    decide
  have hnonzero : unpackMantissa bits ≠ 0#52 := by
    intro h
    rw [h] at hmantissa
    exact Nat.ne_of_lt hm hmantissa
  refine (if_neg hones).trans ((if_pos hzero).trans ((dif_neg hnonzero).trans ?_))
  refine finite_congr rfl hmantissa ?_
  rw [hexponent]
  rfl

/-- At the exponents between the least one and the one for infinity there is a hidden bit. -/
theorem unpack_hidden {scale : Nat} (hexponent : (unpackExponent bits).toNat = scale)
    (hlow : scale ≠ 0) (hhigh : scale ≠ 2047)
    (hmantissa : 2 ^ 52 + (unpackMantissa bits).toNat = m) (hm : 0 < m) :
    UnpackedFloat.unpack Format.binary64 bits =
      .finite (Sign.ofBitVec (unpackSign bits)) m (scale - 1075) hm := by
  have hzero : unpackExponent bits ≠ 0#11 := by
    intro h
    rw [h] at hexponent
    exact hlow hexponent.symm
  have hones : unpackExponent bits ≠ -1#11 := by
    intro h
    rw [h] at hexponent
    exact hhigh hexponent.symm
  refine (if_neg hones).trans ((if_neg hzero).trans ?_)
  refine finite_congr rfl ?_ ?_
  · rw [BitVec.toNat_append, ← Nat.shiftLeft_add_eq_or_of_lt (BitVec.isLt _), ← hmantissa]
    rfl
  · rw [hexponent]
    rfl

/-- Below the exponent for infinity there is a number. -/
theorem unpack_finite (hones : unpackExponent bits ≠ -1#11) :
    UnpackedFloat.unpack Format.binary64 bits = .zero (Sign.ofBitVec (unpackSign bits)) ∨
      ∃ m e hm, UnpackedFloat.unpack Format.binary64 bits =
        .finite (Sign.ofBitVec (unpackSign bits)) m e hm := by
  by_cases hzero : unpackExponent bits = 0#11
  · by_cases hmantissa : unpackMantissa bits = 0#52
    · exact Or.inl ((if_neg hones).trans ((if_pos hzero).trans (dif_pos hmantissa)))
    · exact Or.inr ⟨_, _, _, (if_neg hones).trans ((if_pos hzero).trans (dif_neg hmantissa))⟩
  · exact Or.inr ⟨_, _, _, (if_neg hones).trans (if_neg hzero)⟩

end Unpacking

end CallProfile.Number.Binary64

import CallProfile.Proofs.Number.Normal
import Mathlib.Algebra.Order.Field.Power
import Mathlib.Tactic.FieldSimp
import Mathlib.Tactic.Linarith
import Mathlib.Tactic.Positivity
import Mathlib.Tactic.Ring

/-!
# Rounding to the nearest number

Which binary64 number an exact quotient is rounded to. A number stands for an interval of reals
(`Within`), half way to its neighbours on both sides; the ends belong to it if its mantissa is even.
A mantissa that is cut off keeps two bits of what it was cut from (`CutFrom`). Shifting follows them
to the exponent at which the number is cut (`Place`), and rounding takes the natural number nearest
there (`Nearest`). So every quotient in the interval of a number is rounded to it (`div_of_within`).
-/

namespace CallProfile.Number.Binary64

open Float.Model (Format UnpackedFloat totalExponent)
open Float.Model.UnpackedFloat

/-! ## Numbers and their intervals -/

/-- The mantissa and exponent of a positive number. Only at the least exponent may it have fewer
than 53 bits. -/
structure Canonical (m : Nat) (e : Int) : Prop where
  pos : 0 < m
  small : m < 2 ^ 53
  low : -1074 ≤ e
  high : e ≤ 971
  normal : m < 2 ^ 52 → e = -1074

/-- How far the interval of a number reaches down, in units of its last bit. Below the first number
of a binade the neighbour is half as far. -/
def reach (m : Nat) (e : Int) : Rat :=
  if m = 2 ^ 52 ∧ -1074 < e then 1 / 4 else 1 / 2

/-- The reals that are rounded to a number. -/
structure Within (m : Nat) (e : Int) (x : Rat) : Prop where
  low : (m - reach m e) * 2 ^ e ≤ x
  high : x ≤ (m + 1 / 2) * 2 ^ e
  even : x = (m - reach m e) * 2 ^ e ∨ x = (m + 1 / 2) * 2 ^ e → m % 2 = 0

/-- A number is nearer to a natural number than to others, or half way to the next one and the
natural number is even. -/
structure Nearest (n : Nat) (x : Rat) : Prop where
  low : n - 1 / 2 ≤ x
  high : x ≤ n + 1 / 2
  even : x = n - 1 / 2 ∨ x = n + 1 / 2 → n % 2 = 0

/-- The exponent at which a number is cut: 52 bits below its leading bit, or the least one. -/
structure Place (x : Rat) (e : Int) : Prop where
  low : -1074 ≤ e
  high : x < 2 ^ (53 + e)
  leading : 2 ^ (52 + e) ≤ x ∨ e = -1074

section Intervals

variable {m : Nat} {e f : Int} {x y : Rat}

/-- A power of two times a unit. -/
theorem units_power (k : Nat) (e : Int) : (2 : Rat) ^ (k + e) = (2 ^ k : Nat) * 2 ^ e := by
  rw [zpow_add₀ two_ne_zero, zpow_natCast]
  push_cast
  rfl

/-- Places are in the order of the numbers. -/
theorem Place.mono (hx : Place x e) (hy : Place y f) (hle : x ≤ y) : e ≤ f := by
  by_contra hgt
  -- the lesser number would have its leading bit above that of the greater one
  have hleading := hx.leading.resolve_right fun heq => by
    have hlow := hy.low
    omega
  have hpower : (2 : Rat) ^ (53 + f) ≤ 2 ^ (52 + e) := zpow_le_zpow_right₀ one_le_two (by omega)
  exact absurd (hleading.trans hle) (not_le.mpr (hy.high.trans_le hpower))

/-- An interval reaches half way down at most. -/
theorem reach_bounds (m : Nat) (e : Int) : 0 < reach m e ∧ reach m e ≤ 1 / 2 := by
  unfold reach
  split <;> norm_num

/-- A mantissa is short of 2 ^ 53, and so by one at least. -/
theorem Canonical.mantissa_le (h : Canonical m e) : (m : Rat) ≤ 2 ^ 53 - 1 := by
  have hle : ((m + 1 : Nat) : Rat) ≤ (2 ^ 53 : Nat) := Nat.cast_le.mpr h.small
  push_cast at hle
  linarith

/-- A number lies in its own interval. -/
theorem within_self (m : Nat) (e : Int) : Within m e (m * 2 ^ e) := by
  have hpos : (0 : Rat) < 2 ^ e := by positivity
  have hreach := (reach_bounds m e).1
  have hlow : (m - reach m e) * 2 ^ e < m * 2 ^ e := mul_lt_mul_of_pos_right (by linarith) hpos
  have hhigh : (m : Rat) * 2 ^ e < (m + 1 / 2) * 2 ^ e :=
    mul_lt_mul_of_pos_right (by linarith) hpos
  refine ⟨hlow.le, hhigh.le, ?_⟩
  rintro (heq | heq)
  · exact absurd heq hlow.ne'
  · exact absurd heq hhigh.ne

/-- No interval reaches further down than half the least number. -/
theorem Within.low_bound (h : Within m e x) (hc : Canonical m e) :
    (2 : Rat) ^ (-1075 : Int) ≤ x := by
  have hpos : (0 : Rat) < 2 ^ e := by positivity
  have hreach := (reach_bounds m e).2
  have hmantissa : (1 : Rat) ≤ m := by exact_mod_cast hc.pos
  calc
    (2 : Rat) ^ (-1075 : Int) = 1 / 2 * 2 ^ (-1074 : Int) := by
      rw [show (-1075 : Int) = -1 + -1074 by norm_num, zpow_add₀ two_ne_zero]
      norm_num
    _ ≤ 1 / 2 * 2 ^ e :=
      mul_le_mul_of_nonneg_left (zpow_le_zpow_right₀ one_le_two hc.low) (by norm_num)
    _ ≤ (m - reach m e) * 2 ^ e := mul_le_mul_of_nonneg_right (by linarith) hpos.le
    _ ≤ x := h.low

/-- No interval reaches further up than the range. -/
theorem Within.lt_bound (h : Within m e x) (hc : Canonical m e) : x < 2 ^ 1024 := by
  have hmantissa := hc.mantissa_le
  have hpos : (0 : Rat) < 2 ^ e := by positivity
  calc
    x ≤ (m + 1 / 2) * 2 ^ e := h.high
    _ < 2 ^ 53 * 2 ^ e := mul_lt_mul_of_pos_right (by linarith) hpos
    _ ≤ 2 ^ 53 * 2 ^ (971 : Int) :=
      mul_le_mul_of_nonneg_left (zpow_le_zpow_right₀ one_le_two hc.high) (by positivity)
    _ = 2 ^ 1024 := by
      rw [← zpow_natCast, ← zpow_natCast, ← zpow_add₀ two_ne_zero]
      rfl

end Intervals

/-! ## The nearest natural number -/

/-- A natural number is nearest to itself. -/
theorem nearest_self (n : Nat) : Nearest n n := by
  refine ⟨by linarith, by linarith, ?_⟩
  rintro (heq | heq)
  · linarith
  · linarith

/-- Nearest natural numbers are in the order of the numbers. -/
theorem Nearest.mono {n k : Nat} {x y : Rat} (hn : Nearest n x) (hk : Nearest k y) (hle : x ≤ y) :
    n ≤ k := by
  by_contra hlt
  have hcast : (k : Rat) + 1 ≤ n := by exact_mod_cast (by omega)
  have hlow := hn.low
  have hhigh := hk.high
  -- both are as far as they can be, so both natural numbers are even and one apart
  have heven := hn.even (Or.inl (by linarith))
  have heven' := hk.even (Or.inr (by linarith))
  have hnext : (n : Rat) ≤ k + 1 := by linarith
  have hnext' : n ≤ k + 1 := by exact_mod_cast hnext
  omega

/-- Only one natural number is nearest. -/
theorem Nearest.unique {n k : Nat} {x : Rat} (hn : Nearest n x) (hk : Nearest k x) : n = k :=
  (hn.mono hk (le_refl x)).antisymm (hk.mono hn (le_refl x))

/-! ## Mantissas that are cut off -/

/-- The number that a mantissa was cut from, as far as the residual bits tell. -/
inductive CutFrom : ExtendedMantissa → Rat → Prop
  | exact (m : Nat) : CutFrom ⟨m, false, false⟩ m
  | below {m : Nat} {x : Rat} (hlow : m < x) (hhigh : x < m + 1 / 2) : CutFrom ⟨m, false, true⟩ x
  | half (m : Nat) : CutFrom ⟨m, true, false⟩ (m + 1 / 2)
  | above {m : Nat} {x : Rat} (hlow : m + 1 / 2 < x) (hhigh : x < m + 1) :
      CutFrom ⟨m, true, true⟩ x

/-- The mantissa is the whole part. -/
theorem CutFrom.bounds {em : ExtendedMantissa} {x : Rat} (h : CutFrom em x) :
    (em.mantissa : Rat) ≤ x ∧ x < em.mantissa + 1 := by
  cases h with
  | exact m => constructor <;> simp
  | below hlow hhigh => constructor <;> simp only <;> linarith
  | half m => constructor <;> simp only <;> linarith
  | above hlow hhigh => constructor <;> simp only <;> linarith

/-- An even mantissa loses a zero. -/
theorem shift_one_even (half : Nat) (r s : Bool) :
    ExtendedMantissa.shiftRightOne ⟨2 * half, r, s⟩ = ⟨half, false, r || s⟩ := by
  simp [ExtendedMantissa.shiftRightOne]

/-- An odd mantissa loses a one, which is the residual bit from then on. -/
theorem shift_one_odd (half : Nat) (r s : Bool) :
    ExtendedMantissa.shiftRightOne ⟨2 * half + 1, r, s⟩ = ⟨half, true, r || s⟩ := by
  have hhalf : (2 * half + 1) / 2 = half := by omega
  simp [ExtendedMantissa.shiftRightOne, hhalf]

/-- Cutting off one more bit halves the number. -/
theorem CutFrom.shift_one {em : ExtendedMantissa} {x : Rat} (h : CutFrom em x) :
    CutFrom em.shiftRightOne (x / 2) := by
  obtain ⟨half, hparity⟩ := Nat.even_or_odd' em.mantissa
  cases h with
  | exact m =>
      rcases hparity with rfl | rfl
      · have hcut : ((2 * half : Nat) : Rat) / 2 = half := by
          push_cast
          linarith
        rw [shift_one_even, hcut]
        exact .exact half
      · have hcut : ((2 * half + 1 : Nat) : Rat) / 2 = half + 1 / 2 := by
          push_cast
          linarith
        rw [shift_one_odd, hcut]
        exact .half half
  | below hlow hhigh =>
      rcases hparity with rfl | rfl
      · rw [shift_one_even]
        push_cast at hlow hhigh
        exact .below (by linarith) (by linarith)
      · rw [shift_one_odd]
        push_cast at hlow hhigh
        exact .above (by linarith) (by linarith)
  | half m =>
      rcases hparity with rfl | rfl
      · rw [shift_one_even]
        push_cast
        exact .below (by linarith) (by linarith)
      · rw [shift_one_odd]
        push_cast
        exact .above (by linarith) (by linarith)
  | above hlow hhigh =>
      rcases hparity with rfl | rfl
      · rw [shift_one_even]
        push_cast at hlow hhigh
        exact .below (by linarith) (by linarith)
      · rw [shift_one_odd]
        push_cast at hlow hhigh
        exact .above (by linarith) (by linarith)

/-- Cutting off bits divides by a power of two. -/
theorem CutFrom.shift {em : ExtendedMantissa} {x : Rat} (h : CutFrom em x) (k : Nat) :
    CutFrom (em >>> k) (x / 2 ^ k) := by
  induction k with
  | zero =>
      rw [pow_zero, div_one]
      exact h
  | succ k ih =>
      rw [pow_succ, ← div_div]
      exact ih.shift_one

/-- A number that is cut at one exponent is cut at a larger one by cutting off the bits between. -/
theorem CutFrom.shift_to {em : ExtendedMantissa} {x : Rat} {t e : Int} (h : CutFrom em (x / 2 ^ t))
    (hle : t ≤ e) : CutFrom (em >>> (e - t).toNat) (x / 2 ^ e) := by
  have hvalue : x / 2 ^ t / 2 ^ (e - t).toNat = x / 2 ^ e := by
    rw [div_div, ← zpow_natCast, ← zpow_add₀ two_ne_zero]
    congr 2
    omega
  rw [← hvalue]
  exact h.shift _

/-- The whole part of a quotient, with what the remainder says about the rest. -/
theorem cut_from_quotient (a : Nat) {b : Nat} (hb : 0 < b) :
    CutFrom (ExtendedMantissa.ofMantissaAndAccuracy (a / b) (accuracyOfFraction (a % b) b))
      (a / b) := by
  have hpos : (0 : Rat) < b := by exact_mod_cast hb
  have hless := Nat.mod_lt a hb
  have hquotient : (a : Rat) / b = (a / b : Nat) + (a % b : Nat) / (b : Rat) := by
    have hdivision : (a : Rat) = b * (a / b : Nat) + (a % b : Nat) := by
      exact_mod_cast (Nat.div_add_mod a b).symm
    rw [hdivision, add_div, mul_div_cancel_left₀ _ hpos.ne']
  rw [hquotient]
  generalize a / b = whole
  generalize a % b = rest at hless
  unfold accuracyOfFraction
  split
  · next hzero =>
      have hcut : (whole : Rat) + (rest : Nat) / (b : Rat) = whole := by simp [hzero]
      rw [hcut]
      exact .exact whole
  · next hne =>
      have hrest : (0 : Rat) < rest / b := by positivity
      have hrest' : (rest : Rat) / b < 1 := by
        rw [div_lt_one hpos]
        exact_mod_cast hless
      rcases lt_trichotomy (2 * rest) b with hlt | heq | hgt
      · rw [compare_lt_iff_lt.mpr hlt]
        have hhalf : (rest : Rat) / b < 1 / 2 := by
          rw [div_lt_div_iff₀ hpos two_pos]
          exact_mod_cast (by omega)
        exact .below (by linarith) (by linarith)
      · have hhalf : (rest : Rat) / b = 1 / 2 := by
          rw [div_eq_div_iff hpos.ne' two_ne_zero]
          exact_mod_cast (by omega)
        rw [compare_eq_iff_eq.mpr heq, hhalf]
        exact .half whole
      · rw [compare_gt_iff_gt.mpr hgt]
        have hhalf : 1 / 2 < (rest : Rat) / b := by
          rw [div_lt_div_iff₀ two_pos hpos]
          exact_mod_cast (by omega)
        exact .above (by linarith) (by linarith)

/-- Rounding takes a nearest natural number. -/
theorem CutFrom.nearest {em : ExtendedMantissa} {x : Rat} (h : CutFrom em x) :
    Nearest em.roundedMantissa x := by
  cases h with
  | exact m => exact nearest_self m
  | @below m x hlow hhigh =>
      show Nearest m x
      exact ⟨by linarith, by linarith, by rintro (heq | heq) <;> linarith⟩
  | half m =>
      show Nearest (m + m % 2) (m + 1 / 2)
      rcases Nat.mod_two_eq_zero_or_one m with heven | hodd
      · rw [heven, Nat.add_zero]
        exact ⟨by linarith, by linarith, fun _ => heven⟩
      · rw [hodd]
        exact ⟨by push_cast; linarith, by push_cast; linarith, fun _ => by omega⟩
  | @above m x hlow hhigh =>
      show Nearest (m + 1) x
      refine ⟨by push_cast; linarith, by push_cast; linarith, ?_⟩
      push_cast
      rintro (heq | heq) <;> linarith

/-- Rounding takes the nearest natural number, and the even one of two. -/
theorem CutFrom.rounded {em : ExtendedMantissa} {x : Rat} {n : Nat} (h : CutFrom em x)
    (hn : Nearest n x) : em.roundedMantissa = n :=
  h.nearest.unique hn

/-! ## Rounding a mantissa -/

/-- The exponent that is aimed at. -/
theorem target_eq (m : Nat) (e : Int) :
    Format.binary64.targetExponent (totalExponent m e) = max (m.log2 + e - 52) (-1074) := by
  rw [target_exponent, totalExponent]
  omega

/-- A mantissa that needs no shift is left alone. -/
theorem shift_to_target_self {m : Nat} {e : Int} (h : max (m.log2 + e - 52) (-1074) = e) :
    shiftToTargetExponent Format.binary64 m e .exact = (⟨m, false, false⟩, e) := by
  simp only [shiftToTargetExponent, shiftToExponent, target_eq, h, Int.sub_self, Int.toNat_zero,
    Int.natCast_zero, Int.add_zero]
  rfl

/-- The aim of a mantissa with its bits in place is its own exponent. -/
theorem target_self {m : Nat} {e : Int} (hsmall : m < 2 ^ 53) (hlow : -1074 ≤ e)
    (hnormal : m < 2 ^ 52 → e = -1074) : max (m.log2 + e - 52) (-1074) = e := by
  by_cases hless : m < 2 ^ 52
  · have he := hnormal hless
    have hbits : m.log2 ≤ 51 := by
      by_cases hzero : m = 0
      · simp [hzero]
      · exact Nat.le_of_lt_succ ((Nat.log2_lt hzero).mpr hless)
    omega
  · have hbits : m.log2 = 52 := (Nat.log2_eq_iff (by omega)).mpr ⟨not_lt.mp hless, hsmall⟩
    omega

/-- The aim of a number with a canonical form is its own exponent. -/
theorem Canonical.target {m : Nat} {e : Int} (h : Canonical m e) :
    max (m.log2 + e - 52) (-1074) = e :=
  target_self h.small h.low h.normal

/-- A mantissa of 54 bits that carried loses its last bit. -/
theorem shift_to_target_carry {e : Int} (h : -1074 < e) :
    shiftToTargetExponent Format.binary64 (2 ^ 53) (e - 1) .exact =
      (⟨2 ^ 52, false, false⟩, e) := by
  have htarget : max (((2 ^ 53 : Nat).log2 : Int) + (e - 1) - 52) (-1074) = e := by
    rw [Nat.log2_two_pow]
    omega
  have hone : (e - (e - 1)).toNat = 1 := by omega
  have hsum : e - 1 + ((1 : Nat) : Int) = e := by omega
  simp only [shiftToTargetExponent, shiftToExponent, target_eq, htarget, hone, hsum]
  have hcut : ExtendedMantissa.ofMantissaAndAccuracy (2 ^ 53) .exact >>> 1 =
      ⟨2 ^ 52, false, false⟩ := by
    show ExtendedMantissa.shiftRightOne ⟨2 ^ 53, false, false⟩ = _
    rw [show 2 ^ 53 = 2 * 2 ^ 52 by norm_num, shift_one_even]
    rfl
  rw [hcut]

section Rounding

variable {q : Nat} {t : Int} {accuracy : Accuracy} {x : Rat} {m : Nat} {e : Int}

/-- What a mantissa is rounded to at the exponent where it is cut. -/
theorem round_at (hcut : CutFrom (ExtendedMantissa.ofMantissaAndAccuracy q accuracy) (x / 2 ^ t))
    (htarget : max (q.log2 + t - 52) (-1074) = e) (hle : t ≤ e) (hnear : Nearest m (x / 2 ^ e)) :
    roundWithAccuracy Format.binary64 .positive q t accuracy = ofUnits m e := by
  have hfirst : shiftToTargetExponent Format.binary64 q t accuracy =
      (ExtendedMantissa.ofMantissaAndAccuracy q accuracy >>> (e - t).toNat, e) := by
    have hsum : t + ((e - t).toNat : Int) = e := by omega
    simp only [shiftToTargetExponent, shiftToExponent, target_eq, htarget, hsum]
  rw [round_with_accuracy_units hfirst, (hcut.shift_to hle).rounded hnear]

/-- A mantissa with enough bits is cut at the place of the number. -/
theorem place_of_cut
    (hcut : CutFrom (ExtendedMantissa.ofMantissaAndAccuracy q accuracy) (x / 2 ^ t))
    (henough : 52 ≤ q.log2 ∨ t ≤ -1074) (htarget : max (q.log2 + t - 52) (-1074) = e) :
    t ≤ e ∧ Place x e := by
  have hpos : (0 : Rat) < 2 ^ t := by positivity
  obtain ⟨hfloor, hceil⟩ := hcut.bounds
  rw [mantissa_of_accuracy, le_div_iff₀ hpos] at hfloor
  rw [mantissa_of_accuracy, div_lt_iff₀ hpos] at hceil
  refine ⟨by omega, by omega, ?_, ?_⟩
  · have hbits : ((q + 1 : Nat) : Rat) ≤ (2 ^ (q.log2 + 1) : Nat) :=
      Nat.cast_le.mpr Nat.lt_log2_self
    push_cast at hbits
    calc
      x < (q + 1) * 2 ^ t := hceil
      _ ≤ (2 ^ (q.log2 + 1) : Nat) * 2 ^ t := by push_cast; gcongr
      _ = 2 ^ ((q.log2 + 1 : Nat) + t) := (units_power _ _).symm
      _ ≤ 2 ^ (53 + e) := zpow_le_zpow_right₀ one_le_two (by omega)
  · by_cases hleast : e = -1074
    · exact Or.inr hleast
    · have hnonzero : q ≠ 0 := by
        rintro rfl
        simp at henough htarget
        omega
      have hbits : ((2 ^ q.log2 : Nat) : Rat) ≤ q := Nat.cast_le.mpr (Nat.log2_self_le hnonzero)
      refine Or.inl ?_
      calc
        (2 : Rat) ^ (52 + e) = 2 ^ ((q.log2 : Int) + t) := by
          congr 1
          omega
        _ = (2 ^ q.log2 : Nat) * 2 ^ t := units_power _ _
        _ ≤ q * 2 ^ t := by gcongr
        _ ≤ x := hfloor

/-- The place of a number is where a mantissa with enough bits is cut. -/
theorem target_of_place
    (hcut : CutFrom (ExtendedMantissa.ofMantissaAndAccuracy q accuracy) (x / 2 ^ t))
    (henough : 52 ≤ q.log2 ∨ t ≤ -1074) (he : Place x e) :
    t ≤ e ∧ max (q.log2 + t - 52) (-1074) = e := by
  obtain ⟨hle, hplace⟩ := place_of_cut hcut henough rfl
  have hsame := (hplace.mono he (le_refl x)).antisymm (he.mono hplace (le_refl x))
  exact ⟨hsame ▸ hle, hsame⟩

/-- A number in the interval is nearest to the mantissa, in units of the last bit. -/
theorem Within.nearest (h : Within m e x) : Nearest m (x / 2 ^ e) := by
  have hpos : (0 : Rat) < 2 ^ e := by positivity
  have hreach : reach m e = 1 / 4 ∨ reach m e = 1 / 2 := by
    unfold reach
    split
    · exact Or.inl rfl
    · exact Or.inr rfl
  have hlow : m - reach m e ≤ x / 2 ^ e := (le_div_iff₀ hpos).mpr h.low
  refine ⟨?_, (div_le_iff₀ hpos).mpr h.high, ?_⟩
  · rcases hreach with hreach | hreach
    · rw [hreach] at hlow
      linarith
    · rwa [hreach] at hlow
  · rintro (heq | heq)
    · rcases hreach with hreach | hreach
      · rw [hreach, heq] at hlow
        linarith
      · exact h.even (Or.inl (by rw [hreach, ← heq, div_mul_cancel₀ _ hpos.ne']))
    · exact h.even (Or.inr (by rw [← heq, div_mul_cancel₀ _ hpos.ne']))

/-- Below the first number of a binade, a number in its interval is nearest to the mantissa with one
bit more. -/
theorem Within.nearest_below (h : Within (2 ^ 52) e x) (he : -1074 < e) (hx : x < 2 ^ (52 + e)) :
    Nearest (2 ^ 53) (x / 2 ^ (e - 1)) := by
  have hpos : (0 : Rat) < 2 ^ (e - 1) := by positivity
  have hdouble : (2 : Rat) ^ e = 2 * 2 ^ (e - 1) := by
    rw [← zpow_one_add₀ two_ne_zero]
    congr 1
    omega
  have hreach : reach (2 ^ 52) e = 1 / 4 := if_pos ⟨rfl, he⟩
  have hlow := h.low
  rw [hreach, hdouble] at hlow
  rw [zpow_add₀ two_ne_zero, hdouble] at hx
  refine ⟨?_, ?_, fun _ => by norm_num⟩
  · rw [le_div_iff₀ hpos]
    push_cast at hlow ⊢
    linarith
  · rw [div_le_iff₀ hpos]
    push_cast at hx ⊢
    norm_num at hx ⊢
    linarith

/-- A mantissa with enough bits is rounded to the number in whose interval it lies. -/
theorem round_within (hc : Canonical m e) (hx : Within m e x)
    (hcut : CutFrom (ExtendedMantissa.ofMantissaAndAccuracy q accuracy) (x / 2 ^ t))
    (henough : 52 ≤ q.log2 ∨ t ≤ -1074) :
    roundWithAccuracy Format.binary64 .positive q t accuracy = .finite .positive m e hc.pos := by
  have hpos : (0 : Rat) < 2 ^ e := by positivity
  have hmantissa := hc.mantissa_le
  have hhigh : x < 2 ^ (53 + e) := by
    calc
      x ≤ (m + 1 / 2) * 2 ^ e := hx.high
      _ < 2 ^ 53 * 2 ^ e := mul_lt_mul_of_pos_right (by linarith) hpos
      _ = 2 ^ (53 + e) := by rw [zpow_add₀ two_ne_zero]; rfl
  by_cases hbinade : 2 ^ (52 + e) ≤ x ∨ e = -1074
  · obtain ⟨hle, htarget⟩ := target_of_place hcut henough ⟨hc.low, hhigh, hbinade⟩
    rw [round_at hcut htarget hle hx.nearest]
    exact of_units_finite (shift_to_target_self hc.target) hc.pos
  · -- Only the first number of a binade has an interval that reaches below the binade.
    obtain ⟨hbelow, hleast⟩ := not_or.mp hbinade
    have hbelow := not_le.mp hbelow
    have he : -1074 < e := lt_of_le_of_ne hc.low (Ne.symm hleast)
    have hfirst : m = 2 ^ 52 := by
      by_contra hother
      have hmore : 2 ^ 52 + 1 ≤ m := by
        have hnormal := mt hc.normal hleast
        omega
      have hcast : ((2 ^ 52 + 1 : Nat) : Rat) ≤ m := Nat.cast_le.mpr hmore
      have hreach : reach m e = 1 / 2 := if_neg fun h => hother h.1
      have hlow := hx.low
      rw [zpow_add₀ two_ne_zero] at hbelow
      rw [hreach] at hlow
      push_cast at hcast
      have hscaled : (2 ^ 52 : Rat) * 2 ^ e ≤ (m - 1 / 2) * 2 ^ e :=
        mul_le_mul_of_nonneg_right (by linarith) hpos.le
      exact absurd (hscaled.trans hlow) (not_le.mpr hbelow)
    subst hfirst
    have hlow : (2 : Rat) ^ (52 + (e - 1)) ≤ x := by
      calc
        (2 : Rat) ^ (52 + (e - 1)) = 2 ^ 51 * 2 ^ e := by
          rw [show 52 + (e - 1) = 51 + e by omega, zpow_add₀ two_ne_zero]
          rfl
        _ ≤ ((2 ^ 52 : Nat) - reach (2 ^ 52) e) * 2 ^ e := by
          rw [reach, if_pos ⟨rfl, he⟩]
          exact mul_le_mul_of_nonneg_right (by norm_num) hpos.le
        _ ≤ x := hx.low
    have hrange : x < 2 ^ (53 + (e - 1)) := by
      rwa [show 53 + (e - 1) = 52 + e by omega]
    obtain ⟨hle, htarget⟩ := target_of_place hcut henough ⟨by omega, hrange, Or.inl hlow⟩
    rw [round_at hcut htarget hle (hx.nearest_below he hbelow)]
    exact of_units_finite (shift_to_target_carry he) hc.pos

/-- A quotient is rounded from a mantissa with enough bits. -/
theorem exists_div_cut {a b : Nat} {f g : Int} (ha : 0 < a) (hb : 0 < b) :
    ∃ q t accuracy,
      UnpackedFloat.div Format.binary64 (.finite .positive a f ha) (.finite .positive b g hb) =
          roundWithAccuracy Format.binary64 .positive q t accuracy ∧
        CutFrom (ExtendedMantissa.ofMantissaAndAccuracy q accuracy)
          (a * 2 ^ f / (b * 2 ^ g) / 2 ^ t) ∧
        (52 ≤ q.log2 ∨ t ≤ -1074) := by
  generalize htarget : min (f - g) (Format.binary64.targetExponent
    (totalExponent a f - totalExponent b g)) = t
  have hle : t ≤ f - g := htarget ▸ min_le_left _ _
  obtain ⟨k, hk⟩ : ∃ k : Nat, (k : Int) = f - g - t := ⟨(f - g - t).toNat, by omega⟩
  have hshift : (f - g - t).toNat = k := by omega
  refine ⟨a <<< k / b, t, accuracyOfFraction (a <<< k % b) b, div_finite ha hb htarget hshift,
    ?_, ?_⟩
  · have hvalue : (a * 2 ^ f / (b * 2 ^ g) : Rat) / 2 ^ t = ((a <<< k : Nat) : Rat) / b := by
      have hsum : f = k + g + t := by omega
      have hb' : (b : Rat) ≠ 0 := by exact_mod_cast hb.ne'
      rw [Nat.shiftLeft_eq, hsum, zpow_add₀ two_ne_zero, zpow_add₀ two_ne_zero, zpow_natCast]
      push_cast
      field_simp
    rw [hvalue]
    exact cut_from_quotient _ hb
  · have hbits : t ≤ -1074 ∨ b.log2 + 53 ≤ a.log2 + k := by
      rw [target_exponent, totalExponent, totalExponent] at htarget
      omega
    rcases hbits with hsmall | hbits
    · exact Or.inr hsmall
    · have hquotient : 2 ^ 52 ≤ a <<< k / b := by
        rw [Nat.le_div_iff_mul_le hb]
        calc
          2 ^ 52 * b ≤ 2 ^ 52 * 2 ^ (b.log2 + 1) :=
            Nat.mul_le_mul_left _ Nat.lt_log2_self.le
          _ = 2 ^ (b.log2 + 53) := by rw [← pow_add]; congr 1; omega
          _ ≤ 2 ^ (a <<< k).log2 := by
            rw [log2_shift_left ha]
            exact Nat.pow_le_pow_right two_pos hbits
          _ ≤ a <<< k := Nat.log2_self_le (Nat.shiftLeft_pos_iff.mpr ha).ne'
      have hnonzero : a <<< k / b ≠ 0 := by omega
      exact Or.inl ((Nat.le_log2 hnonzero).mpr hquotient)

/-- A quotient is rounded to the number in whose interval it lies. -/
theorem div_of_within {a b : Nat} {f g : Int} (ha : 0 < a) (hb : 0 < b) (hc : Canonical m e)
    (hx : Within m e (a * 2 ^ f / (b * 2 ^ g))) :
    UnpackedFloat.div Format.binary64 (.finite .positive a f ha) (.finite .positive b g hb) =
      .finite .positive m e hc.pos := by
  obtain ⟨q, t, accuracy, hdiv, hcut, henough⟩ := exists_div_cut (f := f) (g := g) ha hb
  rw [hdiv]
  exact round_within hc hx hcut henough

end Rounding

end CallProfile.Number.Binary64

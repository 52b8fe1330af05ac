import CallProfile.Proofs.Number.Fields
import CallProfile.Proofs.Number.Natural
import Mathlib.Tactic.IntervalCases

/-!
# Decimal fractions in binary64

A natural number over a power of ten is read as the number in whose interval it lies
(`of_scientific_within`), whichever way the division goes: of two numbers that are stored exactly,
or of all digits at once.
-/

namespace CallProfile.Number.Binary64

open Float.Model (Format UnpackedFloat totalExponent)
open Float.Model.UnpackedFloat

/-! ## Numbers that are stored exactly -/

/-- A natural number of at most 53 bits is stored exactly. -/
theorem parts_of_small {n : Nat} (hpos : 0 < n) (hsmall : n < 2 ^ 53) :
    ∃ (m : Nat) (e : Int) (h : Canonical m e),
      parts n.toUInt64.toFloat = .finite .positive m e h.pos ∧ (m * 2 ^ e : Rat) = n := by
  have hbits : n.log2 < 53 := (Nat.log2_lt (Nat.ne_of_gt hpos)).mpr hsmall
  have hlog := log2_shift_left hpos (52 - n.log2)
  have hlead : (n <<< (52 - n.log2)).log2 = 52 := by omega
  have hcanonical : Canonical (n <<< (52 - n.log2)) (n.log2 - 52) := by
    have hnonzero : 0 < n <<< (52 - n.log2) := Nat.shiftLeft_pos_iff.mpr hpos
    obtain ⟨hlow, hhigh⟩ := (Nat.log2_eq_iff (Nat.ne_of_gt hnonzero)).mp hlead
    exact ⟨hnonzero, hhigh, by omega, by omega, by omega⟩
  have hround : UnpackedFloat.round Format.binary64 .positive n 0 =
      .finite .positive (n <<< (52 - n.log2)) (n.log2 - 52) hcanonical.pos := by
    have htarget : Format.binary64.targetExponent (totalExponent n 0) = n.log2 - 52 := by
      rw [target_eq]
      omega
    have hshift : ((0 : Int) - (n.log2 - 52)).toNat = 52 - n.log2 := by omega
    have hnext : (0 : Int) - (52 - n.log2 : Nat) = n.log2 - 52 := by omega
    rw [round_finite htarget hshift, hnext]
    refine round_within hcanonical (within_self _ _) ?_ (Or.inl (by omega))
    rw [mul_div_cancel_right₀ _ (by positivity)]
    exact .exact _
  refine ⟨_, n.log2 - 52, hcanonical, ?_, ?_⟩
  · rw [parts_of_word hpos (hsmall.trans (by decide)), hround]
    exact unpack_pack_finite hcanonical.pos hlead hcanonical.low hcanonical.high
  · have hsum : ((52 - n.log2 : Nat) : Int) + (n.log2 - 52) = 0 := by omega
    rw [Nat.shiftLeft_eq]
    push_cast
    rw [mul_assoc, ← zpow_natCast, ← zpow_add₀ two_ne_zero, hsum, zpow_zero, mul_one]

/-- How the small powers of ten are stored. -/
theorem decode_power {k : Nat} {y : Float}
    (h : Float.exactlyRepresentablePowersOfTen[k]? = some y) :
    decode y = .finite false (10 ^ k * 2 ^ 52 / 2 ^ (10 ^ k).log2) ((10 ^ k).log2 - 52) := by
  have hk : k < 23 := (Array.getElem?_eq_some_iff.mp h).1
  interval_cases k
  all_goals
    cases h
    rfl

/-- The small powers of ten have at most 53 bits above their zeros. -/
theorem power_exact {k : Nat} (hk : k < 23) :
    10 ^ k * 2 ^ 52 / 2 ^ (10 ^ k).log2 * 2 ^ (10 ^ k).log2 = 10 ^ k * 2 ^ 52 := by
  interval_cases k
  all_goals rfl

/-- The small powers of ten are stored exactly. -/
theorem parts_of_power {k : Nat} {y : Float}
    (h : Float.exactlyRepresentablePowersOfTen[k]? = some y) :
    ∃ (m : Nat) (e : Int) (hm : 0 < m),
      parts y = .finite .positive m e hm ∧ (m * 2 ^ e : Rat) = (10 ^ k : Nat) := by
  have hexact := power_exact (Array.getElem?_eq_some_iff.mp h).1
  have hdecode := decode_power h
  generalize 10 ^ k * 2 ^ 52 / 2 ^ (10 ^ k).log2 = m at hexact hdecode
  have hm : 0 < m := by
    by_contra hzero
    obtain rfl : m = 0 := by omega
    rw [Nat.zero_mul] at hexact
    exact absurd hexact.symm (by positivity)
  refine ⟨m, _, hm, parts_of_decode hdecode hm, ?_⟩
  have hcast : (m * 2 ^ (10 ^ k).log2 : Rat) = (10 ^ k : Nat) * 2 ^ 52 := by exact_mod_cast hexact
  rw [zpow_sub₀ two_ne_zero, zpow_natCast, ← mul_div_assoc, hcast]
  exact mul_div_cancel_right₀ _ (by norm_num)

/-! ## Reading -/

section Reading

variable {x : Float} {m n k : Nat} {e : Int}

/-- A fraction that is read as a number above zero is not too small for its power of ten to be
computed. -/
theorem exponent_lt (hc : Canonical m e) (hx : Within m e (n / 10 ^ k)) :
    k < n.log2 + 1076 := by
  have hlow := hx.low_bound hc
  rw [le_div_iff₀ (by positivity), zpow_neg, inv_mul_le_iff₀ (by positivity)] at hlow
  have hpower : 10 ^ k ≤ 2 ^ 1075 * n := by exact_mod_cast hlow
  have hlt : 2 ^ k < 2 ^ (n.log2 + 1076) := by
    calc
      2 ^ k ≤ 10 ^ k := Nat.pow_le_pow_left (by norm_num) k
      _ ≤ 2 ^ 1075 * n := hpower
      _ < 2 ^ 1075 * 2 ^ (n.log2 + 1) := Nat.mul_lt_mul_of_pos_left Nat.lt_log2_self (by positivity)
      _ = 2 ^ (n.log2 + 1076) := by rw [← pow_add]; congr 1; omega
  exact (Nat.pow_lt_pow_iff_right one_lt_two).mp hlt

/-- A fraction is read as the number in whose interval it lies. -/
theorem of_scientific_within (h : decode x = .finite false m e) (hm : 0 < m) (hn : 0 < n)
    (hk : 0 < k) (hx : Within m e (n / 10 ^ k)) : Float.ofScientific n true k = x := by
  have hc := (decode_positive h hm).1
  unfold Float.ofScientific
  split
  · next hsmall =>
      have hindex : k < Float.exactlyRepresentablePowersOfTen.size := Nat.lt_succ_of_le hsmall.2
      obtain ⟨a, f, ha, hparts, hvalue⟩ := parts_of_small hn hsmall.1
      obtain ⟨b, g, hb, hparts', hvalue'⟩ := parts_of_power (Array.getElem?_eq_getElem hindex)
      show Float.ofModel (Float.Model.pack (UnpackedFloat.div Format.binary64
        (parts n.toUInt64.toFloat) (parts Float.exactlyRepresentablePowersOfTen[k]))) = _
      have hquotient : Within m e (a * 2 ^ f / (b * 2 ^ g)) := by
        rw [hvalue, hvalue']
        exact_mod_cast hx
      rw [hparts, hparts', div_of_within ha.pos hb hc hquotient, eq_of_pack h hc]
  · have hnegative : Int.negOfNat k = -(k : Int) := Int.negOfNat_eq
    have hhigh : ¬(Int.negOfNat k : Int) > 2 ^ Format.binary64.exponentBits := by
      show ¬(Int.negOfNat k : Int) > 2048
      omega
    have hlow : ¬Int.negOfNat k < -(2 ^ Format.binary64.exponentBits + (n.log2 : Int)) := by
      have hlt := exponent_lt hc hx
      show ¬Int.negOfNat k < -(2048 + (n.log2 : Int))
      omega
    have hpower : (-Int.negOfNat k).toNat = k := by omega
    show Float.ofModel (Float.Model.pack
      (UnpackedFloat.ofScientific Format.binary64 n (Int.negOfNat k))) = _
    unfold UnpackedFloat.ofScientific
    rw [dif_neg hn.ne', if_neg hhigh, if_neg hlow, if_neg (by omega)]
    have hquotient : Within m e
        ((n : Nat) * 2 ^ (0 : Int) / ((10 ^ (-Int.negOfNat k).toNat : Nat) * 2 ^ (0 : Int))) := by
      rw [hpower, zpow_zero, mul_one, mul_one]
      exact_mod_cast hx
    rw [div_of_within hn _ hc hquotient, eq_of_pack h hc]

/-- A numeral is read as the number in whose interval its value lies. -/
theorem to_float_within (h : decode x = .finite false m e) (hm : 0 < m) (hn : 0 < n)
    (hk : 0 < k) (hx : Within m e (n / 10 ^ k)) : (Numeral.mk false n (-k)).toFloat = x := by
  have hc := (decode_positive h hm).1
  have hmost : 2 ^ 1024 ≤ 10 ^ 310 := by decide +kernel
  have hleast : 2 ^ 1075 ≤ 10 ^ 399 := by decide +kernel
  have hhigh : ¬(310 : Int) < ((Nat.toDigits 10 n).length : Int) + -k := by
    have hlt := hx.lt_bound hc
    rw [div_lt_iff₀ (by positivity)] at hlt
    have hlt : n < 2 ^ 1024 * 10 ^ k := by exact_mod_cast hlt
    have hpower : n < 10 ^ (310 + k) := by
      rw [pow_add]
      exact hlt.trans_le (Nat.mul_le_mul_right _ hmost)
    have hlength := (Nat.length_toDigits_le_iff (by decide) (by omega)).mpr hpower
    omega
  have hlow : ¬((Nat.toDigits 10 n).length : Int) + -k < -400 := by
    intro hless
    have hle := hx.low_bound hc
    rw [le_div_iff₀ (by positivity), zpow_neg, inv_mul_le_iff₀ (by positivity)] at hle
    have hle : 10 ^ k ≤ 2 ^ 1075 * n := by exact_mod_cast hle
    obtain ⟨l, rfl⟩ : ∃ l, k = 399 + l := ⟨k - 399, by omega⟩
    have hlt := (Nat.length_toDigits_le_iff (by decide) (by omega)).mp
      (show (Nat.toDigits 10 n).length ≤ l by omega)
    rw [pow_add] at hle
    exact absurd (hle.trans_lt (Nat.mul_lt_mul_of_le_of_lt hleast hlt (by positivity)))
      (lt_irrefl _)
  obtain ⟨k, rfl⟩ : ∃ j, k = j + 1 := ⟨k - 1, by omega⟩
  unfold Numeral.toFloat
  simp only [hn.ne', if_false, if_neg hhigh, if_neg hlow]
  exact of_scientific_within h hm hn hk hx

end Reading

end CallProfile.Number.Binary64

import CallProfile.Number.Reading
import CallProfile.Proofs.Number.Binary64
import CallProfile.Proofs.Number.Nearest
import CallProfile.Proofs.Number.Positive

/-!
# The fields of a binary64 number

The fields that `decode` reads off the bits are the parts of the arithmetic (`parts_of_decode`), and
a number that is not negative is put together again from them (`eq_of_pack`, `eq_of_zero`).
-/

namespace CallProfile.Number.Binary64

open Float.Model (Format UnpackedFloat totalExponent)
open Float.Model.UnpackedFloat

/-! ## Values -/

/-- A denominator is not zero. -/
theorem quotient_pos (m : Nat) (e : Int) : 0 < (quotient m e).2 := by
  cases e with
  | ofNat e => exact Nat.one_pos
  | negSucc e => exact Nat.pow_pos (by decide)

/-- A magnitude as a quotient. -/
theorem quotient_eq (m : Nat) (e : Int) :
    ((quotient m e).1 : Rat) = m * 2 ^ e * (quotient m e).2 := by
  cases e with
  | ofNat e =>
      show ((m * 2 ^ e : Nat) : Rat) = m * 2 ^ (e : Int) * (1 : Nat)
      rw [zpow_natCast]
      push_cast
      ring
  | negSucc e =>
      show (m : Rat) = m * 2 ^ (Int.negSucc e) * ((2 ^ (e + 1) : Nat) : Rat)
      rw [zpow_negSucc]
      push_cast
      field_simp

/-- The exact value of a finite number. -/
theorem to_rat_of_decode {x : Float} {negative : Bool} {m : Nat} {e : Int}
    (h : decode x = .finite negative m e) :
    toRat x = if negative then -(m * 2 ^ e : Rat) else m * 2 ^ e := by
  have hpos : ((quotient m e).2 : Rat) ≠ 0 := Nat.cast_ne_zero.mpr (quotient_pos m e).ne'
  unfold toRat
  rw [h]
  cases negative with
  | false =>
      show mkRat ((quotient m e).1 : Int) (quotient m e).2 = m * 2 ^ e
      rw [Rat.mkRat_eq_div, Int.cast_natCast, quotient_eq, mul_div_cancel_right₀ _ hpos]
  | true =>
      show mkRat (-((quotient m e).1 : Int)) (quotient m e).2 = -(m * 2 ^ e)
      rw [Rat.mkRat_eq_div, Int.cast_neg, Int.cast_natCast, quotient_eq, neg_div,
        mul_div_cancel_right₀ _ hpos]

/-! ## Taking bits apart -/

/-- The sign that the highest bit stands for. -/
def signOf (negative : Bool) : Sign :=
  if negative then .negative else .positive

/-- The field of the mantissa. -/
theorem to_nat_unpack_mantissa (x : Float) :
    (@unpackMantissa Format.binary64 x.toBits.toBitVec).toNat = x.toBits.toNat % 2 ^ 52 := by
  simp [unpackMantissa]

/-- The field of the exponent. -/
theorem to_nat_unpack_exponent (x : Float) :
    (@unpackExponent Format.binary64 x.toBits.toBitVec).toNat =
      x.toBits.toNat / 2 ^ 52 % 2 ^ 11 := by
  simp [unpackExponent, Nat.shiftRight_eq_div_pow]

/-- The field of the sign. -/
theorem unpack_sign (x : Float) :
    Sign.ofBitVec (@unpackSign Format.binary64 x.toBits.toBitVec) =
      signOf (decide (2 ^ 63 ≤ x.toBits.toNat)) := by
  have hword : x.toBits.toNat < 2 ^ 64 := x.toBits.toNat_lt
  have hbit : (@unpackSign Format.binary64 x.toBits.toBitVec).toNat =
      x.toBits.toNat / 2 ^ 63 % 2 := by
    show (x.toBits.toBitVec.extractLsb' 63 1).toNat = _
    simp [Nat.shiftRight_eq_div_pow]
  have hzero : @unpackSign Format.binary64 x.toBits.toBitVec = 0#1 ↔
      x.toBits.toNat / 2 ^ 63 % 2 = 0 := by
    rw [← hbit]
    exact BitVec.toNat_inj.symm
  unfold Sign.ofBitVec signOf
  by_cases hnegative : 2 ^ 63 ≤ x.toBits.toNat
  · rw [if_neg (by rw [hzero]; omega), if_pos (decide_eq_true hnegative)]
  · rw [if_pos (by rw [hzero]; omega), if_neg (by simpa using hnegative)]

/-- The powers of two that separate the fields. -/
theorem field_powers : Nat.pow 2 52 = 2 ^ 52 ∧ Nat.pow 2 11 = 2 ^ 11 ∧ Nat.pow 2 63 = 2 ^ 63 := by
  decide

section Fields

variable {x : Float} {negative : Bool} {m : Nat} {e : Int}

/-- A finite number that is not zero has the parts that its bits show. -/
theorem parts_of_decode (h : decode x = .finite negative m e) (hm : 0 < m) :
    parts x = .finite (signOf negative) m e hm := by
  have hmantissa := to_nat_unpack_mantissa x
  have hexponent := to_nat_unpack_exponent x
  have hsign := unpack_sign x
  unfold decode at h
  simp only [powerOfTwo, field_powers] at h
  show UnpackedFloat.unpack Format.binary64 x.toBits.toBitVec = _
  split at h
  · split at h <;> cases h
  · next hones =>
      split at h
      · next hscale =>
          obtain ⟨rfl, rfl, rfl⟩ := Decoded.finite.inj h
          rw [unpack_subnormal (hexponent.trans hscale) hmantissa hm, hsign]
      · next hscale =>
          obtain ⟨rfl, rfl, rfl⟩ := Decoded.finite.inj h
          rw [unpack_hidden hexponent hscale hones (congrArg _ hmantissa) hm, hsign]

/-- A number from zero up to one is finite. -/
theorem is_finite_of_unit (hlow : 0 ≤ x) (hhigh : x < 1) : x.isFinite = true := by
  have hlow : (parts 0).le (parts x) = true := of_decide_eq_true hlow
  have hhigh : (parts x).lt (parts 1) = true := of_decide_eq_true hhigh
  have hzero : parts 0 = .zero .positive := rfl
  have hone : parts 1 = .finite .positive (2 ^ 52) (-52) (by decide) := rfl
  rw [hzero] at hlow
  rw [hone] at hhigh
  show (parts x).isFinite = true
  generalize parts x = u at hlow hhigh
  cases u with
  | notANumber => cases hlow
  | zero sign => rfl
  | finite sign m e hm => rfl
  | infinity sign =>
      cases sign with
      | negative => cases hlow
      | positive => cases hhigh

/-- A finite number from zero on has no minus sign unless it is zero. -/
theorem mantissa_eq_zero (hlow : 0 ≤ x) (h : decode x = .finite true m e) : m = 0 := by
  have hlow : (parts 0).le (parts x) = true := of_decide_eq_true hlow
  have hzero : parts 0 = .zero .positive := rfl
  by_contra hm
  rw [hzero, parts_of_decode h (Nat.pos_of_ne_zero hm)] at hlow
  cases hlow

/-! ## Putting bits together -/

/-- A zero is the zero of its sign. -/
theorem eq_of_zero (h : decode x = .finite negative 0 e) : signed negative 0 = x := by
  have hword : x.toBits.toNat < 2 ^ 64 := x.toBits.toNat_lt
  unfold decode at h
  simp only [powerOfTwo, field_powers] at h
  split at h
  · split at h <;> cases h
  · split at h
    · next hscale =>
        obtain ⟨hsign, hfraction, -⟩ := Decoded.finite.inj h
        refine eq_of_to_bits (UInt64.toNat_inj.mp ?_)
        cases negative with
        | false =>
            have hpositive := of_decide_eq_false hsign
            show 0 = _
            omega
        | true =>
            have hnegative := of_decide_eq_true hsign
            show 2 ^ 63 = _
            omega
    · have hmantissa := (Decoded.finite.inj h).2.1
      omega

/-- The bits of a positive number: those of the mantissa, with the exponent above them if there is a
hidden bit. -/
def bitsOf (m : Nat) (e : Int) : Nat :=
  if m < 2 ^ 52 then m else (e + 1075).toNat * 2 ^ 52 + (m - 2 ^ 52)

/-- The components side by side. -/
theorem to_nat_components (sign : Sign) (exponent : BitVec 11) (mantissa : BitVec 52) :
    (packComponents Format.binary64 sign exponent mantissa).toNat =
      sign.toBitVec.toNat * 2 ^ 63 + exponent.toNat * 2 ^ 52 + mantissa.toNat := by
  show (sign.toBitVec ++ exponent ++ mantissa).toNat = _
  rw [BitVec.toNat_append, BitVec.toNat_append, ← Nat.shiftLeft_add_eq_or_of_lt (BitVec.isLt _),
    ← Nat.shiftLeft_add_eq_or_of_lt (BitVec.isLt _), Nat.shiftLeft_eq, Nat.shiftLeft_eq]
  ring

/-- The bits of a number with a canonical form. -/
theorem Canonical.to_nat_pack (h : Canonical m e) :
    (Float.Model.pack (.finite .positive m e h.pos)).toBits.toNat = bitsOf m e := by
  have hlow := h.low
  have hhigh := h.high
  show (UnpackedFloat.pack Format.binary64 (.finite .positive m e h.pos)).toNat = _
  rw [pack_finite, if_neg (by omega), to_nat_components, BitVec.toNat_ofNat]
  unfold bitsOf
  by_cases hnormal : m < 2 ^ 52
  · have hlog : m.log2 < 52 := (Nat.log2_lt (Nat.ne_of_gt h.pos)).mpr hnormal
    rw [if_neg hlog.ne, if_pos hnormal, Nat.mod_eq_of_lt hnormal]
    simp [Sign.toBitVec]
  · have hlog : m.log2 = 52 :=
      (Nat.log2_eq_iff (Nat.ne_of_gt h.pos)).mpr ⟨not_lt.mp hnormal, h.small⟩
    have hmantissa : m % 2 ^ 52 = m - 2 ^ 52 := by
      have hsmall := h.small
      omega
    have hexponent : (e + 1075).toNat < 2 ^ 11 := by omega
    rw [if_pos hlog, if_neg hnormal, BitVec.toNat_ofNat, hmantissa, Nat.mod_eq_of_lt hexponent]
    simp [Sign.toBitVec]

/-- A finite number that is not zero has a canonical form. -/
theorem canonical_of_decode (h : decode x = .finite negative m e) (hm : 0 < m) :
    Canonical m e := by
  unfold decode at h
  simp only [powerOfTwo, field_powers] at h
  split at h
  · split at h <;> cases h
  · split at h
    · obtain ⟨-, rfl, rfl⟩ := Decoded.finite.inj h
      exact ⟨hm, by omega, by omega, by omega, fun _ => rfl⟩
    · obtain ⟨-, rfl, rfl⟩ := Decoded.finite.inj h
      exact ⟨hm, by omega, by omega, by omega, by omega⟩

/-- A positive number has a canonical form, which gives its bits. -/
theorem decode_positive (h : decode x = .finite false m e) (hm : 0 < m) :
    Canonical m e ∧ x.toBits.toNat = bitsOf m e := by
  refine ⟨canonical_of_decode h hm, ?_⟩
  have hword : x.toBits.toNat < 2 ^ 64 := x.toBits.toNat_lt
  unfold decode at h
  simp only [powerOfTwo, field_powers] at h
  unfold bitsOf
  split at h
  · split at h <;> cases h
  · split at h
    · next hscale =>
        obtain ⟨hsign, rfl, rfl⟩ := Decoded.finite.inj h
        have hpositive := of_decide_eq_false hsign
        have hfraction : x.toBits.toNat = x.toBits.toNat % 2 ^ 52 := by omega
        rw [if_pos (Nat.mod_lt _ (by norm_num))]
        exact hfraction
    · next hones hscale =>
        obtain ⟨hsign, rfl, rfl⟩ := Decoded.finite.inj h
        have hpositive := of_decide_eq_false hsign
        rw [if_neg (by omega)]
        omega

/-- A positive number is stored again with the bits that it has. -/
theorem eq_of_pack (h : decode x = .finite false m e) (hc : Canonical m e) :
    Float.ofModel (Float.Model.pack (.finite .positive m e hc.pos)) = x := by
  refine eq_of_to_bits (UInt64.toNat_inj.mp ?_)
  rw [(decode_positive h hc.pos).2]
  exact hc.to_nat_pack

end Fields

end CallProfile.Number.Binary64

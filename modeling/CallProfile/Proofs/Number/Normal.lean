import CallProfile.Proofs.Number.Unpacked

/-!
# Normal binary64 numbers

The exponents of positive numbers through an operation. `Normal` bounds the exponent of the last bit
of a normal positive number on both sides, and `Large` from below, where overflow is allowed.
Rounding moves the bounds by one and storing keeps them; a sum is no smaller than its summands
(`Large.add`), and a quotient loses 53 and the exponent of the denominator (`Large.div`). What is
large is above zero (`Large.not_le_zero`).
-/

namespace CallProfile.Number.Binary64

open Float.Model (Format UnpackedFloat totalExponent)
open Float.Model.UnpackedFloat

/-! ## Bits of mantissas -/

/-- A number with a leading bit is not zero. -/
theorem pos_of_log2 {m : Nat} (h : m.log2 = 52) : 0 < m := by
  rcases Nat.eq_zero_or_pos m with rfl | hpos
  · exact absurd h (by decide)
  · exact hpos

/-- Shifting to the left adds to the position of the leading bit. -/
theorem log2_shift_left {m : Nat} (h : 0 < m) (k : Nat) : (m <<< k).log2 = m.log2 + k := by
  induction k with
  | zero => simp
  | succ k ih =>
      have hne : m <<< k ≠ 0 := Nat.ne_of_gt (Nat.shiftLeft_pos_iff.mpr h)
      rw [Nat.shiftLeft_succ, Nat.log2_two_mul hne, ih, Nat.add_assoc]

/-- Shifting to the right takes away from the position of the leading bit. -/
theorem log2_shift_right {m k : Nat} (h : k ≤ m.log2) : (m >>> k).log2 = m.log2 - k := by
  induction k with
  | zero => simp
  | succ k ih =>
      have hbefore := ih (Nat.le_of_succ_le h)
      have htwo : 2 ≤ m >>> k := by
        by_contra hsmall
        rw [Nat.log2_def, if_neg hsmall] at hbefore
        omega
      rw [Nat.log2_def, if_pos htwo] at hbefore
      rw [Nat.shiftRight_succ]
      omega

/-- A shift of an extended mantissa shifts the mantissa. -/
theorem mantissa_shift_right (em : ExtendedMantissa) (k : Nat) :
    (em >>> k).mantissa = em.mantissa >>> k := by
  induction k with
  | zero => rfl
  | succ k ih =>
      show (em >>> k).mantissa / 2 = _
      rw [ih, Nat.shiftRight_succ]

/-- The residual bits leave the mantissa alone. -/
theorem mantissa_of_accuracy (m : Nat) (accuracy : Accuracy) :
    (ExtendedMantissa.ofMantissaAndAccuracy m accuracy).mantissa = m := by
  unfold ExtendedMantissa.ofMantissaAndAccuracy
  split <;> rfl

/-- Rounding keeps a mantissa or takes the next one. -/
theorem rounded_mantissa_cases (em : ExtendedMantissa) :
    em.roundedMantissa = em.mantissa ∨ em.roundedMantissa = em.mantissa + 1 := by
  unfold ExtendedMantissa.roundedMantissa Accuracy.roundToNearestEven
  split
  · exact Or.inl rfl
  · exact Or.inl rfl
  · omega
  · exact Or.inr rfl

/-- The next number has the same leading bit or the one above. -/
theorem log2_succ_cases {m : Nat} (h : 0 < m) :
    (m + 1).log2 = m.log2 ∨ (m + 1).log2 = m.log2 + 1 := by
  have hlow := Nat.log2_self_le (Nat.ne_of_gt h)
  have hhigh := Nat.lt_log2_self (n := m)
  have hnext : 2 ^ (m.log2 + 1 + 1) = 2 ^ (m.log2 + 1) * 2 := pow_succ _ _
  have hpos : 0 < 2 ^ (m.log2 + 1) := Nat.two_pow_pos _
  by_cases hsmall : m + 1 < 2 ^ (m.log2 + 1)
  · exact Or.inl ((Nat.log2_eq_iff (Nat.succ_ne_zero m)).mpr ⟨by omega, hsmall⟩)
  · exact Or.inr ((Nat.log2_eq_iff (Nat.succ_ne_zero m)).mpr ⟨by omega, by omega⟩)

/-! ## Rounding -/

/-- Normal positive numbers whose last bit has an exponent in a range. -/
inductive Normal (low high : Int) : UnpackedFloat → Prop
  | finite {m : Nat} {e : Int} {hpos : 0 < m} (hm : m.log2 = 52) (hlow : low ≤ e)
      (hhigh : e ≤ high) : Normal low high (.finite .positive m e hpos)

/-- Where the bits of a normal number end: 52 below the leading bit. -/
theorem target_exponent_eq {m : Nat} {e : Int} (h : -1074 ≤ e + m.log2 - 52) :
    Format.binary64.targetExponent (totalExponent m e) = e + m.log2 - 52 := by
  rw [target_exponent, totalExponent]
  omega

/-- A mantissa with bits to spare is shifted to its 53 leading bits. -/
theorem shift_to_target_eq {m : Nat} {e : Int} (accuracy : Accuracy) (hm : 52 ≤ m.log2)
    (he : -1074 ≤ e + m.log2 - 52) :
    shiftToTargetExponent Format.binary64 m e accuracy =
      (ExtendedMantissa.ofMantissaAndAccuracy m accuracy >>> (m.log2 - 52),
        e + (m.log2 - 52 : Nat)) := by
  have hshift : (e + m.log2 - 52 - e).toNat = m.log2 - 52 := by omega
  simp only [shiftToTargetExponent, shiftToExponent, target_exponent_eq he, hshift]

/-- Rounding a mantissa with bits to spare moves the last bit to 52 below the leading one, or to 51
if it carries. -/
theorem normal_round_with_accuracy {m : Nat} {e low : Int} (accuracy : Accuracy)
    (hm : 52 ≤ m.log2) (hlow : -1074 ≤ low) (he : e + m.log2 - 52 = low) :
    Normal low (low + 1) (roundWithAccuracy Format.binary64 .positive m e accuracy) := by
  have hfirst := shift_to_target_eq (e := e) accuracy hm (by omega)
  generalize hem : ExtendedMantissa.ofMantissaAndAccuracy m accuracy >>> (m.log2 - 52) = em
    at hfirst
  have hmantissa : em.mantissa.log2 = 52 := by
    rw [← hem, mantissa_shift_right, mantissa_of_accuracy, log2_shift_right (by omega)]
    omega
  have hrounded : 52 ≤ em.roundedMantissa.log2 ∧ em.roundedMantissa.log2 ≤ 53 := by
    have hpos := pos_of_log2 hmantissa
    rcases rounded_mantissa_cases em with hsame | hnext
    · rw [hsame]
      omega
    · have hlog := log2_succ_cases hpos
      rw [hnext]
      omega
  have hsecond := shift_to_target_eq (m := em.roundedMantissa) (e := e + (m.log2 - 52 : Nat))
    .exact hrounded.1 (by omega)
  have hmantissa : (ExtendedMantissa.ofMantissaAndAccuracy em.roundedMantissa .exact >>>
      (em.roundedMantissa.log2 - 52)).mantissa.log2 = 52 := by
    rw [mantissa_shift_right, mantissa_of_accuracy, log2_shift_right (by omega)]
    omega
  rw [round_with_accuracy_units hfirst, of_units_finite hsecond (pos_of_log2 hmantissa)]
  exact .finite hmantissa (by omega) (by omega)

/-- Rounding any mantissa moves the last bit to 52 below the leading one, or to 51. -/
theorem normal_round {m : Nat} {e low : Int} (hm : 0 < m) (hlow : -1074 ≤ low)
    (he : e + m.log2 - 52 = low) :
    Normal low (low + 1) (UnpackedFloat.round Format.binary64 .positive m e) := by
  have htarget := target_exponent_eq (m := m) (e := e) (by omega)
  have hshift := log2_shift_left hm (e - low).toNat
  rw [round_finite (htarget.trans he) rfl]
  exact normal_round_with_accuracy .exact (by omega) hlow (by omega)

/-! ## Storing -/

/-- Normal positive numbers and positive infinity, where the last bit has at least an exponent. -/
inductive Large (low : Int) : UnpackedFloat → Prop
  | normal {high : Int} {u : UnpackedFloat} (h : Normal low high u) : Large low u
  | infinity : Large low (.infinity .positive)

/-- Bounds may be widened. -/
theorem Normal.mono {low high low' high' : Int} {u : UnpackedFloat} (h : Normal low high u)
    (hlow : low' ≤ low) (hhigh : high ≤ high') : Normal low' high' u := by
  cases h with
  | finite hm hle hge => exact .finite hm (by omega) (by omega)

/-- A bound may be lowered. -/
theorem Large.mono {low low' : Int} {u : UnpackedFloat} (h : Large low u) (hlow : low' ≤ low) :
    Large low' u := by
  cases h with
  | normal h => exact .normal (h.mono hlow (Int.le_refl _))
  | infinity => exact .infinity

/-- A normal number in range is stored as it is. -/
theorem unpack_pack_finite {sign : Sign} {m : Nat} {e : Int} (hpos : 0 < m) (hm : m.log2 = 52)
    (hlow : -1074 ≤ e) (hhigh : e ≤ 971) :
    (Float.Model.pack (.finite sign m e hpos)).unpack = .finite sign m e hpos := by
  obtain ⟨biased, hbiased⟩ : ∃ biased : Nat, (e + 1075).toNat = biased := ⟨_, rfl⟩
  obtain ⟨hleading, htop⟩ := (Nat.log2_eq_iff (Nat.ne_of_gt hpos)).mp hm
  have hvalue : (BitVec.ofNat 11 biased).toNat = biased := by
    rw [BitVec.toNat_ofNat, Nat.mod_eq_of_lt (by omega)]
  have hhidden : 2 ^ 52 + (BitVec.ofNat 52 m).toNat = m := by
    rw [BitVec.toNat_ofNat]
    omega
  have hexponent : (biased : Int) - 1075 = e := by omega
  show UnpackedFloat.unpack Format.binary64 (UnpackedFloat.pack Format.binary64 _) = _
  rw [pack_finite, hbiased, if_neg (by omega), if_pos hm,
    unpack_hidden (congrArg BitVec.toNat unpackExponent_packComponents) _ _
      ((congrArg (2 ^ 52 + BitVec.toNat ·) unpackMantissa_packComponents).trans hhidden) hpos]
  · exact finite_congr (sign_of_components sign _ _) rfl (by rw [hvalue, hexponent])
  · omega
  · omega

/-- A number beyond the range is stored as infinity. -/
theorem unpack_pack_overflow {m : Nat} {e : Int} (hpos : 0 < m) (h : 971 < e) :
    (Float.Model.pack (.finite .positive m e hpos)).unpack = .infinity .positive := by
  show UnpackedFloat.unpack Format.binary64 (UnpackedFloat.pack Format.binary64 _) = _
  rw [pack_finite, if_pos (by omega)]
  rfl

/-- A normal number in range stays normal when it is stored. -/
theorem Normal.stored {low high : Int} {u : UnpackedFloat} (h : Normal low high u)
    (hlow : -1074 ≤ low) (hhigh : high ≤ 971) :
    Normal low high (Float.Model.pack u).unpack := by
  cases h with
  | finite hm hle hge =>
      rw [unpack_pack_finite _ hm (by omega) (by omega)]
      exact .finite hm hle hge

/-- A large number stays large when it is stored. -/
theorem Large.stored {low : Int} {u : UnpackedFloat} (h : Large low u) (hlow : -1074 ≤ low) :
    Large low (Float.Model.pack u).unpack := by
  cases h with
  | infinity => exact .infinity
  | normal h =>
      cases h with
      | @finite m e hpos hm hle hge =>
          by_cases hrange : e ≤ 971
          · rw [unpack_pack_finite hpos hm (by omega) hrange]
            exact .normal (.finite hm hle hge)
          · rw [unpack_pack_overflow hpos (by omega)]
            exact .infinity

/-! ## Operations -/

/-- More is no shorter. -/
theorem log2_le_log2 {m n : Nat} (hm : 0 < m) (h : m ≤ n) : m.log2 ≤ n.log2 := by
  have hne : n ≠ 0 := by omega
  exact (Nat.le_log2 hne).mpr ((Nat.log2_self_le (Nat.ne_of_gt hm)).trans h)

/-- The sum of two normal numbers is no smaller than the first. -/
theorem large_add_finite {m n : Nat} {e f low : Int} {hm : 0 < m} {hn : 0 < n}
    (hlog : m.log2 = 52) (hlow : -1074 ≤ low) (hle : low ≤ e) :
    Large low (UnpackedFloat.add Format.binary64 (.finite .positive m e hm)
      (.finite .positive n f hn)) := by
  have hbits : 52 + (e - min e f).toNat ≤
      (m <<< (e - min e f).toNat + n <<< (f - min e f).toNat).log2 := by
    rw [← hlog, ← log2_shift_left hm]
    exact log2_le_log2 (Nat.shiftLeft_pos_iff.mpr hm) (Nat.le_add_right _ _)
  have hpos : 0 < m <<< (e - min e f).toNat + n <<< (f - min e f).toNat :=
    Nat.add_pos_left (Nat.shiftLeft_pos_iff.mpr hm) _
  have hround := normal_round (e := min e f) hpos (by omega) rfl
  rw [add_finite]
  exact (Large.normal hround).mono (by omega)

/-- The sum of two large numbers is no smaller. -/
theorem Large.add {low : Int} {u v : UnpackedFloat} (hu : Large low u) (hv : Large low v)
    (hlow : -1074 ≤ low) : Large low (UnpackedFloat.add Format.binary64 u v) := by
  cases hu with
  | infinity =>
      cases hv with
      | infinity => exact .infinity
      | normal hv =>
          cases hv
          exact .infinity
  | normal hu =>
      cases hu with
      | finite hm hle _ =>
          cases hv with
          | infinity => exact .infinity
          | normal hv =>
              cases hv
              exact large_add_finite hm hlow hle

/-- Zero changes nothing that is added to it. -/
theorem Large.add_zero {low : Int} {u : UnpackedFloat} (hu : Large low u) :
    UnpackedFloat.add Format.binary64 u (.zero .positive) = u := by
  cases hu with
  | infinity => rfl
  | normal hu =>
      cases hu
      rfl

/-- Zero changes nothing that it is added to. -/
theorem Large.zero_add {low : Int} {u : UnpackedFloat} (hu : Large low u) :
    UnpackedFloat.add Format.binary64 (.zero .positive) u = u := by
  cases hu with
  | infinity => rfl
  | normal hu =>
      cases hu
      rfl

/-- The quotient of two normal numbers has a last bit 53 below the difference of theirs, or 52. -/
theorem normal_div_finite {m n : Nat} {e f : Int} (hm : 0 < m) (hn : 0 < n)
    (hlog : m.log2 = 52) (hlog' : n.log2 = 52) (hlow : -1074 ≤ e - f - 53) :
    ∃ low, e - f - 53 ≤ low ∧ Normal low (low + 1)
      (UnpackedFloat.div Format.binary64 (.finite .positive m e hm)
        (.finite .positive n f hn)) := by
  have htarget : min (e - f)
      (Format.binary64.targetExponent (totalExponent m e - totalExponent n f)) = e - f - 53 := by
    rw [target_exponent, totalExponent, totalExponent]
    omega
  have hshift : (e - f - (e - f - 53)).toNat = 53 := by omega
  -- A numerator of 106 bits over a denominator of 53 leaves at least 53 bits.
  have hquotient : 52 ≤ (m <<< 53 / n).log2 := by
    have hlow := (Nat.log2_eq_iff (Nat.ne_of_gt hm)).mp hlog
    have hhigh := (Nat.log2_eq_iff (Nat.ne_of_gt hn)).mp hlog'
    have hle : 2 ^ 52 ≤ m <<< 53 / n := by
      rw [Nat.le_div_iff_mul_le hn, Nat.shiftLeft_eq]
      omega
    exact (Nat.le_log2 (by omega)).mpr hle
  have hround := normal_round_with_accuracy (e := e - f - 53)
    (accuracyOfFraction (m <<< 53 % n) n) hquotient (by omega) rfl
  exact ⟨e - f - 53 + (m <<< 53 / n).log2 - 52, by omega,
    (div_finite hm hn htarget hshift).symm ▸ hround⟩

/-- A large number over a normal one is large. -/
theorem Large.div {low low' high bound : Int} {u v : UnpackedFloat} (hu : Large low u)
    (hv : Normal low' high v) (hbound : bound ≤ low - high - 53) (hrange : -1074 ≤ bound) :
    Large bound (UnpackedFloat.div Format.binary64 u v) := by
  cases hv with
  | @finite n f hn hlog' _ hhigh =>
      cases hu with
      | infinity => exact .infinity
      | normal hu =>
          cases hu with
          | @finite m e hm hlog hlow _ =>
              have hexponent : bound ≤ e - f - 53 := by omega
              obtain ⟨least, hleast, hnormal⟩ := normal_div_finite hm hn hlog hlog'
                (hrange.trans hexponent)
              exact (Large.normal hnormal).mono (hexponent.trans hleast)

/-- Zero over a normal number is zero. -/
theorem Normal.zero_div {low high : Int} {v : UnpackedFloat} (hv : Normal low high v) :
    UnpackedFloat.div Format.binary64 (.zero .positive) v = .zero .positive := by
  cases hv
  rfl

/-- A large number is above zero. -/
theorem Large.not_le_zero {low : Int} {u : UnpackedFloat} (hu : Large low u) (sign : Sign) :
    u.le (.zero sign) = false := by
  cases hu with
  | infinity => rfl
  | normal hu =>
      cases hu
      rfl

end CallProfile.Number.Binary64

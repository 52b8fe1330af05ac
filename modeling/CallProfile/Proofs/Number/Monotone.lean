import CallProfile.Proofs.Number.Fields

/-!
# Rounding keeps order

What a number is rounded to is fixed by the exponent at which it is cut and the nearest natural
number there (`RoundsAt`). Both grow with the number, so rounding keeps order (`RoundsAt.mono`), and
it leaves a number alone that is stored as it is (`Canonical.rounds_at`). So the result of an
operation is on the same side of every stored number as the exact result, or beyond the range
(`RoundedTo`), for sums, differences, products and quotients of numbers that are not negative.
-/

namespace CallProfile.Number.Binary64

open Float.Model (Format UnpackedFloat totalExponent)
open Float.Model.UnpackedFloat

/-! ## The place of rounding -/

/-- A number is rounded to `n` units of `2 ^ e`: it is cut there, and `n` is nearest. -/
structure RoundsAt (x : Rat) (n : Nat) (e : Int) : Prop extends Place x e where
  nearest : Nearest n (x / 2 ^ e)

section Rounding

variable {x y : Rat} {n k m : Nat} {e f t : Int}

/-- A number below 53 bits is rounded to 53 bits at most. -/
theorem RoundsAt.le_most (h : RoundsAt x n e) : n ≤ 2 ^ 53 := by
  have hpos : (0 : Rat) < 2 ^ e := by positivity
  have hhigh : x / 2 ^ e ≤ (2 ^ 53 : Nat) := by
    rw [div_le_iff₀ hpos, ← units_power]
    exact h.high.le
  exact h.nearest.mono (nearest_self _) hhigh

/-- A number with its leading bit in place is rounded to 53 bits. -/
theorem RoundsAt.least_le (h : RoundsAt x n e) : 2 ^ 52 ≤ n ∨ e = -1074 := by
  have hpos : (0 : Rat) < 2 ^ e := by positivity
  refine h.leading.imp_left fun hleading => ?_
  have hlow : ((2 ^ 52 : Nat) : Rat) ≤ x / 2 ^ e := by
    rw [le_div_iff₀ hpos, ← units_power]
    exact hleading
  exact (nearest_self _).mono h.nearest hlow

/-- Units of a lesser exponent come to no more, if those of the greater one fill their bits. -/
theorem units_le_units (hn : n ≤ 2 ^ 53) (hk : 2 ^ 52 ≤ k) (hlt : e < f) :
    (n : Rat) * 2 ^ e ≤ k * 2 ^ f := by
  have hmost : (n : Rat) ≤ (2 ^ 53 : Nat) := Nat.cast_le.mpr hn
  have hleast : ((2 ^ 52 : Nat) : Rat) ≤ k := Nat.cast_le.mpr hk
  calc
    (n : Rat) * 2 ^ e ≤ (2 ^ 53 : Nat) * 2 ^ e := by gcongr
    _ = 2 ^ ((53 : Nat) + e) := (units_power _ _).symm
    _ ≤ 2 ^ ((52 : Nat) + f) := zpow_le_zpow_right₀ one_le_two (by omega)
    _ = (2 ^ 52 : Nat) * 2 ^ f := units_power _ _
    _ ≤ k * 2 ^ f := by gcongr

/-- Rounding keeps order. -/
theorem RoundsAt.mono (hx : RoundsAt x n e) (hy : RoundsAt y k f) (hle : x ≤ y) :
    (n : Rat) * 2 ^ e ≤ k * 2 ^ f := by
  rcases (hx.toPlace.mono hy.toPlace hle).lt_or_eq with hlt | rfl
  · -- the lesser number is below the leading bit of the greater one
    have hleast : 2 ^ 52 ≤ k := hy.least_le.resolve_right fun heq => by
      have hlow := hx.low
      omega
    exact units_le_units hx.le_most hleast hlt
  · have hpos : (0 : Rat) < 2 ^ e := by positivity
    have hmono : n ≤ k := hx.nearest.mono hy.nearest (by gcongr)
    have hcast : (n : Rat) ≤ k := Nat.cast_le.mpr hmono
    gcongr

/-- A number that is stored as it is is rounded to itself. -/
theorem Canonical.rounds_at (h : Canonical m e) : RoundsAt (m * 2 ^ e) m e := by
  have hpos : (0 : Rat) < 2 ^ e := by positivity
  refine ⟨⟨h.low, ?_, ?_⟩, ?_⟩
  · have hsmall : (m : Rat) < (2 ^ 53 : Nat) := Nat.cast_lt.mpr h.small
    rw [show (53 : Int) + e = (53 : Nat) + e from rfl, units_power]
    gcongr
  · by_cases hnormal : m < 2 ^ 52
    · exact Or.inr (h.normal hnormal)
    · have hleast : ((2 ^ 52 : Nat) : Rat) ≤ m := Nat.cast_le.mpr (not_lt.mp hnormal)
      refine Or.inl ?_
      rw [show (52 : Int) + e = (52 : Nat) + e from rfl, units_power]
      gcongr
  · rw [mul_div_cancel_right₀ _ hpos.ne']
    exact nearest_self m

/-- A mantissa with enough bits is rounded to the nearest number of units. -/
theorem exists_units {q : Nat} {accuracy : Accuracy}
    (hcut : CutFrom (ExtendedMantissa.ofMantissaAndAccuracy q accuracy) (x / 2 ^ t))
    (henough : 52 ≤ q.log2 ∨ t ≤ -1074) :
    ∃ n e, RoundsAt x n e ∧
      roundWithAccuracy Format.binary64 .positive q t accuracy = ofUnits n e := by
  obtain ⟨e, htarget⟩ : ∃ e, max ((q.log2 : Int) + t - 52) (-1074) = e := ⟨_, rfl⟩
  obtain ⟨hle, hplace⟩ := place_of_cut hcut henough htarget
  have hnearest := (hcut.shift_to hle).nearest
  exact ⟨_, e, ⟨hplace, hnearest⟩, round_at hcut htarget hle hnearest⟩

/-- A number of units is zero, or a mantissa of 53 bits at most. -/
theorem RoundsAt.units (h : RoundsAt x n e) :
    n = 0 ∧ ofUnits n e = .zero .positive ∨
      ∃ (m : Nat) (f : Int) (hm : 0 < m), ofUnits n e = .finite .positive m f hm ∧ m < 2 ^ 53 ∧
        -1074 ≤ f ∧ (m < 2 ^ 52 → f = -1074) ∧ (m : Rat) * 2 ^ f = n * 2 ^ e := by
  have hlow := h.low
  have hleast := h.least_le
  have hself (hsmall : n < 2 ^ 53) : shiftToTargetExponent Format.binary64 n e .exact =
      (⟨n, false, false⟩, e) :=
    shift_to_target_self
      (target_self hsmall hlow fun hless => hleast.resolve_left (not_le.mpr hless))
  rcases Nat.lt_or_ge n (2 ^ 53) with hsmall | hbig
  · rcases Nat.eq_zero_or_pos n with hzero | hpos
    · refine Or.inl ⟨hzero, ?_⟩
      have hmantissa := congrArg (fun shifted => shifted.1.mantissa) (hself hsmall)
      exact dif_pos (hmantissa.trans hzero)
    · exact Or.inr ⟨n, e, hpos, of_units_finite (hself hsmall) hpos, hsmall, hlow,
        fun hless => hleast.resolve_left (not_le.mpr hless), rfl⟩
  · obtain rfl : n = 2 ^ 53 := Nat.le_antisymm h.le_most hbig
    have hcarry := shift_to_target_carry (e := e + 1) (by omega)
    rw [Int.add_sub_cancel] at hcarry
    refine Or.inr ⟨2 ^ 52, e + 1, by norm_num, of_units_finite hcarry (by norm_num),
      by norm_num, by omega, by norm_num, ?_⟩
    rw [zpow_add_one₀ two_ne_zero]
    push_cast
    ring

end Rounding

/-! ## Numbers as they are stored -/

/-- A number after it was packed into bits. -/
abbrev stored (u : UnpackedFloat) : UnpackedFloat :=
  (Float.Model.pack u).unpack

/-- A stored number that is not negative stands for its value. -/
inductive Stands : UnpackedFloat → Rat → Prop
  | zero (sign : Sign) : Stands (.zero sign) 0
  | finite {m : Nat} {e : Int} (h : Canonical m e) :
      Stands (.finite .positive m e h.pos) (m * 2 ^ e)

/-- An exact result is stored as the number that it is rounded to, or as infinity beyond the
range. -/
def RoundedTo (x : Rat) (u : UnpackedFloat) : Prop :=
  ∃ (n : Nat) (e : Int), RoundsAt x n e ∧
    (Stands u (n * 2 ^ e) ∨ u = .infinity .positive ∧ (2 : Rat) ^ 1024 ≤ n * 2 ^ e)

section Storing

variable {x y a b : Rat} {u v w : UnpackedFloat} {m n : Nat} {e t : Int}

/-- A number with a canonical form is stored as it is, with either sign. -/
theorem Canonical.stored_signed (h : Canonical m e) (sign : Sign) :
    stored (.finite sign m e h.pos) = .finite sign m e h.pos := by
  by_cases hnormal : m < 2 ^ 52
  · have he := h.normal hnormal
    have hlog : m.log2 < 52 := (Nat.log2_lt (Nat.ne_of_gt h.pos)).mpr hnormal
    have hmantissa : (BitVec.ofNat 52 m).toNat = m := by
      rw [BitVec.toNat_ofNat, Nat.mod_eq_of_lt hnormal]
    show UnpackedFloat.unpack Format.binary64 (UnpackedFloat.pack Format.binary64 _) = _
    rw [pack_finite, if_neg (by omega), if_neg hlog.ne,
      unpack_subnormal (congrArg BitVec.toNat unpackExponent_packComponents)
        ((congrArg BitVec.toNat unpackMantissa_packComponents).trans hmantissa) h.pos]
    exact finite_congr (sign_of_components sign _ _) rfl he.symm
  · have hlog : m.log2 = 52 :=
      (Nat.log2_eq_iff (Nat.ne_of_gt h.pos)).mpr ⟨not_lt.mp hnormal, h.small⟩
    exact unpack_pack_finite h.pos hlog h.low h.high

/-- A positive number with a canonical form is stored as it is. -/
theorem Canonical.stored_eq (h : Canonical m e) :
    stored (.finite .positive m e h.pos) = .finite .positive m e h.pos :=
  h.stored_signed .positive

/-- A stored number is stored as it is. -/
theorem Stands.stored_eq (h : Stands u a) : stored u = u := by
  cases h with
  | zero sign => cases sign <;> rfl
  | finite h => exact h.stored_eq

/-- A stored number is rounded to itself. -/
theorem Stands.rounded (h : Stands u a) : RoundedTo a u := by
  cases h with
  | zero sign =>
      have hzero : (0 : Rat) = (0 : Nat) * 2 ^ (-1074 : Int) := by norm_num
      refine ⟨0, -1074, ⟨⟨le_refl _, by positivity, Or.inr rfl⟩, ?_⟩, Or.inl ?_⟩
      · rw [zero_div]
        exact nearest_self 0
      · rw [← hzero]
        exact .zero sign
  | finite h => exact ⟨_, _, h.rounds_at, Or.inl (.finite h)⟩

/-- A stored number is not negative. -/
theorem Stands.nonneg (h : Stands u a) : 0 ≤ a := by
  cases h with
  | zero => exact le_refl 0
  | finite h => positivity

/-- A stored number is in the range. -/
theorem Stands.lt_most (h : Stands u a) : a < 2 ^ 1024 := by
  cases h with
  | zero => positivity
  | finite h => exact (within_self _ _).lt_bound h

/-- A number stands for one value. -/
theorem Stands.unique (h : Stands u a) (h' : Stands u b) : a = b := by
  cases h with
  | zero sign => cases h'; rfl
  | finite h => cases h'; rfl

/-- A mantissa with enough bits is rounded and stored. -/
theorem rounded_of_cut {q : Nat} {accuracy : Accuracy}
    (hcut : CutFrom (ExtendedMantissa.ofMantissaAndAccuracy q accuracy) (x / 2 ^ t))
    (henough : 52 ≤ q.log2 ∨ t ≤ -1074) :
    RoundedTo x (stored (roundWithAccuracy Format.binary64 .positive q t accuracy)) := by
  obtain ⟨n, e, hrounds, hround⟩ := exists_units hcut henough
  refine ⟨n, e, hrounds, ?_⟩
  rw [hround]
  rcases hrounds.units with ⟨rfl, hzero⟩ | ⟨m, f, hm, hfinite, hsmall, hlow, hnormal, hvalue⟩
  · rw [hzero, Nat.cast_zero, zero_mul]
    exact Or.inl (.zero .positive)
  · rw [hfinite, ← hvalue]
    rcases le_or_gt f 971 with hrange | hover
    · have hc : Canonical m f := ⟨hm, hsmall, hlow, hrange, hnormal⟩
      rw [hc.stored_eq]
      exact Or.inl (.finite hc)
    · have hleast : ((2 ^ 52 : Nat) : Rat) ≤ m := by
        refine Nat.cast_le.mpr (not_lt.mp fun hless => ?_)
        have hf := hnormal hless
        omega
      refine Or.inr ⟨unpack_pack_overflow hm hover, ?_⟩
      calc
        (2 : Rat) ^ 1024 = 2 ^ ((52 : Nat) + (972 : Int)) := (zpow_natCast 2 1024).symm
        _ = (2 ^ 52 : Nat) * 2 ^ (972 : Int) := units_power _ _
        _ ≤ m * 2 ^ f := by
          gcongr
          · norm_num
          · omega

/-- Rounding keeps order, within the range. -/
theorem RoundedTo.mono (hx : RoundedTo x u) (hy : RoundedTo y v) (hle : x ≤ y) (hv : Stands v b) :
    ∃ a, Stands u a ∧ a ≤ b := by
  obtain ⟨n, e, hrounds, hu⟩ := hx
  obtain ⟨k, f, hrounds', hstands⟩ := hy
  have hmono := hrounds.mono hrounds' hle
  have hvalue : (k : Rat) * 2 ^ f = b := by
    rcases hstands with hstands | ⟨rfl, -⟩
    · exact hstands.unique hv
    · cases hv
  rw [hvalue] at hmono
  rcases hu with hu | ⟨-, hover⟩
  · exact ⟨_, hu, hmono⟩
  · exact absurd (hover.trans hmono) (not_le.mpr hv.lt_most)

/-- A result is at most a stored number that the exact result is at most. -/
theorem RoundedTo.at_most (hx : RoundedTo x u) (hv : Stands v b) (hle : x ≤ b) :
    ∃ a, Stands u a ∧ a ≤ b :=
  hx.mono hv.rounded hle hv

/-- A result is at least a stored number that the exact result is at least. -/
theorem RoundedTo.at_least (hx : RoundedTo x u) (hv : Stands v b) (hle : b ≤ x)
    (hu : Stands u a) : b ≤ a := by
  obtain ⟨value, hvalue, hmono⟩ := hv.rounded.mono hx hle hu
  rwa [hv.unique hvalue]

/-- A result in the range or beyond it. -/
theorem RoundedTo.cases (hx : RoundedTo x u) : (∃ a, Stands u a) ∨ u = .infinity .positive := by
  obtain ⟨n, e, -, hu⟩ := hx
  exact hu.imp (fun hu => ⟨_, hu⟩) And.left

end Storing

end CallProfile.Number.Binary64

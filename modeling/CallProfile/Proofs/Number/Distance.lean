import CallProfile.Proofs.Number.Arithmetic
import CallProfile.Proofs.Number.Reading

/-!
# Distances to whole numbers

Numbers that are no more than a factor of two apart have a distance that is stored exactly, in
either direction (`Holds.distance`). So the distance of a finite number to the nearest whole number
is exact, as long as that is one of the numbers up to 2 ^ 53 that are stored exactly themselves
(`holds_of_nat`).
-/

namespace CallProfile.Number.Binary64

open Float.Model (Format UnpackedFloat totalExponent)
open Float.Model.UnpackedFloat

/-! ## Exact results -/

section Exact

variable {x y : Float} {u : UnpackedFloat} {a b : Rat} {m n k : Nat} {e f s : Int}

/-- A number of units that fits the bits of a mantissa is rounded to itself. -/
theorem RoundsAt.exact (h : RoundsAt (k * 2 ^ s) n e) (hk : k < 2 ^ 53) (hs : -1074 ≤ s) :
    (n : Rat) * 2 ^ e = k * 2 ^ s := by
  have hpos : (0 : Rat) < 2 ^ e := by positivity
  have hle : e ≤ s := by
    rcases h.leading with hleading | hleast
    · have hsmall : (k * 2 ^ s : Rat) < 2 ^ (53 + s) := by
        have hcast : (k : Rat) < (2 ^ 53 : Nat) := Nat.cast_lt.mpr hk
        rw [show (53 : Int) + s = (53 : Nat) + s from rfl, units_power]
        gcongr
      have hexponents := (zpow_lt_zpow_iff_right₀ one_lt_two).mp (hleading.trans_lt hsmall)
      omega
    · omega
  have hunits : (k * 2 ^ s : Rat) / 2 ^ e = (k <<< (s - e).toNat : Nat) := by
    rw [← aligned_value k hle, mul_div_cancel_right₀ _ hpos.ne']
  have hnearest := h.nearest
  rw [hunits] at hnearest
  rw [hnearest.unique (nearest_self _), aligned_value k hle]

/-- A number of units that fits the bits of a mantissa has a canonical form, within the range. -/
theorem exists_canonical (hpos : 0 < k) (hk : k < 2 ^ 53) (hs : -1074 ≤ s)
    (hrange : (k * 2 ^ s : Rat) < 2 ^ 1024) :
    ∃ m e, Canonical m e ∧ (m * 2 ^ e : Rat) = k * 2 ^ s := by
  obtain ⟨n, e, hrounds, hstands⟩ := rounded_of_exact hpos s
  rw [hrounds.exact hk hs] at hstands
  generalize stored (UnpackedFloat.round Format.binary64 .positive k s) = u at hstands
  rcases hstands with hstands | ⟨-, hover⟩
  · generalize hvalue : (k * 2 ^ s : Rat) = c at hstands
    cases hstands with
    | zero sign => exact absurd hvalue (by positivity)
    | finite h => exact ⟨_, _, h, rfl⟩
  · exact absurd hrange (not_lt.mpr hover)

/-- A result that is stored exactly is the exact one. -/
theorem RoundedTo.stands {v : UnpackedFloat} (h : RoundedTo a u) (hv : Stands v a) :
    Stands u a := by
  obtain ⟨b, hu, hle⟩ := h.at_most hv (le_refl a)
  have hge := h.at_least hv (le_refl a) hu
  rwa [hle.antisymm hge] at hu

/-- An exact number with a canonical form is rounded to it, with either sign. -/
theorem round_exact (hk : 0 < k) (h : Canonical m e) (hvalue : (k * 2 ^ s : Rat) = m * 2 ^ e)
    (sign : Sign) : UnpackedFloat.round Format.binary64 sign k s = .finite sign m e h.pos := by
  obtain ⟨q, t, hround, hcut, henough⟩ := exists_round_cut hk s
  have hpositive := round_within h (hvalue ▸ within_self m e) hcut henough
  rw [hround]
  cases sign with
  | positive => exact hpositive
  | negative =>
      rw [round_with_accuracy_negative, hpositive]
      rfl

/-- A negative difference of mantissas is stored with a minus sign. -/
theorem normalize_less {left right : Nat} (hlt : left < right) (h : Canonical m e)
    (hvalue : (m * 2 ^ e : Rat) = right * 2 ^ s - left * 2 ^ s) :
    stored (UnpackedFloat.normalize Format.binary64 (left - right) s .positive) =
      .finite .negative m e h.pos := by
  have hmore := Nat.sub_pos_of_lt hlt
  have hunits : ((right - left : Nat) * 2 ^ s : Rat) = m * 2 ^ e := by
    rw [hvalue, Nat.cast_sub hlt.le, sub_mul]
  rw [← Int.neg_sub, ← Int.natCast_sub hlt.le, normalize_negative hmore,
    round_exact hmore h hunits, h.stored_signed]

/-- A positive difference of mantissas is stored without one. -/
theorem normalize_more {left right : Nat} (hlt : right < left) (h : Canonical m e)
    (hvalue : (m * 2 ^ e : Rat) = left * 2 ^ s - right * 2 ^ s) :
    stored (UnpackedFloat.normalize Format.binary64 (left - right) s .positive) =
      .finite .positive m e h.pos := by
  have hmore := Nat.sub_pos_of_lt hlt
  have hunits : ((left - right : Nat) * 2 ^ s : Rat) = m * 2 ^ e := by
    rw [hvalue, Nat.cast_sub hlt.le, sub_mul]
  rw [← Int.natCast_sub hlt.le, normalize_positive hmore, round_exact hmore h hunits,
    h.stored_eq]

/-- Of numbers that are at most a factor of two apart, the difference is stored exactly. -/
theorem exists_canonical_difference (h : Canonical m e) (h' : Canonical n f)
    (hlt : (m * 2 ^ e : Rat) < n * 2 ^ f) (hclose : (n * 2 ^ f : Rat) ≤ 2 * (m * 2 ^ e)) :
    ∃ k g, Canonical k g ∧ (k * 2 ^ g : Rat) = n * 2 ^ f - m * 2 ^ e := by
  have hpos : (0 : Rat) < 2 ^ e := by positivity
  have hle : e ≤ f := by
    rcases (h.le_iff h').mp hlt.le with hless | ⟨rfl, -⟩
    · exact hless.le
    · exact le_refl _
  have haligned := aligned_value n hle
  generalize n <<< (f - e).toNat = units at haligned
  rw [← haligned, mul_lt_mul_iff_left₀ hpos, Nat.cast_lt] at hlt
  rw [← haligned, ← mul_assoc, mul_le_mul_iff_left₀ hpos] at hclose
  have hclose : units ≤ 2 * m := by exact_mod_cast hclose
  -- the difference has no more units than the smaller number
  have hdifference : ((units - m : Nat) * 2 ^ e : Rat) = n * 2 ^ f - m * 2 ^ e := by
    rw [Nat.cast_sub hlt.le, sub_mul, haligned]
  have hsmall := h.small
  have hrange : ((units - m : Nat) * 2 ^ e : Rat) < 2 ^ 1024 := by
    have hnonneg : (0 : Rat) ≤ m * 2 ^ e := by positivity
    rw [hdifference]
    exact (sub_le_self _ hnonneg).trans_lt (Stands.finite h').lt_most
  obtain ⟨k, g, hc, hvalue⟩ := exists_canonical (by omega) (by omega) h.low hrange
  exact ⟨k, g, hc, hvalue.trans hdifference⟩

/-! ## Numbers without their sign -/

/-- The parts of a difference. -/
theorem parts_sub (x y : Float) :
    parts (x - y) = stored (UnpackedFloat.sub Format.binary64 (parts x) (parts y)) :=
  rfl

/-- A number without its sign holds its magnitude. -/
theorem holds_absolute {sign : Sign} (h : Canonical m e) (hx : parts x = .finite sign m e h.pos) :
    Holds (Scalar.absolute x) (m * 2 ^ e) := by
  have hzero : parts 0.0 = .zero .positive := rfl
  have hless : Scalar.less x 0.0 = (parts x).lt (.zero .positive) := by
    rw [← hzero]
    exact Bool.eq_iff_iff.mpr (decide_eq_true_iff.trans lt_parts)
  rw [hx] at hless
  unfold Scalar.absolute Holds
  rw [hless]
  cases sign with
  | positive =>
      show Stands (parts x) _
      rw [hx]
      exact .finite h
  | negative =>
      show Stands (stored (parts x).neg) _
      rw [hx]
      show Stands (stored (.finite .positive m e h.pos)) _
      rw [h.stored_eq]
      exact .finite h

/-- Zero without its sign is zero. -/
theorem holds_absolute_zero (h : Holds x 0) : Holds (Scalar.absolute x) 0 := by
  have hzero : Holds 0.0 0 := .zero .positive
  have hless : Scalar.less x 0.0 = false := decide_eq_false (by rw [h.lt_iff hzero]; simp)
  unfold Scalar.absolute
  rw [hless]
  exact h

/-- The distance of numbers that are at most a factor of two apart is exact. -/
theorem Holds.distance (hx : Holds x a) (hy : Holds y b) (hclose : a ≤ 2 * b)
    (hclose' : b ≤ 2 * a) : Holds (Scalar.absolute (x - y)) |a - b| := by
  rcases eq_or_ne a b with rfl | hne
  · have hzero : Holds (0.0 : Float) 0 := .zero .positive
    have hself := hx.sub hy (le_refl a)
    rw [sub_self] at hself
    rw [sub_self, abs_zero]
    exact holds_absolute_zero (hself.stands hzero)
  · have hparts := parts_sub x y
    unfold Holds at hx hy
    generalize parts x = u at hx hparts
    generalize parts y = v at hy hparts
    cases hx with
    | zero sign =>
        have hnonneg := hy.nonneg
        exact absurd (show (0 : Rat) = b by linarith) hne
    | @finite m e h =>
        cases hy with
        | zero sign =>
            have hpos := (Stands.finite h).nonneg
            exact absurd (show (m * 2 ^ e : Rat) = 0 by linarith) hne
        | @finite n f h' =>
            obtain ⟨left, right, s, hleft, hright, hsub⟩ := exists_aligned h h'
            have hunit : (0 : Rat) < 2 ^ s := by positivity
            rw [hsub] at hparts
            rcases lt_or_gt_of_ne hne with hlt | hgt
            · obtain ⟨k, g, hc, hvalue⟩ := exists_canonical_difference h h' hlt hclose'
              rw [abs_of_neg (sub_neg_of_lt hlt), neg_sub, ← hvalue]
              rw [hleft, hright] at hvalue hlt
              rw [mul_lt_mul_iff_left₀ hunit, Nat.cast_lt] at hlt
              exact holds_absolute hc (hparts.trans (normalize_less hlt hc hvalue))
            · obtain ⟨k, g, hc, hvalue⟩ := exists_canonical_difference h' h hgt hclose
              rw [abs_of_pos (sub_pos_of_lt hgt), ← hvalue]
              rw [hleft, hright] at hvalue hgt
              rw [mul_lt_mul_iff_left₀ hunit, Nat.cast_lt] at hgt
              exact holds_absolute hc (hparts.trans (normalize_more hgt hc hvalue))

end Exact

/-! ## Whole numbers -/

section Whole

variable {x : Float} {a : Rat} {negative : Bool} {m n row : Nat} {e : Int}

/-- A natural number of at most 53 bits is stored exactly. -/
theorem holds_of_nat (h : n < 2 ^ 53) : Holds (Float.ofNat n) n := by
  rcases Nat.eq_zero_or_pos n with rfl | hpos
  · exact .zero .positive
  · obtain ⟨m, e, hc, hparts, hvalue⟩ := parts_of_small hpos h
    have hword : Holds n.toUInt64.toFloat n := holds_of_parts hparts hc hvalue.symm
    have hone : parts (Float.ofBits 0x3FF0000000000000) =
        .finite .positive (2 ^ 52) (-52) (by decide) := rfl
    have hfactor : Holds (Float.ofBits 0x3FF0000000000000) 1 :=
      holds_of_parts hone (by constructor <;> norm_num) (by norm_num)
    have hproduct := hword.mul hfactor
    rw [mul_one] at hproduct
    show Holds (Float.ofScientific n false 0) n
    unfold Float.ofScientific
    rw [dif_pos ⟨h, by decide⟩]
    exact hproduct.stands hword

/-- The nearest whole number is at most a half away. -/
theorem nearest_of_decode (h : decode x = .finite negative m e) :
    ∃ whole : Nat, nearest? x = some (if negative then -(whole : Int) else whole) ∧
      (whole : Rat) ≤ m * 2 ^ e + 1 / 2 ∧ (m * 2 ^ e : Rat) < whole + 1 / 2 := by
  have hnumerator := quotient_eq m e
  have hdenominator := quotient_pos m e
  have hnearest : nearest? x = some (if negative then
      -(((2 * (quotient m e).1 + (quotient m e).2) / (2 * (quotient m e).2) : Nat) : Int)
      else ((2 * (quotient m e).1 + (quotient m e).2) / (2 * (quotient m e).2) : Nat)) := by
    unfold nearest?
    rw [h]
  generalize (quotient m e).1 = n at hnumerator hnearest
  generalize (quotient m e).2 = d at hnumerator hdenominator hnearest
  have hd : (0 : Rat) < 2 * d := by positivity
  have hposition : ((2 * n + d : Nat) : Rat) = (m * 2 ^ e + 1 / 2) * (2 * d) := by
    push_cast
    rw [hnumerator]
    ring
  have hless : (2 * n + d : Nat) < ((2 * n + d) / (2 * d) + 1) * (2 * d) :=
    (Nat.lt_mul_div_succ _ (by omega)).trans_eq (Nat.mul_comm _ _)
  have hmost : (2 * n + d) / (2 * d) * (2 * d) ≤ (2 * n + d : Nat) := Nat.div_mul_le_self _ _
  refine ⟨_, hnearest, ?_, ?_⟩
  · refine le_of_mul_le_mul_right ?_ hd
    rw [← hposition]
    exact_mod_cast hmost
  · have hless : (m * 2 ^ e + 1 / 2 : Rat) * (2 * d) <
        (((2 * n + d) / (2 * d) : Nat) + 1) * (2 * d) := by
      rw [← hposition]
      exact_mod_cast hless
    have hbelow := lt_of_mul_lt_mul_right hless hd.le
    linarith

/-- Zero is taken away without a change. -/
theorem parts_sub_zero {sign : Sign} (h : Canonical m e) (hx : parts x = .finite sign m e h.pos) :
    parts (x - Float.ofNat 0) = .finite sign m e h.pos := by
  have hzero : parts (Float.ofNat 0) = .zero .positive := rfl
  rw [parts_sub, hx, hzero]
  exact h.stored_signed sign

/-- The distance of a finite number to the nearest natural number is exact, if that is stored
exactly. -/
theorem distance_nearest (hfinite : x.isFinite = true) (hnearest : nearest? x = some (row : Int))
    (hrow : row < 2 ^ 53) :
    Holds (Scalar.absolute (x - Scalar.ofNat row)) |toRat x - row| := by
  obtain ⟨negative, m, e, h⟩ := decode_of_is_finite hfinite
  obtain ⟨whole, hwhole, hlow, hhigh⟩ := nearest_of_decode h
  have hvalue := to_rat_of_decode h
  rw [hnearest, Option.some.injEq] at hwhole
  -- at zero there is nothing to take away, and no other row is near a number with a minus sign
  have hzero : row = 0 → Holds (Scalar.absolute (x - Scalar.ofNat row)) |toRat x - row| := by
    rintro rfl
    rw [Nat.cast_zero, sub_zero, hvalue]
    rcases Nat.eq_zero_or_pos m with rfl | hm
    · rw [Nat.cast_zero, zero_mul, neg_zero, ite_self, abs_zero, ← eq_of_zero h]
      refine holds_absolute_zero ?_
      cases negative with
      | false => exact .zero .positive
      | true => exact .zero .negative
    · have hc := canonical_of_decode h hm
      have hnonneg := (Stands.finite hc).nonneg
      have hmagnitude : |if negative then -(m * 2 ^ e : Rat) else m * 2 ^ e| = m * 2 ^ e := by
        cases negative with
        | false => exact abs_of_nonneg hnonneg
        | true => exact (abs_neg _).trans (abs_of_nonneg hnonneg)
      rw [hmagnitude]
      exact holds_absolute hc (parts_sub_zero hc (parts_of_decode h hm))
  cases negative with
  | true =>
      rw [if_pos rfl] at hwhole
      exact hzero (by omega)
  | false =>
      rw [if_neg Bool.false_ne_true] at hwhole hvalue
      rcases Nat.eq_zero_or_pos row with hnone | hpos
      · exact hzero hnone
      · obtain rfl : row = whole := by exact_mod_cast hwhole
        have hone : (1 : Rat) ≤ row := by exact_mod_cast hpos
        have hm : 0 < m := by
          rcases Nat.eq_zero_or_pos m with rfl | hm
          · norm_num at hlow
            linarith
          · exact hm
        have hx : Holds x (m * 2 ^ e) :=
          holds_of_parts (parts_of_decode h hm) (canonical_of_decode h hm) rfl
        rw [hvalue]
        exact hx.distance (holds_of_nat hrow) (by linarith) (by linarith)

/-- The value that a number holds is its exact value. -/
theorem to_rat_of_holds (h : Holds x a) : toRat x = a := by
  obtain ⟨negative, m, e, hdecode⟩ := decode_of_is_finite h.finite_nonneg.1
  rw [to_rat_of_decode hdecode]
  unfold Holds at h
  rcases Nat.eq_zero_or_pos m with rfl | hm
  · have hzero : Stands (parts x) 0 := by
      rw [← eq_of_zero hdecode]
      cases negative with
      | false => exact .zero .positive
      | true => exact .zero .negative
    rw [h.unique hzero, Nat.cast_zero, zero_mul, neg_zero, ite_self]
  · have hc := canonical_of_decode hdecode hm
    have hparts := parts_of_decode hdecode hm
    cases negative with
    | false =>
        rw [hparts] at h
        exact (Stands.finite hc).unique h
    | true =>
        rw [hparts] at h
        cases h

/-- The nearest whole number is at most a half away, on either side. -/
theorem nearest_within (hfinite : x.isFinite = true) :
    ∃ k : Int, nearest? x = some k ∧ |toRat x - k| ≤ 1 / 2 := by
  obtain ⟨negative, m, e, h⟩ := decode_of_is_finite hfinite
  obtain ⟨whole, hwhole, hlow, hhigh⟩ := nearest_of_decode h
  refine ⟨_, hwhole, ?_⟩
  rw [to_rat_of_decode h, abs_le]
  cases negative with
  | false =>
      rw [if_neg Bool.false_ne_true, if_neg Bool.false_ne_true, Int.cast_natCast]
      constructor <;> linarith
  | true =>
      rw [if_pos rfl, if_pos rfl, Int.cast_neg, Int.cast_natCast]
      constructor <;> linarith

/-- A whole number is nearest to itself. -/
theorem nearest_of_whole (hfinite : x.isFinite = true) {k : Int} (hk : toRat x = k) :
    nearest? x = some k := by
  obtain ⟨l, hl, hwithin⟩ := nearest_within hfinite
  rw [hk, ← Int.cast_sub, ← Int.cast_abs] at hwithin
  have hapart : |k - l| < 1 := by
    have hless : ((|k - l| : Int) : Rat) < ((1 : Int) : Rat) := by
      push_cast at hwithin ⊢
      linarith
    exact_mod_cast hless
  rw [hl, sub_eq_zero.mp (Int.abs_lt_one_iff.mp hapart)]

/-- A number that is not whole has a last bit below one, and so is no greater than 2 ^ 52. -/
theorem nearest_lt (hfinite : x.isFinite = true) (hnearest : nearest? x = some (row : Int))
    (hwhole : ∀ k : Int, toRat x ≠ k) : row < 2 ^ 53 := by
  obtain ⟨negative, m, e, h⟩ := decode_of_is_finite hfinite
  obtain ⟨whole, hnear, hlow, -⟩ := nearest_of_decode h
  have hvalue := to_rat_of_decode h
  have hm : 0 < m := by
    rcases Nat.eq_zero_or_pos m with rfl | hm
    · refine absurd ?_ (hwhole 0)
      rw [hvalue]
      simp
    · exact hm
  have he : e < 0 := by
    by_contra hle
    obtain ⟨k, rfl⟩ := Int.eq_ofNat_of_zero_le (not_lt.mp hle)
    refine absurd ?_ (hwhole (if negative then -((m * 2 ^ k : Nat) : Int) else (m * 2 ^ k : Nat)))
    rw [hvalue]
    cases negative <;> simp
  have hsmall : (m * 2 ^ e : Rat) < 2 ^ 52 := by
    have hmantissa : (m : Rat) < (2 ^ 53 : Nat) :=
      Nat.cast_lt.mpr (canonical_of_decode h hm).small
    calc
      (m * 2 ^ e : Rat) < (2 ^ 53 : Nat) * 2 ^ e := by gcongr
      _ = 2 ^ ((53 : Nat) + e) := (units_power _ _).symm
      _ ≤ 2 ^ ((52 : Nat) : Int) := zpow_le_zpow_right₀ one_le_two (by omega)
      _ = 2 ^ 52 := zpow_natCast _ _
  have hless : whole < 2 ^ 53 := by
    have hcast : (whole : Rat) < (2 ^ 53 : Nat) := by
      push_cast
      linarith
    exact_mod_cast hcast
  rw [hnearest, Option.some.injEq] at hnear
  split at hnear <;> omega

/-- The literal of a millionth is a little less than a millionth. -/
theorem holds_millionth : ∃ c, Holds (1e-6 : Float) c ∧ 0 ≤ c ∧ c ≤ 1 / 10 ^ 6 := by
  have hparts : parts (1e-6 : Float) =
      .finite .positive 4722366482869645 (-72) (by decide) := rfl
  refine ⟨_, holds_of_parts hparts (by constructor <;> norm_num) rfl, by norm_num, by norm_num⟩

end Whole

end CallProfile.Number.Binary64

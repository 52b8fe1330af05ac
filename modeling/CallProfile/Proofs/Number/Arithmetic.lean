import CallProfile.Proofs.Number.Monotone
import Mathlib.Data.Rat.Floor

/-!
# Arithmetic of numbers that are not negative

A number that is finite and not negative holds a value (`Holds`), and such numbers compare as their
values do. A sum, a product, a quotient or a difference that is not negative is the exact result
rounded once (`IsRounded`), and so it keeps the order of exact results. In particular a number
interpolated between two others does not leave them, though its difference and its product are
rounded on the way (`Holds.interpolate`).
-/

namespace CallProfile.Number.Binary64

open Float.Model (Format UnpackedFloat totalExponent)
open Float.Model.UnpackedFloat

/-! ## Comparison -/

section Comparison

variable {m n : Nat} {e f : Int} {u v : UnpackedFloat} {a b : Rat}

/-- A number with a greater exponent is greater. -/
theorem Canonical.lt_of_exponent (h : Canonical m e) (h' : Canonical n f) (hlt : e < f) :
    (m * 2 ^ e : Rat) < n * 2 ^ f := by
  have hpos : (0 : Rat) < 2 ^ e := by positivity
  have hleast : 2 ^ 52 ≤ n := by
    by_contra hless
    have hf := h'.normal (not_le.mp hless)
    have he := h.low
    omega
  have hnext : ((m + 1 : Nat) : Rat) * 2 ^ e ≤ n * 2 ^ f := units_le_units h.small hleast hlt
  push_cast at hnext
  linarith

/-- Canonical forms are ordered by exponent and then by mantissa. -/
theorem Canonical.le_iff (h : Canonical m e) (h' : Canonical n f) :
    (m * 2 ^ e : Rat) ≤ n * 2 ^ f ↔ e < f ∨ e = f ∧ m ≤ n := by
  rcases lt_trichotomy e f with hlt | rfl | hgt
  · exact iff_of_true (h.lt_of_exponent h' hlt).le (Or.inl hlt)
  · have hpos : (0 : Rat) < 2 ^ e := by positivity
    rw [mul_le_mul_iff_left₀ hpos, Nat.cast_le]
    simp
  · exact iff_of_false (not_le.mpr (h'.lt_of_exponent h hgt)) (by omega)

/-- Stored numbers compare as their values do. -/
theorem Stands.le_iff (hu : Stands u a) (hv : Stands v b) : u.le v = true ↔ a ≤ b := by
  cases hu with
  | zero sign =>
      cases hv with
      | zero sign' => exact iff_of_true rfl (le_refl _)
      | finite h' => exact iff_of_true rfl (by positivity)
  | @finite m e h =>
      have hpos := h.pos
      cases hv with
      | zero sign' => exact iff_of_false Bool.false_ne_true (not_le.mpr (by positivity))
      | @finite n f h' =>
          rw [h.le_iff h']
          show ((compare e f).then (compare m n)).isLE = true ↔ _
          rcases lt_trichotomy e f with hlt | rfl | hgt
          · rw [compare_lt_iff_lt.mpr hlt]
            exact iff_of_true rfl (Or.inl hlt)
          · rw [compare_eq_iff_eq.mpr rfl]
            show (compare m n).isLE = true ↔ _
            rw [Nat.isLE_compare]
            simp
          · rw [compare_gt_iff_gt.mpr hgt]
            exact iff_of_false Bool.false_ne_true (by omega)

/-- Stored numbers are strictly in order as their values are. -/
theorem Stands.lt_iff (hu : Stands u a) (hv : Stands v b) : u.lt v = true ↔ a < b := by
  have hnot : u.lt v = true ↔ v.le u = false := by
    cases hu with
    | zero sign =>
        cases hv with
        | zero sign' => exact iff_of_false nofun nofun
        | finite h' => exact iff_of_true rfl rfl
    | @finite m e h =>
        cases hv with
        | zero sign' => exact iff_of_false nofun nofun
        | @finite n f h' =>
            have hswap : compare f e = (compare e f).swap := Std.OrientedCmp.eq_swap
            have hswap' : compare n m = (compare m n).swap := Std.OrientedCmp.eq_swap
            show (some ((compare e f).then (compare m n)) == some .lt) = true ↔
              ((compare f e).then (compare n m)).isLE = false
            rw [hswap, hswap']
            cases compare e f <;> cases compare m n <;> decide
  rw [hnot, ← not_le, ← hv.le_iff hu, Bool.not_eq_true]

/-- A stored number is finite. -/
theorem Stands.is_finite (h : Stands u a) : u.isFinite = true := by
  cases h <;> rfl

end Comparison

/-! ## Operations -/

section Operations

variable {m n : Nat} {e f s : Int} {u v w : UnpackedFloat} {a b c : Rat}

/-- The value of a mantissa that was aligned to a lesser exponent. -/
theorem aligned_value (m : Nat) (hle : s ≤ e) :
    ((m <<< (e - s).toNat : Nat) : Rat) * 2 ^ s = m * 2 ^ e := by
  obtain ⟨k, hk⟩ : ∃ k : Nat, (k : Int) = e - s := ⟨(e - s).toNat, by omega⟩
  have hshift : (e - s).toNat = k := by omega
  have hsum : e = k + s := by omega
  rw [hshift, hsum, zpow_add₀ two_ne_zero, zpow_natCast, Nat.shiftLeft_eq]
  push_cast
  ring

/-- An exact number is rounded from a mantissa with enough bits, with either sign. -/
theorem exists_round_cut (hm : 0 < m) (e : Int) :
    ∃ q t, (∀ sign, UnpackedFloat.round Format.binary64 sign m e =
        roundWithAccuracy Format.binary64 sign q t .exact) ∧
      CutFrom (ExtendedMantissa.ofMantissaAndAccuracy q .exact) (m * 2 ^ e / 2 ^ t) ∧
      (52 ≤ q.log2 ∨ t ≤ -1074) := by
  obtain ⟨target, htarget⟩ : ∃ target, max ((m.log2 : Int) + e - 52) (-1074) = target := ⟨_, rfl⟩
  obtain ⟨k, hk⟩ : ∃ k : Nat, (e - target).toNat = k := ⟨_, rfl⟩
  have hlog := log2_shift_left hm k
  have hvalue : (m * 2 ^ e : Rat) / 2 ^ (e - k) = (m <<< k : Nat) := by
    have hpos : (0 : Rat) < 2 ^ (e - k) := by positivity
    have haligned := aligned_value (e := e) (s := e - k) m (by omega)
    rw [show (e - (e - k)).toNat = k by omega] at haligned
    rw [← haligned, mul_div_cancel_right₀ _ hpos.ne']
  refine ⟨m <<< k, e - k, fun sign => round_finite ((target_eq m e).trans htarget) hk, ?_,
    by omega⟩
  rw [hvalue]
  exact .exact _

/-- An exact number is rounded and stored. -/
theorem rounded_of_exact (hm : 0 < m) (e : Int) :
    RoundedTo (m * 2 ^ e) (stored (UnpackedFloat.round Format.binary64 .positive m e)) := by
  obtain ⟨q, t, hround, hcut, henough⟩ := exists_round_cut hm e
  rw [hround]
  exact rounded_of_cut hcut henough

/-- The sum of stored numbers is the exact one, rounded. -/
theorem Stands.add (hu : Stands u a) (hv : Stands v b) :
    RoundedTo (a + b) (stored (UnpackedFloat.add Format.binary64 u v)) := by
  cases hu with
  | zero sign =>
      cases hv with
      | zero sign' =>
          rw [add_zero]
          cases sign <;> cases sign' <;> exact (Stands.zero _).rounded
      | finite h' =>
          rw [zero_add]
          exact h'.stored_eq.symm ▸ (Stands.finite h').rounded
  | @finite m e h =>
      cases hv with
      | zero sign' =>
          rw [add_zero]
          exact h.stored_eq.symm ▸ (Stands.finite h).rounded
      | @finite n f h' =>
          have hvalue : (m * 2 ^ e + n * 2 ^ f : Rat) =
              (m <<< (e - min e f).toNat + n <<< (f - min e f).toNat : Nat) * 2 ^ min e f := by
            rw [← aligned_value m (min_le_left e f), ← aligned_value n (min_le_right e f)]
            push_cast
            ring
          rw [add_finite, hvalue]
          exact rounded_of_exact (Nat.add_pos_left (Nat.shiftLeft_pos_iff.mpr h.pos) _) _

/-- The difference of two finite numbers, by their aligned mantissas. -/
theorem exists_aligned (h : Canonical m e) (h' : Canonical n f) :
    ∃ (left right : Nat) (s : Int), (m * 2 ^ e : Rat) = left * 2 ^ s ∧
      (n * 2 ^ f : Rat) = right * 2 ^ s ∧
      UnpackedFloat.sub Format.binary64 (.finite .positive m e h.pos)
          (.finite .positive n f h'.pos) =
        UnpackedFloat.normalize Format.binary64 (left - right) s .positive :=
  ⟨m <<< (e - min e f).toNat, n <<< (f - min e f).toNat, min e f,
    (aligned_value m (min_le_left e f)).symm, (aligned_value n (min_le_right e f)).symm, rfl⟩

/-- A difference of stored numbers that is not negative is the exact one, rounded. -/
theorem Stands.sub (hu : Stands u a) (hv : Stands v b) (hle : b ≤ a) :
    RoundedTo (a - b) (stored (UnpackedFloat.sub Format.binary64 u v)) := by
  cases hu with
  | zero sign =>
      cases hv with
      | zero sign' =>
          rw [sub_zero]
          cases sign <;> cases sign' <;> exact (Stands.zero _).rounded
      | finite h' =>
          have hpos := h'.pos
          exact absurd hle (not_le.mpr (by positivity))
  | @finite m e h =>
      cases hv with
      | zero sign' =>
          rw [sub_zero]
          exact h.stored_eq.symm ▸ (Stands.finite h).rounded
      | @finite n f h' =>
          obtain ⟨left, right, s, hleft, hright, hsub⟩ := exists_aligned h h'
          have hpos : (0 : Rat) < 2 ^ s := by positivity
          rw [hleft, hright, mul_le_mul_iff_left₀ hpos, Nat.cast_le] at hle
          rw [hsub, hleft, hright, ← sub_mul, ← Nat.cast_sub hle]
          rcases Nat.eq_or_lt_of_le hle with rfl | hlt
          · have hcompare : compare ((right : Int) - right) 0 = .eq :=
              compare_eq_iff_eq.mpr (sub_self _)
            simp only [UnpackedFloat.normalize, hcompare, Nat.sub_self, Nat.cast_zero, zero_mul]
            exact (Stands.zero .positive).rounded
          · rw [← Int.natCast_sub hlt.le, normalize_positive (Nat.sub_pos_of_lt hlt)]
            exact rounded_of_exact (Nat.sub_pos_of_lt hlt) s

/-- The product of stored numbers is the exact one, rounded. -/
theorem Stands.mul (hu : Stands u a) (hv : Stands v b) :
    RoundedTo (a * b) (stored (UnpackedFloat.mul Format.binary64 u v)) := by
  cases hu with
  | zero sign =>
      rw [zero_mul]
      cases hv <;> exact (Stands.zero _).stored_eq.symm ▸ (Stands.zero _).rounded
  | @finite m e h =>
      cases hv with
      | zero sign' =>
          rw [mul_zero]
          exact (Stands.zero _).stored_eq.symm ▸ (Stands.zero _).rounded
      | @finite n f h' =>
          have hpos := Nat.mul_pos h.pos h'.pos
          -- only at the least exponents are there fewer bits
          have henough : 52 ≤ (m * n).log2 ∨ e + f ≤ -1074 := by
            by_cases hleast : e = -1074 ∧ f = -1074
            · omega
            · refine Or.inl ((Nat.le_log2 hpos.ne').mpr ?_)
              rcases not_and_or.mp hleast with he | hf
              · have hm := not_lt.mp (mt h.normal he)
                exact hm.trans (Nat.le_mul_of_pos_right m h'.pos)
              · have hn := not_lt.mp (mt h'.normal hf)
                exact hn.trans (Nat.le_mul_of_pos_left n h.pos)
          refine rounded_of_cut ?_ henough
          have hvalue : (m * 2 ^ e * (n * 2 ^ f) : Rat) / 2 ^ (e + f) = (m * n : Nat) := by
            rw [zpow_add₀ two_ne_zero]
            push_cast
            field_simp
          rw [hvalue]
          exact .exact _

/-- The quotient of stored numbers is the exact one, rounded. -/
theorem Stands.div (hu : Stands u a) (hv : Stands v b) (hpos : 0 < b) :
    RoundedTo (a / b) (stored (UnpackedFloat.div Format.binary64 u v)) := by
  cases hv with
  | zero sign => exact absurd hpos (lt_irrefl 0)
  | @finite n f h' =>
      cases hu with
      | zero sign =>
          rw [zero_div]
          exact (Stands.zero _).stored_eq.symm ▸ (Stands.zero _).rounded
      | @finite m e h =>
          obtain ⟨q, t, accuracy, hdiv, hcut, henough⟩ :=
            exists_div_cut (f := e) (g := f) h.pos h'.pos
          rw [hdiv]
          exact rounded_of_cut hcut henough

/-! ## Results beyond the range -/

/-- A result is at least a stored number that the exact result is at least. -/
theorem RoundedTo.le (h : RoundedTo a u) (hw : Stands w c) (hle : c ≤ a) : w.le u = true := by
  rcases h.cases with ⟨b, hu⟩ | rfl
  · exact (hw.le_iff hu).mpr (h.at_least hw hle hu)
  · cases hw <;> rfl

/-- A result is at most a stored number that the exact result is at most. -/
theorem RoundedTo.ge (h : RoundedTo a u) (hw : Stands w c) (hle : a ≤ c) : u.le w = true := by
  obtain ⟨b, hu, hb⟩ := h.at_most hw hle
  exact (hu.le_iff hw).mpr hb

/-- Bits with a minus sign are at most a number that is not negative, if their exponent is not the
one for infinity. -/
theorem unpack_negative_le {exponent : BitVec 11} {mantissa : BitVec 52}
    (hexponent : exponent ≠ -1#11) (hw : Stands w c) :
    (UnpackedFloat.unpack Format.binary64
      (packComponents Format.binary64 .negative exponent mantissa)).le w = true := by
  have hones : unpackExponent (packComponents Format.binary64 .negative exponent mantissa) ≠
      -1#11 := unpackExponent_packComponents ▸ hexponent
  rcases unpack_finite hones with hzero | ⟨m, e, hm, hfinite⟩
  · rw [hzero, sign_of_components]
    cases hw <;> rfl
  · rw [hfinite, sign_of_components]
    cases hw <;> rfl

/-- A negative number is at most a number that is not negative when it is stored. -/
theorem stored_negative_le (hm : 0 < m) (hw : Stands w c) :
    (stored (.finite .negative m e hm)).le w = true := by
  show (UnpackedFloat.unpack Format.binary64
    (UnpackedFloat.pack Format.binary64 (.finite .negative m e hm))).le w = true
  rw [pack_finite]
  by_cases hrange : 2047 ≤ (e + 1075).toNat
  · rw [if_pos hrange]
    show (UnpackedFloat.infinity .negative).le w = true
    cases hw <;> rfl
  · rw [if_neg hrange]
    refine unpack_negative_le (fun hones => ?_) hw
    have hvalue := congrArg BitVec.toNat hones
    split at hvalue
    · have hvalue : (e + 1075).toNat % 2048 = 2047 := (BitVec.toNat_ofNat _ _).symm.trans hvalue
      omega
    · exact absurd hvalue (by decide)

/-- A number rounded with a minus sign is at most a number that is not negative. -/
theorem round_negative_le (m : Nat) (e : Int) (hw : Stands w c) :
    (stored (UnpackedFloat.round Format.binary64 .negative m e)).le w = true := by
  rw [round_finite rfl rfl, round_with_accuracy_negative, round_with_accuracy_units rfl]
  rcases of_units_cases _ _ with hzero | ⟨n, f, hn, hfinite⟩
  · rw [hzero]
    show (UnpackedFloat.zero .negative).le w = true
    cases hw <;> rfl
  · rw [hfinite]
    exact stored_negative_le hn hw

/-- Taking away a number that is not negative leads no further up. -/
theorem Stands.sub_le (hu : Stands u a) (hv : Stands v b ∨ v = .infinity .positive)
    (hw : Stands w c) (hle : a ≤ c) :
    (stored (UnpackedFloat.sub Format.binary64 u v)).le w = true := by
  rcases hv with hv | rfl
  · rcases le_or_gt b a with hless | hmore
    · have hnonneg := hv.nonneg
      exact (hu.sub hv hless).ge hw (by linarith)
    · cases hv with
      | zero sign => exact absurd hu.nonneg (not_le.mpr hmore)
      | @finite n f h' =>
          cases hu with
          | zero sign => exact stored_negative_le h'.pos hw
          | @finite m e h =>
              obtain ⟨left, right, s, hleft, hright, hsub⟩ := exists_aligned h h'
              have hpos : (0 : Rat) < 2 ^ s := by positivity
              rw [hleft, hright, mul_lt_mul_iff_left₀ hpos, Nat.cast_lt] at hmore
              rw [hsub, ← Int.neg_sub, ← Int.natCast_sub hmore.le,
                normalize_negative (Nat.sub_pos_of_lt hmore)]
              exact round_negative_le _ _ hw
  · have hsub : UnpackedFloat.sub Format.binary64 u (.infinity .positive) =
        .infinity .negative := by
      cases hu <;> rfl
    rw [hsub]
    show (UnpackedFloat.infinity .negative).le w = true
    cases hw <;> rfl

/-- Adding a number that is not negative leads no further down. -/
theorem Stands.le_add (hu : Stands u a) (hv : Stands v b ∨ v = .infinity .positive)
    (hw : Stands w c) (hle : c ≤ a) :
    w.le (stored (UnpackedFloat.add Format.binary64 u v)) = true := by
  rcases hv with hv | rfl
  · have hnonneg := hv.nonneg
    exact (hu.add hv).le hw (by linarith)
  · have hadd : UnpackedFloat.add Format.binary64 u (.infinity .positive) =
        .infinity .positive := by
      cases hu <;> rfl
    rw [hadd]
    show w.le (.infinity .positive) = true
    cases hw <;> rfl

end Operations

/-! ## Numbers by value -/

/-- A number holds a value that is not negative. -/
abbrev Holds (x : Float) (a : Rat) : Prop :=
  Stands (parts x) a

/-- A number is an exact result, rounded once. -/
abbrev IsRounded (x : Float) (a : Rat) : Prop :=
  RoundedTo a (parts x)

section Values

variable {x y z : Float} {a b c : Rat} {m n : Nat} {e f : Int}

/-- Numbers are in order if their parts are. -/
theorem le_parts : x ≤ y ↔ (parts x).le (parts y) = true :=
  ⟨of_decide_eq_true, decide_eq_true⟩

/-- Numbers compare as their values do. -/
theorem Holds.le_iff (hx : Holds x a) (hy : Holds y b) : x ≤ y ↔ a ≤ b :=
  le_parts.trans (Stands.le_iff hx hy)

/-- Numbers are strictly in order if their parts are. -/
theorem lt_parts : x < y ↔ (parts x).lt (parts y) = true :=
  ⟨of_decide_eq_true, decide_eq_true⟩

/-- Numbers are strictly in order as their values are. -/
theorem Holds.lt_iff (hx : Holds x a) (hy : Holds y b) : x < y ↔ a < b :=
  lt_parts.trans (Stands.lt_iff hx hy)

/-- Numbers that hold values compare in a chain. -/
theorem Holds.le_trans (hx : Holds x a) (hy : Holds y b) (hz : Holds z c) (hxy : x ≤ y)
    (hyz : y ≤ z) : x ≤ z :=
  (hx.le_iff hz).mpr (((hx.le_iff hy).mp hxy).trans ((hy.le_iff hz).mp hyz))

/-- A sum is the exact one, rounded. -/
theorem Holds.add (hx : Holds x a) (hy : Holds y b) : IsRounded (x + y) (a + b) :=
  Stands.add hx hy

/-- A difference that is not negative is the exact one, rounded. -/
theorem Holds.sub (hx : Holds x a) (hy : Holds y b) (hle : b ≤ a) : IsRounded (x - y) (a - b) :=
  Stands.sub hx hy hle

/-- A product is the exact one, rounded. -/
theorem Holds.mul (hx : Holds x a) (hy : Holds y b) : IsRounded (x * y) (a * b) :=
  Stands.mul hx hy

/-- A quotient is the exact one, rounded. -/
theorem Holds.div (hx : Holds x a) (hy : Holds y b) (hpos : 0 < b) : IsRounded (x / y) (a / b) :=
  Stands.div hx hy hpos

/-- Taking away a number that is not negative, or infinity, leads no further up. -/
theorem Holds.sub_le (hx : Holds x a) (hy : Holds y b ∨ parts y = .infinity .positive)
    (hz : Holds z c) (hle : a ≤ c) : x - y ≤ z :=
  le_parts.mpr (Stands.sub_le hx hy hz hle)

/-- Adding a number that is not negative, or infinity, leads no further down. -/
theorem Holds.le_add (hx : Holds x a) (hy : Holds y b ∨ parts y = .infinity .positive)
    (hz : Holds z c) (hle : c ≤ a) : z ≤ x + y :=
  le_parts.mpr (Stands.le_add hx hy hz hle)

/-- A number that holds a value is finite and not negative. -/
theorem Holds.finite_nonneg (h : Holds x a) : x.isFinite = true ∧ 0 ≤ x := by
  have hzero : Holds 0 0 := .zero .positive
  exact ⟨Stands.is_finite h, (hzero.le_iff h).mpr h.nonneg⟩

/-- The parts of a number that is finite and not negative, and its place in the order. -/
theorem cases_of_finite_nonneg (hfinite : x.isFinite = true) (hlow : 0 ≤ x) :
    (∃ sign, parts x = .zero sign ∧ orderKey x ≤ 2 ^ 63) ∨
      ∃ m e, ∃ h : Canonical m e, parts x = .finite .positive m e h.pos ∧
        orderKey x = 2 ^ 63 + bitsOf m e := by
  obtain ⟨negative, m, e, h⟩ := decode_of_is_finite hfinite
  rcases Nat.eq_zero_or_pos m with rfl | hm
  · rw [← eq_of_zero h]
    refine Or.inl ⟨signOf negative, ?_⟩
    cases negative <;> exact ⟨rfl, by decide⟩
  · cases negative with
    | true => exact absurd (mantissa_eq_zero hlow h) hm.ne'
    | false =>
        obtain ⟨hc, hbits⟩ := decode_positive h hm
        refine Or.inr ⟨m, e, hc, parts_of_decode h hm, ?_⟩
        have hword : bitsOf m e < 2 ^ 63 := by
          obtain ⟨-, hsmall, hlow, hhigh, -⟩ := hc
          unfold bitsOf
          split <;> omega
        simp only [orderKey, hbits, powerOfTwo, field_powers]
        rw [if_neg (by omega)]

/-- A number with the parts of a canonical form holds its value. -/
theorem holds_of_parts {hm : 0 < m} (h : parts x = .finite .positive m e hm) (hc : Canonical m e)
    (ha : a = m * 2 ^ e) : Holds x a := by
  unfold Holds
  rw [h, ha]
  exact .finite hc

/-- A number that is finite and not negative holds a value. -/
theorem exists_holds (hfinite : x.isFinite = true) (hlow : 0 ≤ x) : ∃ a, Holds x a := by
  rcases cases_of_finite_nonneg hfinite hlow with ⟨sign, hparts, -⟩ | ⟨m, e, hc, hparts, -⟩
  · refine ⟨0, ?_⟩
    unfold Holds
    rw [hparts]
    exact .zero sign
  · exact ⟨_, holds_of_parts hparts hc rfl⟩

/-- A count of 64 bits holds a value. -/
theorem exists_holds_of_nat {n : Nat} (h : n < powerOfTwo 64) :
    ∃ a, Holds (Float.ofNat n) a := by
  rcases Nat.eq_zero_or_pos n with rfl | hpos
  · exact ⟨0, .zero .positive⟩
  · have hnormal := normal_of_nat hpos h
    have hbits : n.log2 < 64 := (Nat.log2_lt hpos.ne').mpr h
    generalize hparts : parts (Float.ofNat n) = u at hnormal
    cases hnormal with
    | @finite m e hm hlog hlow hhigh =>
        obtain ⟨hleast, hsmall⟩ := (Nat.log2_eq_iff hm.ne').mp hlog
        exact ⟨_, holds_of_parts hparts ⟨hm, hsmall, by omega, by omega, by omega⟩ rfl⟩

/-- Bits are in the order of exponents and mantissas. -/
theorem Canonical.le_of_bits (h : Canonical m e) (h' : Canonical n f)
    (hle : bitsOf m e ≤ bitsOf n f) : e < f ∨ e = f ∧ m ≤ n := by
  obtain ⟨-, hsmall, hlow, hhigh, hnormal⟩ := h
  obtain ⟨-, hsmall', hlow', hhigh', hnormal'⟩ := h'
  unfold bitsOf at hle
  split at hle
  · split at hle <;> omega
  · split at hle <;> omega

/-- The order of sorting is that of the values. -/
theorem le_of_precedes (hfinite : x.isFinite = true) (hlow : 0 ≤ x) (hfinite' : y.isFinite = true)
    (hlow' : 0 ≤ y) (h : Scalar.precedes x y = true) : x ≤ y := by
  have hkey : orderKey x ≤ orderKey y := of_decide_eq_true h
  rw [le_parts]
  rcases cases_of_finite_nonneg hfinite hlow with ⟨sign, hparts, -⟩ | ⟨m, e, hc, hparts, hplace⟩
  · rcases cases_of_finite_nonneg hfinite' hlow' with ⟨sign', hparts', -⟩ | ⟨n, f, hc', hparts', -⟩
    · rw [hparts, hparts']
      rfl
    · rw [hparts, hparts']
      rfl
  · rcases cases_of_finite_nonneg hfinite' hlow' with
      ⟨sign', -, hplace'⟩ | ⟨n, f, hc', hparts', hplace'⟩
    · have hpos : 0 < bitsOf m e := by
        obtain ⟨hpos, -, hlow, -, -⟩ := hc
        unfold bitsOf
        split <;> omega
      omega
    · rw [hparts, hparts', Stands.le_iff (.finite hc) (.finite hc'), hc.le_iff hc']
      exact hc.le_of_bits hc' (by omega)

end Values

/-! ## Interpolation -/

section Interpolation

variable {x y f g : Float} {u : UnpackedFloat} {a b d p r : Rat} {n k : Nat}

/-- A value is a number of the least units. -/
theorem Stands.exists_least (h : Stands u a) : ∃ k : Nat, a = k * 2 ^ (-1074 : Int) := by
  cases h with
  | zero sign => exact ⟨0, by simp⟩
  | @finite m e h => exact ⟨_, (aligned_value m h.low).symm⟩

/-- A number of the least units is rounded to no more than a third above some stored number that is
not above it. -/
theorem exists_stored_below (hx : RoundedTo a u) (hu : Stands u d)
    (hunits : a = k * 2 ^ (-1074 : Int)) (hrange : a < 2 ^ 1024) :
    ∃ v b, Stands v b ∧ b ≤ a ∧ 3 * d ≤ 4 * b := by
  obtain ⟨n, e, hrounds, hstands⟩ := hx
  have hpos : (0 : Rat) < 2 ^ e := by positivity
  have hvalue : d = n * 2 ^ e := by
    rcases hstands with hstands | ⟨rfl, -⟩
    · exact hu.unique hstands
    · cases hu
  by_cases hleast : e = -1074
  · -- the number of units is exact
    have hnearest := hrounds.nearest
    rw [hunits, ← hleast, mul_div_cancel_right₀ _ hpos.ne'] at hnearest
    have hexact : d = a := by rw [hvalue, hunits, hnearest.unique (nearest_self k), hleast]
    have hnonneg := hu.nonneg
    exact ⟨u, d, hu, hexact.le, by linarith⟩
  · -- the 53 leading bits are stored, and rounding adds one unit to them at most
    have hleading := hrounds.leading.resolve_right hleast
    obtain ⟨q, hq⟩ : ∃ q, ⌊a / 2 ^ e⌋₊ = q := ⟨_, rfl⟩
    have hnonneg : 0 ≤ a / 2 ^ e := by
      have ha : (0 : Rat) ≤ a := le_trans (by positivity) hleading
      positivity
    have hfloor : (q : Rat) ≤ a / 2 ^ e := hq ▸ Nat.floor_le hnonneg
    have hceil : a / 2 ^ e < q + 1 := hq ▸ Nat.lt_floor_add_one _
    have hlow : 2 ^ 52 ≤ q := by
      rw [← hq]
      refine Nat.le_floor ?_
      rw [le_div_iff₀ hpos, ← units_power]
      exact hleading
    have hhigh : q < 2 ^ 53 := by
      have hlt : a / 2 ^ e < (2 ^ 53 : Nat) := by
        rw [div_lt_iff₀ hpos, ← units_power]
        exact hrounds.high
      exact_mod_cast hfloor.trans_lt hlt
    have he : e ≤ 971 := by
      have hlt : (2 : Rat) ^ (52 + e) < 2 ^ (1024 : Int) := hleading.trans_lt hrange
      have hexponents := (zpow_lt_zpow_iff_right₀ one_lt_two).mp hlt
      omega
    have hc : Canonical q e := ⟨by omega, hhigh, hrounds.low, he, by omega⟩
    have hnext : n ≤ q + 1 := by
      refine hrounds.nearest.mono (nearest_self (q + 1)) ?_
      push_cast
      exact hceil.le
    have hthird : (3 * n : Rat) ≤ 4 * q := by exact_mod_cast (by omega)
    refine ⟨_, _, .finite hc, (le_div_iff₀ hpos).mp hfloor, ?_⟩
    calc
      3 * d = 3 * n * 2 ^ e := by rw [hvalue, mul_assoc]
      _ ≤ 4 * q * 2 ^ e := by gcongr
      _ = 4 * (q * 2 ^ e) := mul_assoc _ _ _

/-- A difference of stored numbers is stored, and three quarters of it do not exceed a stored number
that is not above the exact difference. -/
theorem Holds.exists_difference (hx : Holds x a) (hy : Holds y b) (hle : a ≤ b) :
    ∃ d, Holds (y - x) d ∧ ∃ v c, Stands v c ∧ c ≤ b - a ∧ 3 * d ≤ 4 * c := by
  have hnonneg := hx.nonneg
  have hrounded := hy.sub hx hle
  obtain ⟨d, hd, -⟩ := hrounded.at_most hy (by linarith)
  obtain ⟨j, hj⟩ := hx.exists_least
  obtain ⟨k, hk⟩ := hy.exists_least
  have hpos : (0 : Rat) < 2 ^ (-1074 : Int) := by positivity
  have hcount : j ≤ k := by
    rw [hj, hk, mul_le_mul_iff_left₀ hpos, Nat.cast_le] at hle
    exact hle
  have hunits : b - a = (k - j : Nat) * 2 ^ (-1074 : Int) := by
    rw [hj, hk, Nat.cast_sub hcount, sub_mul]
  have hrange : b - a < 2 ^ 1024 := lt_of_le_of_lt (by linarith) hy.lt_most
  exact ⟨d, hd, exists_stored_below hrounded hd hunits hrange⟩

/-- A part of the way from one number to another is stored, and not longer than the way. -/
theorem Holds.exists_step (hx : Holds x a) (hy : Holds y b) (hle : a ≤ b) (hf : Holds f p)
    (hp : p ≤ 3 / 4) : ∃ s, Holds ((y - x) * f) s ∧ s ≤ b - a := by
  obtain ⟨d, hd, v, c, hv, hc, hthird⟩ := hx.exists_difference hy hle
  have hnonneg := hd.nonneg
  have hpart : d * p ≤ c := by nlinarith
  obtain ⟨s, hs, hsc⟩ := (hd.mul hf).at_most hv hpart
  exact ⟨s, hs, hsc.trans hc⟩

/-- A number interpolated between two others is between them. -/
theorem Holds.interpolate (hx : Holds x a) (hy : Holds y b) (hle : a ≤ b) (hf : Holds f p)
    (hp : p ≤ 3 / 4) : ∃ q, Holds (x + (y - x) * f) q ∧ a ≤ q ∧ q ≤ b := by
  obtain ⟨s, hs, hsc⟩ := hx.exists_step hy hle hf hp
  have hnonneg := hs.nonneg
  have hrounded := hx.add hs
  obtain ⟨q, hq, hqb⟩ := hrounded.at_most hy (by linarith)
  exact ⟨q, hq, hrounded.at_least hx (by linarith) hq, hqb⟩

/-- Further along the way an interpolated number is no less. -/
theorem Holds.interpolate_mono (hx : Holds x a) (hy : Holds y b) (hle : a ≤ b) (hf : Holds f p)
    (hg : Holds g r) (hpr : p ≤ r) (hr : r ≤ 3 / 4) :
    x + (y - x) * f ≤ x + (y - x) * g := by
  obtain ⟨d, hd, -⟩ := hx.exists_difference hy hle
  obtain ⟨t, ht, -⟩ := hx.exists_step hy hle hg hr
  have hnonneg := hd.nonneg
  have hmore : d * p ≤ d * r := by gcongr
  obtain ⟨s, hs, hst⟩ := (hd.mul hf).mono (hd.mul hg) hmore ht
  obtain ⟨q, hq, -⟩ := hx.interpolate hy hle hg hr
  obtain ⟨q', hq', hle'⟩ := (hx.add hs).mono (hx.add ht) (by linarith) hq
  exact (Holds.le_iff hq' hq).mpr hle'

end Interpolation

end CallProfile.Number.Binary64

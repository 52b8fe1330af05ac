import CallProfile.Proofs.Number.Distance

/-!
# Numbers that are not negative

A number that is not negative holds a value or is infinite, and so reaches a value or what is above
all values (`Reaches`). Such numbers compare as what they reach, and sums, quotients by counts and
the larger of two are such numbers again. A count is rounded once (`is_rounded_of_nat`), and a
result is as near to the exact one as half a unit of the last bit (`RoundedTo.near`), so that an
interpolated number is near to the exact one too (`Holds.interpolate_near`).
-/

namespace CallProfile.Number.Binary64

open Float.Model (Format UnpackedFloat totalExponent)
open Float.Model.UnpackedFloat

/-! ## Rounding -/

section Rounding

variable {x y a : Rat} {u v : UnpackedFloat} {e : Int}

/-- A result is at most half a unit from the exact one. -/
theorem RoundedTo.near (h : RoundedTo x u) (hu : Stands u a) (hx : x < 2 ^ (53 + e))
    (he : -1074 ≤ e) : |a - x| ≤ 2 ^ e / 2 := by
  obtain ⟨n, f, hrounds, hstands⟩ := h
  have hpos : (0 : Rat) < 2 ^ f := by positivity
  have hvalue : a = n * 2 ^ f := by
    rcases hstands with hstands | ⟨rfl, -⟩
    · exact hu.unique hstands
    · cases hu
  have hle : f ≤ e := by
    rcases hrounds.leading with hleading | hleast
    · have hexponents := (zpow_lt_zpow_iff_right₀ one_lt_two).mp (hleading.trans_lt hx)
      omega
    · omega
  have hunit : (2 : Rat) ^ f ≤ 2 ^ e := zpow_le_zpow_right₀ one_le_two hle
  have hlow := hrounds.nearest.low
  have hhigh := hrounds.nearest.high
  rw [le_div_iff₀ hpos] at hlow
  rw [div_le_iff₀ hpos] at hhigh
  rw [hvalue, abs_le]
  constructor <;> linarith

/-- An interpolated number is within two units of the exact one. -/
theorem Holds.interpolate_near {x y f : Float} {a b p : Rat} (hx : Holds x a) (hy : Holds y b)
    (hle : a ≤ b) (hf : Holds f p) (hp : p ≤ 3 / 4) (hsmall : b < 2 ^ (53 + e)) (he : -1074 ≤ e) :
    ∃ q, Holds (x + (y - x) * f) q ∧ q ≤ b ∧ |q - (a + (b - a) * p)| ≤ 2 * 2 ^ e := by
  have hnonneg := hx.nonneg
  have hpart := hf.nonneg
  have hdifference := hy.sub hx hle
  obtain ⟨d, hd, hdb⟩ := hdifference.at_most hy (by linarith)
  obtain ⟨s, hs, hsb⟩ := hx.exists_step hy hle hf hp
  obtain ⟨q, hq, -, hqb⟩ := hx.interpolate hy hle hf hp
  have hlonger := hd.nonneg
  -- the difference, its part and the sum are rounded, each by half a unit at most
  have hfirst := hdifference.near hd (by linarith) he
  have hsecond := (hd.mul hf).near hs (by nlinarith) he
  have hthird := (hx.add hs).near hq (by linarith) he
  refine ⟨q, hq, hqb, ?_⟩
  have hshare : |(d - (b - a)) * p| ≤ 2 ^ e / 2 := by
    rw [abs_mul, abs_of_nonneg hpart]
    nlinarith [abs_nonneg (d - (b - a))]
  rw [abs_le] at hsecond hthird hshare ⊢
  constructor <;> linarith

/-- Rounded results are in the order of the exact ones, infinity included. -/
theorem RoundedTo.le_of_le (hx : RoundedTo x u) (hy : RoundedTo y v) (hle : x ≤ y) :
    u.le v = true := by
  rcases hy.cases with ⟨b, hv⟩ | rfl
  · obtain ⟨a, hu, hab⟩ := hx.mono hy hle hv
    exact (hu.le_iff hv).mpr hab
  · rcases hx.cases with ⟨a, hu⟩ | rfl
    · cases hu <;> rfl
    · rfl

/-- Numbers that were rounded once are in the order of the exact results. -/
theorem IsRounded.le {x y : Float} {a b : Rat} (hx : IsRounded x a) (hy : IsRounded y b)
    (hle : a ≤ b) : x ≤ y :=
  le_parts.mpr (hx.le_of_le hy hle)

/-- A count is rounded once. -/
theorem is_rounded_of_nat (n : Nat) : IsRounded (Float.ofNat n) n := by
  rcases Nat.lt_or_ge n (2 ^ 53) with hsmall | hbig
  · exact Stands.rounded (holds_of_nat hsmall)
  · have hpos : 0 < n := by omega
    have hlog := log2_shift_left hpos 53
    have hvalue : (n : Rat) / (2 : Rat) ^ (-53 : Int) = (n <<< 53 : Nat) := by
      rw [Nat.shiftLeft_eq, zpow_neg, div_inv_eq_mul]
      push_cast
      rfl
    rw [IsRounded, parts_of_nat_big hbig]
    refine rounded_of_cut ?_ (Or.inl (by omega))
    rw [hvalue]
    exact .exact _

/-- A positive count of 64 bits holds a value of at least one. -/
theorem exists_holds_of_count {n : Nat} (hpos : 0 < n) (h : n < powerOfTwo 64) :
    ∃ a, Holds (Float.ofNat n) a ∧ 1 ≤ a := by
  obtain ⟨a, ha⟩ := exists_holds_of_nat h
  have hone : Holds (Float.ofNat 1) (1 : Nat) := holds_of_nat (by decide)
  refine ⟨a, ha, ?_⟩
  have hleast := (is_rounded_of_nat n).at_least hone (Nat.cast_le.mpr hpos) ha
  rwa [Nat.cast_one] at hleast

/-- A number with all its bits has a leading bit. -/
theorem Stands.exists_leading (hu : Stands u a) (hleast : 2 ^ (-1021 : Int) ≤ a) :
    ∃ e : Int, -1074 ≤ e ∧ 2 ^ (52 + e) ≤ a ∧ a < 2 ^ (53 + e) := by
  obtain ⟨n, e, hrounds, -⟩ := hu.rounded
  refine ⟨e, hrounds.low, hrounds.leading.resolve_right ?_, hrounds.high⟩
  rintro rfl
  exact absurd hrounds.high (not_lt.mpr hleast)

end Rounding

/-! ## Values and infinity -/

/-- A stored number that is not negative stands for its value or is infinite. -/
inductive Spans : UnpackedFloat → WithTop Rat → Prop
  | value {u : UnpackedFloat} {a : Rat} (h : Stands u a) : Spans u a
  | infinity : Spans (.infinity .positive) ⊤

/-- A number reaches a value, or infinity. -/
abbrev Reaches (x : Float) (v : WithTop Rat) : Prop :=
  Spans (parts x) v

section Values

variable {x y : Float} {u w : UnpackedFloat} {v z : WithTop Rat} {a b : Rat}

/-- Stored numbers compare as what they stand for. -/
theorem Spans.le_iff (hu : Spans u v) (hw : Spans w z) : u.le w = true ↔ v ≤ z := by
  cases hu with
  | value h =>
      cases hw with
      | value h' => rw [h.le_iff h', WithTop.coe_le_coe]
      | infinity =>
          refine iff_of_true ?_ le_top
          cases h <;> rfl
  | infinity =>
      cases hw with
      | @value _ b h' =>
          refine iff_of_false ?_ (by simp)
          cases h' <;> exact Bool.false_ne_true
      | infinity => exact iff_of_true rfl (le_refl _)

/-- Stored numbers are strictly in order as what they stand for. -/
theorem Spans.lt_iff (hu : Spans u v) (hw : Spans w z) : u.lt w = true ↔ v < z := by
  cases hu with
  | value h =>
      cases hw with
      | value h' => rw [h.lt_iff h', WithTop.coe_lt_coe]
      | infinity =>
          refine iff_of_true ?_ (WithTop.coe_lt_top _)
          cases h <;> rfl
  | infinity =>
      cases hw with
      | @value _ b h' =>
          refine iff_of_false ?_ (by simp)
          cases h' <;> exact Bool.false_ne_true
      | infinity => exact iff_of_false Bool.false_ne_true (lt_irrefl _)

/-- A number that is not negative holds the value it reaches, or is infinite. -/
theorem Reaches.cases (hx : Reaches x v) :
    (∃ a : Rat, v = a ∧ Holds x a) ∨ v = ⊤ ∧ parts x = .infinity .positive := by
  unfold Reaches Holds at *
  generalize parts x = u at hx
  cases hx with
  | value h => exact Or.inl ⟨_, rfl, h⟩
  | infinity => exact Or.inr ⟨rfl, rfl⟩

/-- Numbers compare as what they reach. -/
theorem Reaches.le_iff (hx : Reaches x v) (hy : Reaches y z) : x ≤ y ↔ v ≤ z :=
  le_parts.trans (Spans.le_iff hx hy)

/-- Numbers are strictly in order as what they reach. -/
theorem Reaches.lt_iff (hx : Reaches x v) (hy : Reaches y z) : x < y ↔ v < z :=
  lt_parts.trans (Spans.lt_iff hx hy)

/-- Numbers that are not negative are above minus one. -/
theorem Reaches.minus_one_le (hx : Reaches x v) : -1.0 ≤ x := by
  have hparts : parts (-1.0) = .finite .negative (2 ^ 52) (-52) (by decide) := rfl
  rw [le_parts, hparts]
  unfold Reaches at hx
  generalize parts x = u at hx
  cases hx with
  | value h => cases h <;> rfl
  | infinity => rfl

/-- What was rounded once is not negative. -/
theorem RoundedTo.spans (h : RoundedTo a u) : ∃ v, Spans u v := by
  rcases h.cases with ⟨b, hu⟩ | rfl
  · exact ⟨_, .value hu⟩
  · exact ⟨_, .infinity⟩

/-- Anything not negative and infinity add up to infinity. -/
theorem Spans.add_infinity (hu : Spans u v) :
    UnpackedFloat.add Format.binary64 u (.infinity .positive) = .infinity .positive := by
  cases hu with
  | value h => cases h <;> rfl
  | infinity => rfl

/-- Adding infinity to a number that is not negative leads to infinity. -/
theorem Reaches.add_infinity (hx : Reaches x v) (hy : parts y = .infinity .positive) :
    Reaches (x + y) ⊤ := by
  unfold Reaches
  rw [parts_add, hy, Spans.add_infinity hx]
  exact .infinity

/-- A sum of stored numbers that are not negative is not negative. -/
theorem Spans.add (hu : Spans u v) (hw : Spans w z) :
    ∃ t, Spans (stored (UnpackedFloat.add Format.binary64 u w)) t := by
  cases hw with
  | value h' =>
      cases hu with
      | value h => exact RoundedTo.spans (h.add h')
      | infinity =>
          have hsum : UnpackedFloat.add Format.binary64 (.infinity .positive) w =
              .infinity .positive := by
            cases h' <;> rfl
          rw [hsum]
          exact ⟨⊤, .infinity⟩
  | infinity =>
      rw [hu.add_infinity]
      exact ⟨⊤, .infinity⟩

/-- A sum of numbers that are not negative is not negative. -/
theorem Reaches.add (hx : Reaches x v) (hy : Reaches y z) : ∃ t, Reaches (x + y) t :=
  Spans.add hx hy

/-- A quotient by a positive value is not negative. -/
theorem Reaches.div (hx : Reaches x v) (hy : Holds y b) (hpos : 0 < b) :
    ∃ t, Reaches (x / y) t := by
  unfold Reaches Holds at *
  rw [parts_div]
  generalize parts x = u at hx
  generalize parts y = w at hy
  cases hx with
  | value h => exact RoundedTo.spans (h.div hy hpos)
  | infinity =>
      cases hy with
      | zero sign => exact absurd hpos (lt_irrefl 0)
      | @finite m e h =>
          have hquotient : UnpackedFloat.div Format.binary64 (.infinity .positive)
              (.finite .positive m e h.pos) = .infinity .positive := rfl
          rw [hquotient]
          exact ⟨⊤, .infinity⟩

/-- A sum from a number that is not negative is not negative, if none of its numbers is. -/
theorem reaches_foldl_add {start : Float} {values : List Float} (hstart : ∃ v, Reaches start v)
    (h : ∀ x ∈ values, ∃ v, Reaches x v) : ∃ v, Reaches (values.foldl (· + ·) start) v := by
  induction values generalizing start with
  | nil => exact hstart
  | cons x values ih =>
      obtain ⟨v, hv⟩ := hstart
      obtain ⟨z, hz⟩ := h x List.mem_cons_self
      exact ih (hv.add hz) fun y hy => h y (List.mem_cons_of_mem x hy)

/-- The larger of two numbers reaches as far as either. -/
theorem Reaches.larger (hx : Reaches x v) (hy : Reaches y z) :
    Reaches (Scalar.larger x y) (max v z) := by
  have hless : Scalar.less x y = true ↔ v < z := decide_eq_true_iff.trans (hx.lt_iff hy)
  unfold Scalar.larger
  by_cases hlt : v < z
  · rw [if_pos (hless.mpr hlt), max_eq_right hlt.le]
    exact hy
  · rw [if_neg (mt hless.mp hlt), max_eq_left (not_lt.mp hlt)]
    exact hx

/-- The largest of some numbers and a start reaches as far as each of them. -/
theorem reaches_foldl_larger {start : Float} {values : List Float} (hstart : Reaches start v)
    (h : ∀ x ∈ values, ∃ v, Reaches x v) :
    ∃ t, Reaches (values.foldl Scalar.larger start) t ∧ v ≤ t ∧
      ∀ x ∈ values, ∀ z, Reaches x z → z ≤ t := by
  induction values generalizing start v with
  | nil => exact ⟨v, hstart, le_refl v, fun x hx => absurd hx List.not_mem_nil⟩
  | cons y values ih =>
      obtain ⟨w, hw⟩ := h y List.mem_cons_self
      obtain ⟨t, ht, hle, hmost⟩ :=
        ih (hstart.larger hw) fun x hx => h x (List.mem_cons_of_mem y hx)
      refine ⟨t, ht, (le_max_left v w).trans hle, fun x hx z hz => ?_⟩
      rcases List.mem_cons.mp hx with rfl | hx
      · have hsame : z ≤ w := (Spans.le_iff hz hw).mp ((Spans.le_iff hw hw).mpr (le_refl w))
        exact hsame.trans ((le_max_right v w).trans hle)
      · exact hmost x hx z hz

end Values

end CallProfile.Number.Binary64

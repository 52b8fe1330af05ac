import CallProfile.Number.Decimal
import CallProfile.Proofs.Number.Fields

/-!
# Shortest decimals

The shortest decimal of a number lies in the interval of the number (`shortest_within`), so it is
read back as the number. A grid of seventeen digits has such a decimal for sure: its points are so
close that the nearest one is within the interval, as the leading digit is found exactly enough
(`power_magnitude_le`).
-/

namespace CallProfile.Number.Decimal

open Binary64 (Canonical Within reach quotient_eq quotient_pos)

/-- The value of a decimal. -/
def value (x : Decimal) : Rat :=
  x.digits * 10 ^ x.exponent

/-! ## Quotients -/

/-- A denominator is not zero. -/
theorem scaled_pos (n : Nat) (k : Int) : 0 < (scaled n k).2 := by
  cases k with
  | ofNat k => exact Nat.one_pos
  | negSucc k => exact Nat.pow_pos (by decide)

/-- A decimal as a quotient. -/
theorem scaled_eq (n : Nat) (k : Int) :
    ((scaled n k).1 : Rat) = n * 10 ^ k * (scaled n k).2 := by
  cases k with
  | ofNat k =>
      show ((n * 10 ^ k : Nat) : Rat) = n * 10 ^ (k : Int) * (1 : Nat)
      rw [zpow_natCast]
      push_cast
      ring
  | negSucc k =>
      show (n : Rat) = n * 10 ^ (Int.negSucc k) * ((10 ^ (k + 1) : Nat) : Rat)
      rw [zpow_negSucc]
      push_cast
      field_simp

/-! ## Intervals -/

section Intervals

variable {m n : Nat} {e k : Int}

/-- The denominator of an interval is not zero. -/
theorem denominator_pos (m : Nat) (e : Int) : 0 < (intervalOf m e).denominator :=
  quotient_pos 1 (e - 2)

/-- The factor of an interval is a quarter of the last bit. -/
theorem factor_eq (m : Nat) (e : Int) :
    ((Binary64.quotient 1 (e - 2)).1 : Rat) = 2 ^ e / 4 * (intervalOf m e).denominator := by
  rw [quotient_eq, zpow_sub₀ two_ne_zero]
  show ((1 : Nat) * (2 ^ e / 2 ^ (2 : Int)) * ((intervalOf m e).denominator : Nat) : Rat) = _
  norm_num

/-- The value of an interval. -/
theorem value_eq (m : Nat) (e : Int) :
    ((intervalOf m e).value : Rat) = m * 2 ^ e * (intervalOf m e).denominator := by
  show ((4 * m * (Binary64.quotient 1 (e - 2)).1 : Nat) : Rat) = _
  push_cast
  rw [factor_eq m e]
  ring

/-- The upper end of an interval. -/
theorem high_eq (m : Nat) (e : Int) :
    ((intervalOf m e).high : Rat) = (m + 1 / 2) * 2 ^ e * (intervalOf m e).denominator := by
  show (((4 * m + 2) * (Binary64.quotient 1 (e - 2)).1 : Nat) : Rat) = _
  push_cast
  rw [factor_eq m e]
  ring

/-- The lower end of an interval. -/
theorem low_eq (hm : 0 < m) (e : Int) :
    ((intervalOf m e).low : Rat) =
      (m - reach m e) * 2 ^ e * (intervalOf m e).denominator := by
  have hbelow : ((4 * m - (if m = powerOfTwo 52 && -1074 < e then 1 else 2) : Nat) : Rat) =
      4 * (m - reach m e) := by
    have hbinade : (m = powerOfTwo 52 && -1074 < e) = true ↔ m = 2 ^ 52 ∧ -1074 < e := by
      rw [Bool.and_eq_true, decide_eq_true_iff, decide_eq_true_iff]
      rfl
    unfold reach
    by_cases h : m = 2 ^ 52 ∧ -1074 < e
    · rw [if_pos (hbinade.mpr h), if_pos h, Nat.cast_sub (by omega)]
      push_cast
      ring
    · rw [if_neg (mt hbinade.mp h), if_neg h, Nat.cast_sub (by omega)]
      push_cast
      ring
  show (((4 * m - (if m = powerOfTwo 52 && -1074 < e then 1 else 2)) *
    (Binary64.quotient 1 (e - 2)).1 : Nat) : Rat) = _
  rw [Nat.cast_mul, hbelow, factor_eq m e]
  ring

/-- A quotient and a decimal over one denominator. -/
theorem scaled_across {a d : Nat} {x : Rat} (hd : 0 < d) (ha : (a : Rat) = x * d) :
    ∃ c : Rat, 0 < c ∧ ((a * (scaled n k).2 : Nat) : Rat) = x * c ∧
      (((scaled n k).1 * d : Nat) : Rat) = n * 10 ^ k * c := by
  have hq : (0 : Rat) < (scaled n k).2 := by exact_mod_cast scaled_pos n k
  have hd : (0 : Rat) < d := by exact_mod_cast hd
  refine ⟨(scaled n k).2 * d, mul_pos hq hd, ?_, ?_⟩
  · rw [Nat.cast_mul, ha, mul_assoc, mul_comm (d : Rat)]
  · rw [Nat.cast_mul, scaled_eq, mul_assoc]

/-- A quotient is below a decimal if it is so across the denominators. -/
theorem lt_scaled {a d : Nat} {x : Rat} (hd : 0 < d) (ha : (a : Rat) = x * d) :
    a * (scaled n k).2 < (scaled n k).1 * d ↔ x < n * 10 ^ k := by
  obtain ⟨c, hc, hquotient, hdecimal⟩ := scaled_across (n := n) (k := k) hd ha
  rw [← Nat.cast_lt (α := Rat), hquotient, hdecimal, mul_lt_mul_iff_left₀ hc]

/-- A quotient is above a decimal if it is so across the denominators. -/
theorem scaled_lt {a d : Nat} {x : Rat} (hd : 0 < d) (ha : (a : Rat) = x * d) :
    (scaled n k).1 * d < a * (scaled n k).2 ↔ n * 10 ^ k < x := by
  obtain ⟨c, hc, hquotient, hdecimal⟩ := scaled_across (n := n) (k := k) hd ha
  rw [← Nat.cast_lt (α := Rat), hquotient, hdecimal, mul_lt_mul_iff_left₀ hc]

/-- What is found in the interval is rounded to the number. -/
theorem within_of_contains (hm : 0 < m) (h : (intervalOf m e).contains n k = true) :
    Within m e (n * 10 ^ k) := by
  have hlow := lt_scaled (n := n) (k := k) (denominator_pos m e) (low_eq hm e)
  have hhigh := scaled_lt (n := n) (k := k) (denominator_pos m e) (high_eq m e)
  have hbelow := scaled_lt (n := n) (k := k) (denominator_pos m e) (low_eq hm e)
  have habove := lt_scaled (n := n) (k := k) (denominator_pos m e) (high_eq m e)
  unfold Interval.contains at h
  simp only at h
  split at h
  · next hclosed =>
      have heven : m % 2 = 0 := of_decide_eq_true hclosed
      rw [Bool.and_eq_true, decide_eq_true_iff, decide_eq_true_iff, ← not_lt, ← not_lt, hbelow,
        habove, not_lt, not_lt] at h
      exact ⟨h.1, h.2, fun _ => heven⟩
  · rw [Bool.and_eq_true, decide_eq_true_iff, decide_eq_true_iff, hlow, hhigh] at h
    refine ⟨h.1.le, h.2.le, ?_⟩
    rintro (heq | heq)
    · exact absurd heq h.1.ne'
    · exact absurd heq h.2.ne

/-- What lies inside the interval is found in it. -/
theorem contains_of_inside (hm : 0 < m) (hlow : (m - reach m e) * 2 ^ e < n * 10 ^ k)
    (hhigh : (n * 10 ^ k : Rat) < (m + 1 / 2) * 2 ^ e) : (intervalOf m e).contains n k = true := by
  have hlow := (lt_scaled (denominator_pos m e) (low_eq hm e)).mpr hlow
  have hhigh := (scaled_lt (denominator_pos m e) (high_eq m e)).mpr hhigh
  unfold Interval.contains
  simp only
  split
  · exact Bool.and_eq_true_iff.mpr ⟨decide_eq_true hlow.le, decide_eq_true hhigh.le⟩
  · exact Bool.and_eq_true_iff.mpr ⟨decide_eq_true hlow, decide_eq_true hhigh⟩

end Intervals

/-! ## The leading digit -/

section Magnitude

variable {m : Nat} {e : Int}

/-- The bits of the value of an interval. -/
theorem log2_interval (hm : 0 < m) (e : Int) :
    ((Nat.log2 (intervalOf m e).value : Nat) : Int) - Nat.log2 (intervalOf m e).denominator =
      m.log2 + e := by
  obtain ⟨j, hj⟩ : ∃ j : Nat, e - 2 = j ∨ e - 2 = Int.negSucc j := by
    cases e - 2 with
    | ofNat j => exact ⟨j, Or.inl rfl⟩
    | negSucc j => exact ⟨j, Or.inr rfl⟩
  unfold intervalOf
  simp only
  rcases hj with hj | hj
  · rw [hj]
    show ((Nat.log2 (4 * m * (1 * 2 ^ j)) : Nat) : Int) - Nat.log2 1 = m.log2 + e
    have hvalue : 4 * m * (1 * 2 ^ j) = m <<< (j + 2) := by
      rw [Nat.shiftLeft_eq, pow_add]
      ring
    rw [hvalue, Binary64.log2_shift_left hm, show Nat.log2 1 = 0 from rfl]
    omega
  · rw [hj]
    show ((Nat.log2 (4 * m * 1) : Nat) : Int) - Nat.log2 (2 ^ (j + 1)) = m.log2 + e
    have hvalue : 4 * m * 1 = m <<< 2 := by
      rw [Nat.shiftLeft_eq]
      ring
    rw [hvalue, Binary64.log2_shift_left hm, Nat.log2_two_pow]
    omega

/-- The powers of ten grow no faster than the powers of two, at the rate of the first guess. -/
theorem power_guess_le {g l : Int} (hguess : 4096 * g ≤ 1233 * l) (hlow : -1200 ≤ l)
    (hhigh : l ≤ 1200) : (10 : Rat) ^ (g - 2) ≤ 2 ^ l := by
  rcases le_or_gt 0 (g - 2) with hge | hlt
  · -- 10 ^ 3 is below 2 ^ 10.
    refine le_of_pow_le_pow_left₀ (n := 3) (by norm_num) (by positivity) ?_
    calc
      ((10 : Rat) ^ (g - 2)) ^ 3 = (10 ^ 3) ^ (g - 2) := by
        rw [← zpow_natCast, ← zpow_natCast, zpow_comm]
      _ ≤ (2 ^ 10) ^ (g - 2) := zpow_le_zpow_left₀ hge (by norm_num) (by norm_num)
      _ = 2 ^ (10 * (g - 2)) := by rw [zpow_mul]; rfl
      _ ≤ 2 ^ (l * 3) := zpow_le_zpow_right₀ one_le_two (by omega)
      _ = (2 ^ l) ^ 3 := by rw [zpow_mul]; rfl
  · -- 2 ^ 93 is below 10 ^ 28.
    refine le_of_pow_le_pow_left₀ (n := 28) (by norm_num) (by positivity) ?_
    calc
      ((10 : Rat) ^ (g - 2)) ^ 28 = (10 ^ 28) ^ (g - 2) := by
        rw [← zpow_natCast, ← zpow_natCast, zpow_comm]
      _ ≤ (2 ^ 93) ^ (g - 2) := by
        obtain ⟨j, hj⟩ : ∃ j : Nat, g - 2 = -j := ⟨(2 - g).toNat, by omega⟩
        rw [hj, zpow_neg, zpow_neg, zpow_natCast, zpow_natCast]
        exact inv_anti₀ (by positivity) (pow_le_pow_left₀ (by norm_num) (by norm_num) j)
      _ = 2 ^ (93 * (g - 2)) := by rw [zpow_mul]; rfl
      _ ≤ 2 ^ (l * 28) := zpow_le_zpow_right₀ one_le_two (by omega)
      _ = (2 ^ l) ^ 28 := by rw [zpow_mul]; rfl

/-- The power of ten of the leading digit is not above the number. -/
theorem power_magnitude_le (hc : Canonical m e) :
    (10 : Rat) ^ (magnitude (intervalOf m e) - 1) ≤ m * 2 ^ e := by
  have hvalue : (2 : Rat) ^ (m.log2 + e) ≤ m * 2 ^ e := by
    rw [zpow_add₀ two_ne_zero, zpow_natCast]
    have hmantissa : ((2 ^ m.log2 : Nat) : Rat) ≤ m :=
      Nat.cast_le.mpr (Nat.log2_self_le (Nat.ne_of_gt hc.pos))
    push_cast at hmantissa
    exact mul_le_mul_of_nonneg_right hmantissa (by positivity)
  have hbits : m.log2 < 53 := (Nat.log2_lt (Nat.ne_of_gt hc.pos)).mpr hc.small
  have hlow := hc.low
  have hhigh := hc.high
  generalize hguess : (m.log2 + e) * 1233 / 4096 = guess
  have hfirst : (10 : Rat) ^ (guess - 2) ≤ m * 2 ^ e :=
    (power_guess_le (by omega) (by omega) (by omega)).trans hvalue
  have hnext {k point : Int} (h : decide ((intervalOf m e).value * (scaled 1 k).2 <
      (scaled 1 k).1 * (intervalOf m e).denominator) = false) (hpoint : point - 1 = k) :
      (10 : Rat) ^ (point - 1) ≤ m * 2 ^ e := by
    have h := of_decide_eq_false h
    rw [lt_scaled (denominator_pos m e) (value_eq m e), not_lt] at h
    rw [hpoint]
    simpa using h
  unfold magnitude
  simp only [log2_interval hc.pos, hguess, List.find?_cons]
  -- The candidate in front of the one that is taken was too small.
  split
  · rwa [Option.getD_some, show guess - 1 - 1 = guess - 2 by omega]
  · next hbefore =>
      split
      · rw [Option.getD_some]
        exact hnext hbefore rfl
      · next hbefore =>
          split
          · rw [Option.getD_some]
            exact hnext hbefore (by omega)
          · next hbefore =>
              split
              · rw [Option.getD_some]
                exact hnext hbefore (by omega)
              · next hbefore =>
                  rw [List.find?_nil, Option.getD_none]
                  exact hnext hbefore (by omega)

end Magnitude

/-! ## Grids -/

section Grids

variable {tie : Tie} {m n : Nat} {e k : Int}

/-- Rounding moves a quotient by no more than a half. -/
theorem round_quotient_near (tie : Tie) (n : Nat) {d : Nat} (hd : 0 < d) :
    (n / d : Rat) - 1 / 2 ≤ roundQuotient tie n d ∧
      roundQuotient tie n d ≤ (n / d : Rat) + 1 / 2 := by
  have hdivision := Nat.div_add_mod n d
  have hless := Nat.mod_lt n hd
  have hnear : 2 * n ≤ 2 * d * roundQuotient tie n d + d ∧
      2 * d * roundQuotient tie n d ≤ 2 * n + d := by
    unfold roundQuotient
    have hdouble : 2 * n = 2 * d * (n / d) + 2 * (n % d) := by
      rw [Nat.mul_assoc, ← Nat.mul_add, hdivision]
    generalize n / d = whole at hdouble
    generalize n % d = rest at hdouble hless
    have hnext : 2 * d * (whole + 1) = 2 * d * whole + 2 * d := Nat.mul_succ _ _
    simp only
    split
    · omega
    · split
      · omega
      · cases tie with
        | up =>
            simp only
            omega
        | toEven =>
            simp only
            split
            · omega
            · omega
  have hpos : (0 : Rat) < d := by exact_mod_cast hd
  have hlow : (2 * n : Rat) ≤ 2 * d * roundQuotient tie n d + d := by exact_mod_cast hnear.1
  have hhigh : (2 * d * roundQuotient tie n d : Rat) ≤ 2 * n + d := by exact_mod_cast hnear.2
  constructor
  · rw [sub_le_iff_le_add, div_le_iff₀ hpos]
    linarith
  · rw [← sub_le_iff_le_add, le_div_iff₀ hpos]
    linarith

/-- What is found on a grid lies in the interval. -/
theorem contains_of_on_grid {i : Interval} (h : onGrid? tie i k = some n) :
    i.contains n k = true := by
  unfold onGrid? at h
  simp only at h
  generalize roundQuotient tie _ _ = nearest at h
  generalize (if nearest = _ then _ else _) = other at h
  split at h
  · next hnearest =>
      cases h
      exact hnearest
  · split at h
    · next hother =>
        cases h
        exact hother
    · cases h

/-- Where a grid has sixteen digits in front of its last place, half a step of it is shorter than
the way to either end of the interval. -/
theorem half_step_lt (hc : Canonical m e) (hstep : (10 : Rat) ^ k * 10 ^ 16 ≤ m * 2 ^ e) :
    (10 : Rat) ^ k / 2 < reach m e * 2 ^ e ∧ (10 : Rat) ^ k / 2 < 1 / 2 * 2 ^ e := by
  have hpos : (0 : Rat) < 2 ^ e := by positivity
  have hmantissa := hc.mantissa_le
  have hreach : (m : Rat) < 2 * reach m e * 10 ^ 16 := by
    unfold reach
    split
    · next hbinade =>
        rw [hbinade.1]
        norm_num
    · linarith
  constructor
  · have hscaled := mul_lt_mul_of_pos_right hreach hpos
    linarith
  · have hscaled : (m : Rat) * 2 ^ e < 10 ^ 16 * 2 ^ e :=
      mul_lt_mul_of_pos_right (by linarith) hpos
    linarith

/-- The nearest point of a grid is at most half a step away. -/
theorem nearest_on_grid (tie : Tie) (m : Nat) (e k : Int) :
    (m * 2 ^ e : Rat) - 10 ^ k / 2 ≤
        roundQuotient tie ((intervalOf m e).value * (scaled 1 k).2)
          ((intervalOf m e).denominator * (scaled 1 k).1) * 10 ^ k ∧
      roundQuotient tie ((intervalOf m e).value * (scaled 1 k).2)
          ((intervalOf m e).denominator * (scaled 1 k).1) * 10 ^ k ≤
        (m * 2 ^ e : Rat) + 10 ^ k / 2 := by
  have hgrid : (0 : Rat) < 10 ^ k := by positivity
  have hscale : ((scaled 1 k).1 : Rat) = 10 ^ k * (scaled 1 k).2 := by
    rw [scaled_eq, Nat.cast_one, one_mul]
  have hp : (0 : Rat) < (scaled 1 k).2 := by exact_mod_cast scaled_pos 1 k
  have hd : (0 : Rat) < (intervalOf m e).denominator := by exact_mod_cast denominator_pos m e
  have hdenominator : 0 < (intervalOf m e).denominator * (scaled 1 k).1 := by
    have hpositive : (0 : Rat) < (intervalOf m e).denominator * (scaled 1 k).1 := by
      rw [hscale]
      positivity
    exact_mod_cast hpositive
  have hquotient : (((intervalOf m e).value * (scaled 1 k).2 : Nat) : Rat) /
      ((intervalOf m e).denominator * (scaled 1 k).1 : Nat) = m * 2 ^ e / 10 ^ k := by
    push_cast
    rw [value_eq, hscale, div_eq_div_iff (by positivity) hgrid.ne']
    ring
  obtain ⟨hfirst, hlast⟩ :=
    round_quotient_near tie ((intervalOf m e).value * (scaled 1 k).2) hdenominator
  rw [hquotient, sub_le_iff_le_add, div_le_iff₀ hgrid] at hfirst
  rw [hquotient, ← sub_le_iff_le_add, le_div_iff₀ hgrid] at hlast
  constructor
  · linarith
  · linarith

/-- Seventeen digits are enough. -/
theorem on_grid_seventeen (tie : Tie) (hc : Canonical m e) :
    ∃ n, onGrid? tie (intervalOf m e) (magnitude (intervalOf m e) - 17) = some n := by
  have hlead := power_magnitude_le hc
  generalize magnitude (intervalOf m e) = point at hlead
  generalize hexponent : point - 17 = k
  have hstep : (10 : Rat) ^ k * 10 ^ 16 ≤ m * 2 ^ e := by
    rw [← zpow_natCast, ← zpow_add₀ (by norm_num)]
    convert hlead using 2
    push_cast
    omega
  -- the nearest point of the grid is less than the way to either end from the number
  obtain ⟨hlow, hhigh⟩ := half_step_lt hc hstep
  obtain ⟨hfirst, hlast⟩ := nearest_on_grid tie m e k
  have hinside := contains_of_inside (e := e) hc.pos (lt_of_lt_of_le (by linarith) hfirst)
    (lt_of_le_of_lt hlast (by linarith))
  exact ⟨_, if_pos hinside⟩

end Grids

/-! ## The shortest decimal -/

/-- Taking zeros off the digits changes neither the value nor whether there are digits. -/
theorem strip_spec (fuel : Nat) (x : Decimal) (h : x.digits ≠ 0) :
    (strip fuel x).digits ≠ 0 ∧ (strip fuel x).value = x.value := by
  induction fuel generalizing x with
  | zero => exact ⟨h, rfl⟩
  | succ fuel ih =>
      unfold strip
      split
      · next hzero =>
          have hlast : x.digits % 10 = 0 := by simp_all
          have hten : x.digits = x.digits / 10 * 10 := by omega
          obtain ⟨hdigits, hvalue⟩ := ih ⟨x.digits / 10, x.exponent + 1⟩ (by
            show x.digits / 10 ≠ 0
            omega)
          refine ⟨hdigits, hvalue.trans ?_⟩
          show ((x.digits / 10 : Nat) * 10 ^ (x.exponent + 1) : Rat) = x.digits * 10 ^ x.exponent
          have hcast : (x.digits : Rat) = (x.digits / 10 : Nat) * 10 := by exact_mod_cast hten
          rw [zpow_add_one₀ (by norm_num), hcast]
          ring
      · exact ⟨h, rfl⟩

/-- The shortest decimal of a positive number is rounded to the number. -/
theorem shortest_within (tie : Tie) {m : Nat} {e : Int} (hc : Canonical m e) :
    (shortest tie m e).digits ≠ 0 ∧ Within m e (shortest tie m e).value := by
  obtain ⟨last, hlast⟩ := on_grid_seventeen tie hc
  unfold shortest
  rw [if_neg (Nat.ne_of_gt hc.pos)]
  simp only
  generalize hfound : List.findSome? _ _ = found
  cases found with
  | none =>
      have hnone := List.findSome?_eq_none_iff.mp hfound 16 (by decide)
      rw [show ((16 : Nat) : Int) + 1 = 17 from rfl, hlast] at hnone
      cases hnone
  | some x =>
      obtain ⟨digits, -, hsome⟩ := List.exists_of_findSome?_eq_some hfound
      obtain ⟨n, hn, rfl⟩ := Option.map_eq_some_iff.mp hsome
      have hwithin := within_of_contains hc.pos (contains_of_on_grid hn)
      -- zero lies below the interval of a positive number
      have hdigits : n ≠ 0 := by
        rintro rfl
        have hlow := hwithin.low_bound hc
        rw [Nat.cast_zero, zero_mul] at hlow
        exact absurd hlow (not_le.mpr (by positivity))
      obtain ⟨hstripped, hvalue⟩ := strip_spec 20 ⟨n, _⟩ hdigits
      exact ⟨hstripped, hvalue ▸ hwithin⟩

end CallProfile.Number.Decimal

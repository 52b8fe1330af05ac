import CallProfile.Proofs.Latency.Box
import CallProfile.Proofs.Number.Arithmetic

/-!
# Whiskers in binary64

Where the whiskers of samples end, as the program computes them. Neither rounding nor overflow lets
a search for a whisker come back empty: a quartile lies between the samples around its position
(`quartile_float`), the quartiles are in order (`quartile_float_mono`), and so samples lie within
the fences (`fences_float`). A whisker is a sample, though, and a quartile need not be one. So a
whisker leaves the box exactly if a sample stands between its fence and the box
(`whiskers_leave_box_iff`), and for some samples none does (`whisker_inside_box`).
-/

namespace CallProfile

open Number (Scalar)
open Number.Binary64

/-! ## Samples -/

/-- A number that a duration can be: finite and not negative. -/
def IsSample (v : Float) : Prop :=
  v.isFinite = true ∧ 0 ≤ v

instance (v : Float) : Decidable (IsSample v) :=
  inferInstanceAs (Decidable (_ ∧ _))

/-- A sample is at most itself. -/
theorem IsSample.refl {v : Float} (h : IsSample v) : v ≤ v := by
  obtain ⟨a, ha⟩ := exists_holds h.1 h.2
  exact (ha.le_iff ha).mpr (le_refl a)

/-- The nanoseconds of a millisecond are exact. -/
theorem Record.holds_nanos_per_ms : Holds (Float.ofNat nanosPerMs) 1000000 := by
  have hmillion : parts (Float.ofNat nanosPerMs) =
      .finite .positive (1000000 * 2 ^ 33) (-33) (by decide) := rfl
  exact holds_of_parts hmillion (by constructor <;> norm_num) (by norm_num)

/-- Every duration is a sample. -/
theorem Record.is_sample_duration {r : Record} (h : r.durationNs.getD 0 < Number.powerOfTwo 64) :
    IsSample (r.durationMs Float) := by
  obtain ⟨a, ha⟩ := exists_holds_of_nat h
  have hnonneg := ha.nonneg
  have hless : a / 1000000 ≤ a := by linarith
  obtain ⟨b, hb, -⟩ := (ha.div holds_nanos_per_ms (by norm_num)).at_most ha hless
  exact Holds.finite_nonneg hb

namespace Latency

/-- Sorted samples are in order. -/
theorem pairwise_sorted_float {samples : List Float} (h : ∀ v ∈ samples, IsSample v) :
    (sortedSamples samples).Pairwise (· ≤ ·) := by
  have hsorted := List.pairwise_mergeSort Scalar.float_precedes_trans Scalar.float_precedes_total
    samples
  refine hsorted.imp_of_mem fun {v w} hv hw hprecedes => ?_
  obtain ⟨hfinite, hlow⟩ := h v (List.mem_mergeSort.mp hv)
  obtain ⟨hfinite', hlow'⟩ := h w (List.mem_mergeSort.mp hw)
  exact le_of_precedes hfinite hlow hfinite' hlow' hprecedes

/-- The part of the way to the next sample is exact. -/
theorem holds_part (position : Nat) :
    Holds (Scalar.ofNat (position % 4) / Scalar.ofNat 4 : Float) ((position % 4 : Nat) / 4) := by
  have hquarter : parts (Float.ofNat 1 / Float.ofNat 4) =
      .finite .positive (2 ^ 52) (-54) (by decide) := rfl
  have hhalf : parts (Float.ofNat 2 / Float.ofNat 4) =
      .finite .positive (2 ^ 52) (-53) (by decide) := rfl
  have hmost : parts (Float.ofNat 3 / Float.ofNat 4) =
      .finite .positive (3 * 2 ^ 51) (-53) (by decide) := rfl
  have hless := Nat.mod_lt position (show 0 < 4 by decide)
  generalize position % 4 = rest at hless
  rcases (by omega : rest = 0 ∨ rest = 1 ∨ rest = 2 ∨ rest = 3) with rfl | rfl | rfl | rfl
  · rw [Nat.cast_zero, zero_div]
    exact .zero .positive
  · exact holds_of_parts hquarter (by constructor <;> norm_num) (by norm_num)
  · exact holds_of_parts hhalf (by constructor <;> norm_num) (by norm_num)
  · exact holds_of_parts hmost (by constructor <;> norm_num) (by norm_num)

/-- The part of the way is three quarters at most. -/
theorem part_le (position : Nat) : ((position % 4 : Nat) / 4 : Rat) ≤ 3 / 4 := by
  have hle : ((position % 4 : Nat) : Rat) ≤ 3 := by
    exact_mod_cast Nat.le_of_lt_succ (Nat.mod_lt position (by decide))
  linarith

/-! ## Quartiles -/

section Samples

variable {sorted : List Float} {quarters : Nat}

/-- A quartile lies between the samples around its position. -/
theorem quartile_float (hsorted : sorted.Pairwise (· ≤ ·)) (h : ∀ v ∈ sorted, IsSample v)
    (hne : sorted ≠ []) (hquarters : quarters ≤ 4) :
    ∃ a q b, Holds (below sorted quarters) a ∧ Holds (quartile sorted quarters) q ∧
      Holds (above sorted quarters) b ∧ a ≤ q ∧ q ≤ b := by
  obtain ⟨hbelow, habove⟩ := around_mem hne hquarters
  obtain ⟨a, ha⟩ := exists_holds (h _ hbelow).1 (h _ hbelow).2
  obtain ⟨b, hb⟩ := exists_holds (h _ habove).1 (h _ habove).2
  have hle := (ha.le_iff hb).mp
    (below_before_above hsorted (fun v hv => (h v hv).refl) hne hquarters)
  obtain ⟨q, hq, haq, hqb⟩ := ha.interpolate hb hle (holds_part _) (part_le _)
  exact ⟨a, q, b, ha, hq, hb, haq, hqb⟩

/-- The first quartile is at most the third one. -/
theorem quartile_float_mono (hsorted : sorted.Pairwise (· ≤ ·)) (h : ∀ v ∈ sorted, IsSample v)
    (hne : sorted ≠ []) : quartile sorted 1 ≤ quartile sorted 3 := by
  have hrefl : ∀ v ∈ sorted, v ≤ v := fun v hv => (h v hv).refl
  obtain ⟨a, q, b, ha, hq, hb, haq, hqb⟩ := quartile_float hsorted h hne (show 1 ≤ 4 by decide)
  obtain ⟨c, r, d, hc, hr, -, hcr, -⟩ := quartile_float hsorted h hne (show 3 ≤ 4 by decide)
  by_cases htwo : sorted.length = 2
  · -- both positions are on the way from one sample to the other
    have hmono := ha.interpolate_mono hb (haq.trans hqb) (holds_part 1) (holds_part 3)
      (by norm_num) (part_le 3)
    have hfirst : quartile sorted 1 = below sorted 1 + (above sorted 1 - below sorted 1) *
        (Scalar.ofNat (1 % 4) / Scalar.ofNat 4) := by
      simp only [quartile, below, above, htwo]
    have hthird : quartile sorted 3 = below sorted 1 + (above sorted 1 - below sorted 1) *
        (Scalar.ofNat (3 % 4) / Scalar.ofNat 4) := by
      simp only [quartile, below, above, htwo]
    rw [hfirst, hthird]
    exact hmono
  · have hbetween := (hb.le_iff hc).mp (above_before_below hsorted hrefl hne htwo)
    exact (hq.le_iff hr).mpr (hqb.trans (hbetween.trans hcr))

/-! ## Fences -/

/-- The factor of the reach is exact. -/
theorem holds_three_halves : Holds 1.5 (3 / 2) := by
  have hfactor : parts 1.5 = .finite .positive (3 * 2 ^ 51) (-52) (by decide) := rfl
  exact holds_of_parts hfactor (by constructor <;> norm_num) (by norm_num)

/-- The reach of whiskers is not negative, or beyond the range. -/
theorem reach_float {x y : Float} {a b : Rat} (hx : Holds x a) (hy : Holds y b) (hle : a ≤ b) :
    (∃ r, Holds (1.5 * (y - x)) r) ∨ parts (1.5 * (y - x)) = .infinity .positive := by
  have hnonneg := hx.nonneg
  obtain ⟨d, hd, -⟩ := (hy.sub hx hle).at_most hy (by linarith)
  exact (holds_three_halves.mul hd).cases

/-- The sample above the first quartile and the one below the third lie within the fences. -/
theorem fences_float (hsorted : sorted.Pairwise (· ≤ ·)) (h : ∀ v ∈ sorted, IsSample v)
    (hne : sorted ≠ []) :
    lowFence sorted ≤ above sorted 1 ∧ below sorted 3 ≤ highFence sorted := by
  obtain ⟨a, q, b, -, hq, hb, -, hqb⟩ := quartile_float hsorted h hne (show 1 ≤ 4 by decide)
  obtain ⟨c, r, d, hc, hr, -, hcr, -⟩ := quartile_float hsorted h hne (show 3 ≤ 4 by decide)
  have hle := (hq.le_iff hr).mp (quartile_float_mono hsorted h hne)
  rcases reach_float hq hr hle with ⟨reach, hreach⟩ | hover
  · exact ⟨hq.sub_le (Or.inl hreach) hb hqb, hr.le_add (Or.inl hreach) hc hcr⟩
  · -- what is beyond the range is compared with anything
    exact ⟨hq.sub_le (b := 0) (Or.inr hover) hb hqb, hr.le_add (b := 0) (Or.inr hover) hc hcr⟩

/-- The search for the lower whisker finds the first sample that is not below the fence. -/
theorem search_low_float (hsorted : sorted.Pairwise (· ≤ ·)) (h : ∀ v ∈ sorted, IsSample v)
    (hne : sorted ≠ []) :
    ∃ w ∈ sorted, searchLow sorted = some w ∧ lowFence sorted ≤ w ∧
      ∀ u ∈ sorted, lowFence sorted ≤ u → w ≤ u := by
  obtain ⟨w, hw, hfound, hmatches, hfirst⟩ := find_first hsorted
    (Scalar.atMost (lowFence sorted) ·) (around_mem hne (show 1 ≤ 4 by decide)).2
    (decide_eq_true (fences_float hsorted h hne).1)
  refine ⟨w, hw, hfound, of_decide_eq_true hmatches, fun u hu hle => ?_⟩
  rcases hfirst u hu (decide_eq_true hle) with rfl | hbefore
  · exact (h u hu).refl
  · exact hbefore

/-- The search for the upper whisker finds the last sample that is not above the fence. -/
theorem search_high_float (hsorted : sorted.Pairwise (· ≤ ·)) (h : ∀ v ∈ sorted, IsSample v)
    (hne : sorted ≠ []) :
    ∃ w ∈ sorted, searchHigh sorted = some w ∧ w ≤ highFence sorted ∧
      ∀ u ∈ sorted, u ≤ highFence sorted → u ≤ w := by
  obtain ⟨w, hw, hfound, hmatches, hlast⟩ := find_first (List.pairwise_reverse.mpr hsorted)
    (Scalar.atMost · (highFence sorted))
    (List.mem_reverse.mpr (around_mem hne (show 3 ≤ 4 by decide)).1)
    (decide_eq_true (fences_float hsorted h hne).2)
  refine ⟨w, List.mem_reverse.mp hw, hfound, of_decide_eq_true hmatches, fun u hu hle => ?_⟩
  rcases hlast u (List.mem_reverse.mpr hu) (decide_eq_true hle) with rfl | hbefore
  · exact (h u hu).refl
  · exact hbefore

end Samples

/-! ## Ends of whiskers -/

/-- Every duration is a sample, and for samples a whisker leaves the box exactly if a sample lies
between its fence and the box. -/
theorem whiskers_leave_box_iff :
    (∀ records : List Record, (∀ r ∈ records, r.durationNs.getD 0 < Number.powerOfTwo 64) →
      ∀ v ∈ records.map (Record.durationMs Float), IsSample v) ∧
    ∀ (event : String) (samples : List Float), samples ≠ [] → (∀ v ∈ samples, IsSample v) →
      ∃ s, ofSamples? event samples = some s ∧
        (s.whiskerLow ≤ s.q1 ↔
          ∃ v ∈ samples, s.q1 - 1.5 * (s.q3 - s.q1) ≤ v ∧ v ≤ s.q1) ∧
        (s.q3 ≤ s.whiskerHigh ↔
          ∃ v ∈ samples, s.q3 ≤ v ∧ v ≤ s.q3 + 1.5 * (s.q3 - s.q1)) := by
  refine ⟨fun records h v hv => ?durations, fun event samples hne h => ?samples⟩
  case durations =>
    obtain ⟨r, hr, rfl⟩ := List.mem_map.mp hv
    exact Record.is_sample_duration (h r hr)
  case samples =>
    obtain ⟨s, hs, hdescribes⟩ := of_samples_describes event hne
    have hsorted := pairwise_sorted_float h
    have hne' := sorted_ne_nil hne
    have hmem : ∀ v, v ∈ sortedSamples samples ↔ v ∈ samples := fun v => List.mem_mergeSort
    have h' : ∀ v ∈ sortedSamples samples, IsSample v := fun v hv => h v ((hmem v).mp hv)
    obtain ⟨-, q, -, -, hq, -⟩ := quartile_float hsorted h' hne' (show 1 ≤ 4 by decide)
    obtain ⟨-, r, -, -, hr, -⟩ := quartile_float hsorted h' hne' (show 3 ≤ 4 by decide)
    obtain ⟨low, hlow, hsearch, hfence, hfirst⟩ := search_low_float hsorted h' hne'
    obtain ⟨high, hhigh, hsearch', hfence', hlast⟩ := search_high_float hsorted h' hne'
    obtain ⟨a, ha⟩ := exists_holds (h' low hlow).1 (h' low hlow).2
    obtain ⟨b, hb⟩ := exists_holds (h' high hhigh).1 (h' high hhigh).2
    refine ⟨s, hs, ?_⟩
    rw [hdescribes.q1, hdescribes.q3, hdescribes.whiskerLow, hdescribes.whiskerHigh, hsearch,
      hsearch', Option.getD_some, Option.getD_some]
    refine ⟨⟨fun hle => ⟨low, (hmem low).mp hlow, hfence, hle⟩, ?low⟩,
      ⟨fun hle => ⟨high, (hmem high).mp hhigh, hle, hfence'⟩, ?high⟩⟩
    case low =>
      rintro ⟨v, hv, hwithin, hle⟩
      obtain ⟨c, hc⟩ := exists_holds (h v hv).1 (h v hv).2
      exact ha.le_trans hc hq (hfirst v ((hmem v).mpr hv) hwithin) hle
    case high =>
      rintro ⟨v, hv, hle, hwithin⟩
      obtain ⟨c, hc⟩ := exists_holds (h v hv).1 (h v hv).2
      exact hr.le_trans hc hb hle (hlast v ((hmem v).mpr hv) hwithin)

/-- Calls whose durations lie apart. -/
def spreadCalls : List Record :=
  [1000000, 2000000, 3000000, 4000000, 90000000].map fun ns =>
    ⟨0, 1, "Seq", some ns, none, [], false⟩

/-- The durations in milliseconds. -/
def spread : List Float :=
  spreadCalls.map (Record.durationMs Float)

/-- The samples are in order. -/
theorem sorted_spread : sortedSamples spread = spread :=
  List.mergeSort_of_pairwise (by decide +kernel)

/-- The whiskers of samples that lie apart leave the box, and the upper one ends below the greatest
sample. -/
theorem spread_whiskers :
    (∀ r ∈ spreadCalls, r.durationNs.getD 0 < Number.powerOfTwo 64) ∧
      (∀ v ∈ spread, IsSample v) ∧ spread ≠ [] ∧
      ∃ s, ofSamples? "Seq" spread = some s ∧ s.whiskerLow ≤ s.q1 ∧ s.q3 ≤ s.whiskerHigh ∧
        ¬s.max ≤ s.whiskerHigh := by
  have hbounded : ∀ r ∈ spreadCalls, r.durationNs.getD 0 < Number.powerOfTwo 64 := by decide
  have hne : spread ≠ [] := List.cons_ne_nil _ _
  obtain ⟨hdurations, hsamples⟩ := whiskers_leave_box_iff
  have hspread : ∀ v ∈ spread, IsSample v := hdurations spreadCalls hbounded
  obtain ⟨s, hs, hlow, hhigh⟩ := hsamples "Seq" spread hne hspread
  have hvalues : (ofSamples? "Seq" spread).all fun s => decide
      ((∃ v ∈ spread, s.q1 - 1.5 * (s.q3 - s.q1) ≤ v ∧ v ≤ s.q1) ∧
        (∃ v ∈ spread, s.q3 ≤ v ∧ v ≤ s.q3 + 1.5 * (s.q3 - s.q1)) ∧
        ¬s.max ≤ s.whiskerHigh) := by
    simp only [ofSamples?, sorted_spread]
    decide +kernel
  rw [hs] at hvalues
  obtain ⟨hwithin, hwithin', houtlier⟩ := of_decide_eq_true hvalues
  exact ⟨hbounded, hspread, hne, s, hs, hlow.mpr hwithin, hhigh.mpr hwithin', houtlier⟩

/-- Samples of which all but one are alike. -/
def crowded : List Float :=
  [0, 100, 100, 100]

/-- The samples are in order. -/
theorem sorted_crowded : sortedSamples crowded = crowded :=
  List.mergeSort_of_pairwise (by decide +kernel)

/-- The lower whisker of samples that are mostly alike ends inside the box. -/
theorem whisker_inside_box :
    (∀ v ∈ crowded, IsSample v) ∧ crowded ≠ [] ∧
      ∃ s, ofSamples? "Seq" crowded = some s ∧ ¬s.whiskerLow ≤ s.q1 := by
  have hne : crowded ≠ [] := List.cons_ne_nil _ _
  obtain ⟨s, hs, -⟩ := of_samples_describes "Seq" hne
  have hinside : (ofSamples? "Seq" crowded).all fun s => decide (¬s.whiskerLow ≤ s.q1) := by
    simp only [ofSamples?, sorted_crowded]
    decide +kernel
  rw [hs] at hinside
  exact ⟨by decide +kernel, hne, s, hs, of_decide_eq_true hinside⟩

end Latency

end CallProfile

import CallProfile.Proofs.Latency.Whiskers
import CallProfile.Proofs.Number.Unsigned

/-!
# The upper half of samples in binary64

How far the samples around the median reach beyond the upper whisker. The sample above the median is
at most the one below the third quartile, which the whisker reaches, unless there are just two
samples (`above_median_le`). Of two samples the greater one can be behind the whisker, since each
step from them to the fence is rounded. Then they are close to each other: with a tenth between
them, the errors of the steps together are less than what the fence leaves (`le_high_fence`).
-/

namespace CallProfile

open Number (Scalar)
open Number.Binary64

/-! ## Durations -/

/-- A number that a duration in milliseconds can be: zero, or with all its bits. -/
def IsDuration (v : Float) : Prop :=
  ∃ a, Holds v a ∧ (a = 0 ∨ 2 ^ (-20 : Int) ≤ a)

/-- A duration is a sample. -/
theorem IsDuration.is_sample {v : Float} (h : IsDuration v) : IsSample v := by
  obtain ⟨a, ha, -⟩ := h
  exact Holds.finite_nonneg ha

/-- The durations of records are durations. -/
theorem Record.is_duration {r : Record} (h : r.durationNs.getD 0 < Number.powerOfTwo 64) :
    IsDuration (r.durationMs Float) := by
  show IsDuration (Float.ofNat (r.durationNs.getD 0) / Float.ofNat nanosPerMs)
  generalize r.durationNs.getD 0 = ns at h
  rcases Nat.eq_zero_or_pos ns with rfl | hpos
  · have hzero : Holds (Float.ofNat 0) 0 := .zero .positive
    obtain ⟨a, ha, hle⟩ := (hzero.div holds_nanos_per_ms (by norm_num)).at_most hzero (by norm_num)
    exact ⟨a, ha, Or.inl (le_antisymm hle ha.nonneg)⟩
  · -- a nanosecond is a little more than the twentieth power of a half
    obtain ⟨a, ha, hone⟩ := exists_holds_of_count hpos h
    have hleast : Stands (.finite .positive (2 ^ 52) (-72) (by decide))
        ((2 ^ 52 : Nat) * 2 ^ (-72 : Int)) := .finite (by constructor <;> norm_num)
    have hrounded := ha.div holds_nanos_per_ms (by norm_num)
    obtain ⟨b, hb, -⟩ := hrounded.at_most ha (by linarith)
    refine ⟨b, hb, Or.inr ?_⟩
    have hvalue := hrounded.at_least hleast (by norm_num; linarith) hb
    norm_num at hvalue ⊢
    exact hvalue

/-! ## Two samples that lie apart -/

namespace Latency

section Pairs

variable {x y : Float} {a b : Rat}

/-- The outer quartiles of two samples are on the way from one to the other. -/
theorem quartile_pair (x y : Float) :
    quartile [x, y] 1 = x + (y - x) * (Scalar.ofNat (1 % 4) / Scalar.ofNat 4) ∧
      quartile [x, y] 3 = x + (y - x) * (Scalar.ofNat (3 % 4) / Scalar.ofNat 4) := by
  constructor <;> simp [quartile]

/-- The greater of two samples is within the fence if it is more than a tenth above the other. -/
theorem le_high_fence (hx : Holds x a) (hy : Holds y b)
    (hleast : 2 ^ (-1021 : Int) ≤ b) (hapart : 11 / 10 * a < b) : y ≤ highFence [x, y] := by
  have hnonneg := hx.nonneg
  obtain ⟨e, he, hlow, hhigh⟩ := Stands.exists_leading hy hleast
  have hunit : (0 : Rat) < 2 ^ e := by positivity
  have hbits : (2 : Rat) ^ (52 + e) = 2 ^ 52 * 2 ^ e := zpow_add₀ two_ne_zero _ _
  have hnext : (2 : Rat) ^ (e + 1) = 2 ^ e * 2 := zpow_add_one₀ two_ne_zero _
  have hrange : (2 : Rat) ^ (53 + (e + 1)) = 2 ^ (53 + e) * 2 := by
    rw [← add_assoc, zpow_add_one₀ two_ne_zero]
  obtain ⟨q, hq, -, hfirst⟩ :=
    hx.interpolate_near hy (by linarith) (holds_part 1) (part_le 1) hhigh he
  obtain ⟨r, hr, hrb, hthird⟩ :=
    hx.interpolate_near hy (by linarith) (holds_part 3) (part_le 3) hhigh he
  rw [← (quartile_pair x y).1] at hq
  rw [← (quartile_pair x y).2] at hr
  norm_num [abs_le] at hfirst hthird
  -- apart from the errors the fence is half the difference above the greater sample
  rw [highFence]
  have hbox : q ≤ r := by linarith
  have hheight := hr.sub hq hbox
  have hpositive := hq.nonneg
  obtain ⟨h, hh, hhr⟩ := hheight.at_most hr (by linarith)
  have hnear := abs_le.mp (hheight.near hh (by linarith) he)
  have hreach := holds_three_halves.mul hh
  rcases hreach.cases with ⟨reach, hvalue⟩ | hover
  · have hlast := abs_le.mp (hreach.near hvalue (e := e + 1) (by linarith) (by omega))
    exact IsRounded.le (Stands.rounded hy) (hr.add hvalue) (by linarith)
  · exact (Reaches.le_iff (.value hy) (Reaches.add_infinity (.value hr) hover)).mpr le_top

/-- The greater of two durations is at most a tenth above the upper whisker. -/
theorem greater_le {w : Float} {c : Rat} (hsorted : [x, y].Pairwise (· ≤ ·))
    (h : ∀ v ∈ [x, y], IsDuration v) (hsearch : searchHigh [x, y] = some w) (hw : Holds w c) :
    ∃ b, Holds y b ∧ b ≤ 11 / 10 * c := by
  obtain ⟨last, hmem, hfound, -, hlast⟩ :=
    search_high_float hsorted (fun v hv => (h v hv).is_sample) (List.cons_ne_nil _ _)
  obtain rfl : last = w := Option.some.inj (hfound.symm.trans hsearch)
  obtain ⟨a, hx, -⟩ := h x (by simp)
  obtain ⟨b, hy, hbits⟩ := h y (by simp)
  have hleast := hx.nonneg
  have hnonneg := hw.nonneg
  refine ⟨b, hy, ?_⟩
  rcases lt_or_ge (11 / 10 * a) b with hapart | hclose
  · -- the whisker reaches the greater sample
    have hnormal : (2 : Rat) ^ (-1021 : Int) ≤ 2 ^ (-20 : Int) :=
      zpow_le_zpow_right₀ one_le_two (by norm_num)
    have hfence := le_high_fence hx hy (hnormal.trans (hbits.resolve_left (by linarith))) hapart
    have hle := (hy.le_iff hw).mp (hlast y (by simp) hfence)
    linarith
  · -- the whisker ends at one of the two
    rcases List.mem_pair.mp hmem with rfl | rfl
    · rwa [Stands.unique hw hx]
    · rw [Stands.unique hw hy]
      linarith [hy.nonneg]

end Pairs

/-! ## The sample above the median -/

variable {sorted : List Float} {w : Float} {c : Rat}

/-- The sample above the median is at most a tenth above the upper whisker. -/
theorem above_median_le (hsorted : sorted.Pairwise (· ≤ ·)) (h : ∀ v ∈ sorted, IsDuration v)
    (hne : sorted ≠ []) (hsearch : searchHigh sorted = some w) (hw : Holds w c) :
    ∃ b, Holds (above sorted 2) b ∧ b ≤ 11 / 10 * c := by
  by_cases htwo : sorted.length = 2
  · obtain ⟨x, y, rfl⟩ := List.length_eq_two.mp htwo
    have habove : above [x, y] 2 = y := by simp [above]
    rw [habove]
    exact greater_le hsorted h hsearch hw
  · -- the sample above the median is at most the one below the third quartile
    have hsamples : ∀ v ∈ sorted, IsSample v := fun v hv => (h v hv).is_sample
    have hpos := List.length_pos_iff.mpr hne
    have hnonneg := hw.nonneg
    obtain ⟨last, -, hfound, -, hlast⟩ := search_high_float hsorted hsamples hne
    obtain rfl : last = w := Option.some.inj (hfound.symm.trans hsearch)
    obtain ⟨b, hb, -⟩ := h _ (around_mem hne (show 2 ≤ 4 by decide)).2
    obtain ⟨d, hd, -⟩ := h _ (around_mem hne (show 3 ≤ 4 by decide)).1
    have hbelow : above sorted 2 ≤ below sorted 3 :=
      ordered_getD hsorted (fun v hv => (hsamples v hv).refl) (by omega)
        (position_lt hpos (by decide)).1 _
    have hreached : below sorted 3 ≤ last :=
      hlast _ (around_mem hne (by decide)).1 (fences_float hsorted hsamples hne).2
    have hle := (hb.le_iff hw).mp (hb.le_trans hd hw hbelow hreached)
    exact ⟨b, hb, by linarith⟩

/-- The quartiles up to the median are at most the sample above the median. -/
theorem quartile_le_above_median {quarters : Nat} {b : Rat} (hsorted : sorted.Pairwise (· ≤ ·))
    (h : ∀ v ∈ sorted, IsSample v) (hne : sorted ≠ []) (hquarters : quarters ≤ 2)
    (hb : Holds (above sorted 2) b) : ∃ q, Holds (quartile sorted quarters) q ∧ q ≤ b := by
  have hpos := List.length_pos_iff.mpr hne
  have hle : quarters * (sorted.length - 1) ≤ 2 * (sorted.length - 1) :=
    Nat.mul_le_mul_right _ hquarters
  obtain ⟨-, q, a, -, hq, ha, -, hqa⟩ := quartile_float hsorted h hne (hquarters.trans (by decide))
  have hab := (ha.le_iff hb).mp (ordered_getD hsorted (fun v hv => (h v hv).refl) (by omega)
    (position_lt hpos (by decide)).2 _)
  exact ⟨q, hq, hqa.trans hab⟩

/-- The lower whisker is at most the sample above the median. -/
theorem search_low_le_above_median {b : Rat} (hsorted : sorted.Pairwise (· ≤ ·))
    (h : ∀ v ∈ sorted, IsSample v) (hne : sorted ≠ []) (hb : Holds (above sorted 2) b) :
    ∃ w d, searchLow sorted = some w ∧ Holds w d ∧ d ≤ b := by
  have hpos := List.length_pos_iff.mpr hne
  obtain ⟨w, hmem, hsearch, -, hfirst⟩ := search_low_float hsorted h hne
  obtain ⟨d, hd⟩ := exists_holds (h w hmem).1 (h w hmem).2
  obtain ⟨-, -, a, -, -, ha, -⟩ := quartile_float hsorted h hne (show 1 ≤ 4 by decide)
  have hab : above sorted 1 ≤ above sorted 2 :=
    ordered_getD hsorted (fun v hv => (h v hv).refl) (by omega) (position_lt hpos (by decide)).2 _
  have hda := hfirst _ (around_mem hne (by decide)).2 (fences_float hsorted h hne).1
  exact ⟨w, d, hsearch, hd, (hd.le_iff hb).mp (hd.le_trans ha hb hda hab)⟩

/-! ## Statistics -/

variable {event : String} {samples : List Float} {s : Latency Float}

/-- The statistics of durations hold values, which are at most a tenth above the upper whisker,
apart from the upper quartile and the mean. -/
theorem exists_values (hs : ofSamples? event samples = some s)
    (h : ∀ v ∈ samples, IsDuration v) :
    ∃ c, Holds s.whiskerHigh c ∧ (∃ b, Holds s.q3 b) ∧
      ∀ v ∈ [s.q1, s.median, s.whiskerLow, s.whiskerHigh], ∃ b, Holds v b ∧ b ≤ 11 / 10 * c := by
  have hne := ne_nil_of_samples hs
  have hne' := sorted_ne_nil hne
  have hsorted := pairwise_sorted_float fun v hv => (h v hv).is_sample
  have hdurations : ∀ v ∈ sortedSamples samples, IsDuration v :=
    fun v hv => h v (List.mem_mergeSort.mp hv)
  have hsamples : ∀ v ∈ sortedSamples samples, IsSample v :=
    fun v hv => (hdurations v hv).is_sample
  obtain ⟨s', hs', hdescribes⟩ := of_samples_describes event hne
  obtain rfl : s' = s := Option.some.inj (hs'.symm.trans hs)
  obtain ⟨high, hhigh, hsearch, -⟩ := search_high_float hsorted hsamples hne'
  obtain ⟨c, hc, -⟩ := hdurations high hhigh
  have hnonneg := hc.nonneg
  obtain ⟨b, hb, hclose⟩ := above_median_le hsorted hdurations hne' hsearch hc
  obtain ⟨q, hq, hqb⟩ :=
    quartile_le_above_median hsorted hsamples hne' (show 1 ≤ 2 by decide) hb
  obtain ⟨m, hm, hmb⟩ := quartile_le_above_median hsorted hsamples hne' le_rfl hb
  obtain ⟨low, d, hsearch', hd, hdb⟩ := search_low_le_above_median hsorted hsamples hne' hb
  obtain ⟨-, r, -, -, hr, -⟩ := quartile_float hsorted hsamples hne' (show 3 ≤ 4 by decide)
  rw [hdescribes.q1, hdescribes.median, hdescribes.q3, hdescribes.whiskerLow,
    hdescribes.whiskerHigh, hsearch, hsearch', Option.getD_some, Option.getD_some]
  refine ⟨c, hc, ⟨r, hr⟩, ?_⟩
  simp only [List.forall_mem_cons]
  exact ⟨⟨q, hq, hqb.trans hclose⟩, ⟨m, hm, hmb.trans hclose⟩, ⟨d, hd, hdb.trans hclose⟩,
    ⟨c, hc, by linarith⟩, List.forall_mem_nil _⟩

/-- The mean of durations is not negative. -/
theorem mean_reaches (hs : ofSamples? event samples = some s) (h : ∀ v ∈ samples, IsDuration v)
    (hcount : samples.length < Number.powerOfTwo 64) : ∃ t, Reaches s.mean t := by
  have hlength : (sortedSamples samples).length = samples.length := List.length_mergeSort _
  have hzero : Reaches (-0.0) (0 : Rat) := .value (.zero .negative)
  have hsamples : ∀ v ∈ sortedSamples samples, ∃ t, Reaches v t := by
    intro v hv
    obtain ⟨a, ha, -⟩ := h v (List.mem_mergeSort.mp hv)
    exact ⟨a, .value ha⟩
  obtain ⟨t, ht⟩ := reaches_foldl_add ⟨_, hzero⟩ hsamples
  obtain ⟨n, hn, hone⟩ :=
    exists_holds_of_count (List.length_pos_iff.mpr (ne_nil_of_samples hs)) hcount
  rw [mean_of_samples hs, hlength]
  exact ht.div hn (by linarith)

end Latency

end CallProfile

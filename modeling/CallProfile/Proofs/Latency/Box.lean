import CallProfile.Latency
import CallProfile.Proofs.Grouping
import CallProfile.Proofs.Number.Exact
import Mathlib.Algebra.Order.Floor.Semifield
import Mathlib.Data.List.Permutation
import Mathlib.Data.Rat.Floor
import Mathlib.Tactic.FieldSimp
import Mathlib.Tactic.GCongr

/-!
# Boxes in exact arithmetic

What the statistics of samples say about them, apart from rounding. A quartile lies between the
samples around its position, so quartiles keep the order of their positions (`quartile_mono`), and a
whisker is the first sample that its search meets within a fence (`find_first`). Neither search
comes back empty, since the sample above the first quartile and the one below the third lie within
the fences, and the whiskers do not cross (`exists_within_fences`). The main result is
`box_of_samples`.
-/

namespace CallProfile

/-- A search in a list in order finds a match if there is one, and no match stands before it. -/
theorem find_first {β : Type} {before : β → β → Prop} {l : List β} (hl : l.Pairwise before)
    (matching : β → Bool) {v : β} (hv : v ∈ l) (hmatch : matching v = true) :
    ∃ w ∈ l, l.find? matching = some w ∧ matching w = true ∧
      ∀ u ∈ l, matching u = true → u = w ∨ before w u := by
  obtain ⟨w, hw⟩ : ∃ w, l.find? matching = some w :=
    Option.isSome_iff_exists.mp (List.find?_isSome.mpr ⟨v, hv, hmatch⟩)
  obtain ⟨hmatches, earlier, later, rfl, hearlier⟩ := List.find?_eq_some_iff_append.mp hw
  refine ⟨w, by simp, hw, hmatches, fun u hu hmatching => ?_⟩
  rcases List.mem_append.mp hu with hu | hu
  · have hnone := hearlier u hu
    simp [hmatching] at hnone
  · rcases List.mem_cons.mp hu with rfl | hu
    · exact Or.inl rfl
    · exact Or.inr (List.rel_of_pairwise_cons (List.pairwise_append.mp hl).2.1 hu)

namespace Latency

open Number (Scalar)

/-! ## The statistics by field -/

section Fields

variable {α : Type} [Scalar α]

/-- The lower end of the reach of whiskers. -/
def lowFence (sorted : List α) : α :=
  quartile sorted 1 - 1.5 * (quartile sorted 3 - quartile sorted 1)

/-- The upper end of the reach of whiskers. -/
def highFence (sorted : List α) : α :=
  quartile sorted 3 + 1.5 * (quartile sorted 3 - quartile sorted 1)

/-- The lower whisker, if its search finds one: the first sample within the fence. -/
def searchLow (sorted : List α) : Option α :=
  sorted.find? (Scalar.atMost (lowFence sorted) ·)

/-- The upper whisker, if its search finds one: the last sample within the fence. -/
def searchHigh (sorted : List α) : Option α :=
  sorted.reverse.find? (Scalar.atMost · (highFence sorted))

/-- The fields of the statistics of ascending samples. -/
structure Describes (sorted : List α) (s : Latency α) : Prop where
  min : sorted.head? = some s.min
  q1 : s.q1 = quartile sorted 1
  median : s.median = quartile sorted 2
  q3 : s.q3 = quartile sorted 3
  max : sorted.getLast? = some s.max
  whiskerLow : s.whiskerLow = (searchLow sorted).getD s.min
  whiskerHigh : s.whiskerHigh = (searchHigh sorted).getD s.max

/-- There are sorted samples if there are samples. -/
theorem sorted_ne_nil {samples : List α} (hne : samples ≠ []) : sortedSamples samples ≠ [] := by
  intro hnil
  have hperm : (sortedSamples samples).Perm samples := List.mergeSort_perm samples _
  rw [hnil] at hperm
  exact hne hperm.nil_eq.symm

/-- Samples have statistics if there are any samples. -/
theorem of_samples_describes (event : String) {samples : List α} (hne : samples ≠ []) :
    ∃ s, ofSamples? event samples = some s ∧ Describes (sortedSamples samples) s := by
  have hleast := List.head?_eq_some_head (sorted_ne_nil hne)
  have hmost := List.getLast?_eq_some_getLast (sorted_ne_nil hne)
  simp only [ofSamples?, hleast, hmost]
  exact ⟨_, rfl, hleast, rfl, rfl, rfl, hmost, rfl, rfl⟩

/-- The mean is the sum of the samples in order over their number. -/
theorem mean_of_samples {event : String} {samples : List α} {s : Latency α}
    (h : ofSamples? event samples = some s) :
    s.mean = Scalar.sum (sortedSamples samples) / Scalar.ofNat (sortedSamples samples).length := by
  simp only [ofSamples?] at h
  split at h
  · rw [← Option.some.inj h]
  · cases h

/-- There are samples if they have statistics. -/
theorem ne_nil_of_samples {event : String} {samples : List α} {s : Latency α}
    (h : ofSamples? event samples = some s) : samples ≠ [] := by
  rintro rfl
  have hnil : sortedSamples ([] : List α) = [] := List.mergeSort_nil
  simp [ofSamples?, hnil] at h

/-- The statistics of an event are those of the durations of some of the records. -/
theorem exists_samples {records : List Record} {s : Latency α} (h : s ∈ ofRecords α records) :
    ∃ event samples, ofSamples? event samples = some s ∧ samples.length ≤ records.length ∧
      ∀ v ∈ samples, ∃ r ∈ records, r.durationMs α = v := by
  obtain ⟨⟨event, samples⟩, hgroup, hs⟩ := List.mem_filterMap.mp (List.mem_mergeSort.mp h)
  have hlength := length_le_of_mem_grouped hgroup
  rw [List.length_map] at hlength
  refine ⟨event, samples, hs, hlength, fun v hv => ?_⟩
  obtain ⟨r, hr, hpair⟩ := List.mem_map.mp (mem_of_mem_grouped hgroup hv)
  exact ⟨r, hr, (Prod.mk.inj hpair).2⟩

/-- Records of one event have the statistics of their durations. -/
theorem of_records_of_event {records : List Record} {event : String} (hne : records ≠ [])
    (h : ∀ r ∈ records, r.event = event) :
    ∃ s, ofSamples? event (records.map (Record.durationMs α)) = some s ∧
      ofRecords α records = [s] := by
  have hdurations : records.map (Record.durationMs α) ≠ [] := mt List.map_eq_nil_iff.mp hne
  obtain ⟨s, hs, -⟩ := of_samples_describes event hdurations
  have hkeys : ascending ((records.map fun r => (r.event, r.durationMs α)).map (·.1)) =
      [event] := by
    refine eq_of_before (pairwise_ascending _) (List.pairwise_singleton _ _) fun key => ?_
    rw [mem_ascending, List.map_map, List.mem_map, List.mem_singleton]
    constructor
    · rintro ⟨r, hr, rfl⟩
      exact h r hr
    · rintro rfl
      obtain ⟨r, hr⟩ := List.exists_mem_of_ne_nil records hne
      exact ⟨r, hr, h r hr⟩
  have hvalues : valuesOf (records.map fun r => (r.event, r.durationMs α)) event =
      records.map (Record.durationMs α) := by
    rw [values_of_map, List.filter_eq_self.mpr fun r hr => decide_eq_true (h r hr)]
  refine ⟨s, hs, ?_⟩
  rw [ofRecords, grouped_eq, hkeys, List.map_singleton, hvalues]
  simp only [List.filterMap_cons, List.filterMap_nil, hs, List.mergeSort_singleton]

/-- There are no more events than records. -/
theorem length_of_records_le (records : List Record) :
    (ofRecords α records).length ≤ records.length := by
  rw [ofRecords, List.length_mergeSort]
  refine (List.length_filterMap_le _ _).trans ((length_grouped_le _).trans ?_)
  rw [List.length_map]

/-- The sample at or below the position of a quartile. -/
def below (sorted : List α) (quarters : Nat) : α :=
  sorted.getD (quarters * (sorted.length - 1) / 4) 0.0

/-- The sample at or above the position of a quartile. -/
def above (sorted : List α) (quarters : Nat) : α :=
  sorted.getD ((quarters * (sorted.length - 1) + 3) / 4) 0.0

variable {sorted : List α} {quarters i j : Nat}

/-- The positions around a quartile are positions of samples. -/
theorem position_lt {n : Nat} (hn : 0 < n) (hquarters : quarters ≤ 4) :
    quarters * (n - 1) / 4 < n ∧ (quarters * (n - 1) + 3) / 4 < n := by
  have hle : quarters * (n - 1) ≤ 4 * (n - 1) := Nat.mul_le_mul_right _ hquarters
  omega

/-- The samples around a quartile are samples. -/
theorem around_mem (hne : sorted ≠ []) (hquarters : quarters ≤ 4) :
    below sorted quarters ∈ sorted ∧ above sorted quarters ∈ sorted := by
  obtain ⟨hbelow, habove⟩ := position_lt (List.length_pos_iff.mpr hne) hquarters
  rw [below, above, List.getD_eq_getElem?_getD, List.getD_eq_getElem?_getD,
    List.getElem?_eq_getElem hbelow, List.getElem?_eq_getElem habove]
  exact ⟨List.getElem_mem _, List.getElem_mem _⟩

variable {before : α → α → Prop}

omit [Scalar α] in
/-- Samples in order are in the order of their positions. -/
theorem ordered_getD (hsorted : sorted.Pairwise before) (hrefl : ∀ v ∈ sorted, before v v)
    (hij : i ≤ j) (hj : j < sorted.length) (default : α) :
    before (sorted.getD i default) (sorted.getD j default) := by
  have hi := Nat.lt_of_le_of_lt hij hj
  rw [List.getD_eq_getElem?_getD, List.getD_eq_getElem?_getD, List.getElem?_eq_getElem hi,
    List.getElem?_eq_getElem hj]
  rcases Nat.eq_or_lt_of_le hij with rfl | hlt
  · exact hrefl _ (List.getElem_mem _)
  · exact List.pairwise_iff_getElem.mp hsorted i j hi hj hlt

/-- The samples around a quartile are in order. -/
theorem below_before_above (hsorted : sorted.Pairwise before) (hrefl : ∀ v ∈ sorted, before v v)
    (hne : sorted ≠ []) (hquarters : quarters ≤ 4) :
    before (below sorted quarters) (above sorted quarters) :=
  ordered_getD hsorted hrefl (by omega)
    (position_lt (List.length_pos_iff.mpr hne) hquarters).2 _

/-- The sample above the first quartile comes before the one below the third, unless there are just
two samples. -/
theorem above_before_below (hsorted : sorted.Pairwise before) (hrefl : ∀ v ∈ sorted, before v v)
    (hne : sorted ≠ []) (htwo : sorted.length ≠ 2) :
    before (above sorted 1) (below sorted 3) := by
  have hpos := List.length_pos_iff.mpr hne
  exact ordered_getD hsorted hrefl (by omega) (position_lt hpos (by decide)).1 _

end Fields

/-! ## Quartiles -/

variable {sorted : List Rat} {quarters more : Nat}

/-- A quartile in exact arithmetic. -/
theorem quartile_rat (sorted : List Rat) (quarters : Nat) :
    quartile sorted quarters =
      below sorted quarters + (above sorted quarters - below sorted quarters) *
        ((quarters * (sorted.length - 1) % 4 : Nat) / 4) := by
  show below sorted quarters + (above sorted quarters - below sorted quarters) *
    ((quarters * (sorted.length - 1) % 4 : Nat) / (4 : Nat)) = _
  norm_num

/-- The order of exact numbers. -/
theorem pairwise_sorted_samples (samples : List Rat) :
    (sortedSamples samples).Pairwise (· ≤ ·) := by
  have htrans (x y z : Rat) (hxy : Scalar.precedes x y = true) (hyz : Scalar.precedes y z = true) :
      Scalar.precedes x z = true :=
    decide_eq_true (le_trans (of_decide_eq_true hxy) (of_decide_eq_true hyz))
  have htotal (x y : Rat) : (Scalar.precedes x y || Scalar.precedes y x) = true := by
    simpa [Scalar.precedes] using le_total x y
  exact (List.pairwise_mergeSort htrans htotal samples).imp of_decide_eq_true

/-- The way from one sample to the next is a part of one. -/
theorem part_bounds (position : Nat) :
    (0 : Rat) ≤ (position % 4 : Nat) / 4 ∧ ((position % 4 : Nat) / 4 : Rat) ≤ 1 := by
  have hle : ((position % 4 : Nat) : Rat) ≤ 4 := by
    exact_mod_cast (Nat.mod_lt position (by decide)).le
  constructor
  · positivity
  · linarith

/-- A quartile lies between the samples around its position. -/
theorem quartile_between (hsorted : sorted.Pairwise (· ≤ ·)) (hne : sorted ≠ [])
    (hquarters : quarters ≤ 4) :
    below sorted quarters ≤ quartile sorted quarters ∧
      quartile sorted quarters ≤ above sorted quarters := by
  have hle := below_before_above hsorted (fun v _ => le_refl v) hne hquarters
  obtain ⟨hlow, hhigh⟩ := part_bounds (quarters * (sorted.length - 1))
  rw [quartile_rat]
  constructor
  · nlinarith
  · nlinarith

/-- Quartiles keep the order of their positions. -/
theorem quartile_mono (hsorted : sorted.Pairwise (· ≤ ·)) (hne : sorted ≠ [])
    (hmore : quarters ≤ more) (hquarters : more ≤ 4) :
    quartile sorted quarters ≤ quartile sorted more := by
  have hpos := List.length_pos_iff.mpr hne
  have hle : quarters * (sorted.length - 1) ≤ more * (sorted.length - 1) :=
    Nat.mul_le_mul_right _ hmore
  have hrefl : ∀ v ∈ sorted, v ≤ v := fun v _ => le_refl v
  have hfirst := quartile_between hsorted hne (hmore.trans hquarters)
  have hsecond := quartile_between hsorted hne hquarters
  rcases Nat.lt_or_ge (quarters * (sorted.length - 1) / 4) (more * (sorted.length - 1) / 4)
    with hapart | hsame
  · -- a sample stands between the two positions
    have hbetween : above sorted quarters ≤ below sorted more :=
      ordered_getD hsorted hrefl (by omega) (position_lt hpos hquarters).1 _
    linarith
  · -- both positions are on the way from one sample to the next
    have hbelow : below sorted quarters = below sorted more := by
      rw [below, below, Nat.le_antisymm (Nat.div_le_div_right hle) hsame]
    rcases Nat.eq_zero_or_pos (quarters * (sorted.length - 1) % 4) with hzero | hpart
    · have hquartile : quartile sorted quarters = below sorted more := by
        rw [quartile_rat, hzero, hbelow]
        norm_num
      rw [hquartile]
      exact hsecond.1
    · have habove : above sorted quarters = above sorted more := by
        rw [above, above]
        congr 1
        omega
      have hparts : ((quarters * (sorted.length - 1) % 4 : Nat) : Rat) ≤
          (more * (sorted.length - 1) % 4 : Nat) := by
        exact_mod_cast (by omega)
      have horder := below_before_above hsorted hrefl hne hquarters
      rw [quartile_rat, quartile_rat, hbelow, habove]
      gcongr

/-- A value is the percentile of ascending samples at a part of the way: it is interpolated between
the samples at the whole ranks below and above. -/
def IsPercentile (sorted : List Rat) (part value : Rat) : Prop :=
  ∃ low high, sorted[⌊part * (sorted.length - 1 : Nat)⌋₊]? = some low ∧
    sorted[⌈part * (sorted.length - 1 : Nat)⌉₊]? = some high ∧
    value = low + (high - low) *
      (part * (sorted.length - 1 : Nat) - ⌊part * (sorted.length - 1 : Nat)⌋₊)

/-- The whole ranks below and above a position. -/
theorem rank_bounds (position : Nat) :
    ⌊(position : Rat) / 4⌋₊ = position / 4 ∧ ⌈(position : Rat) / 4⌉₊ = (position + 3) / 4 := by
  constructor
  · rw [Nat.floor_div_ofNat, Nat.floor_natCast]
  · have hdivision := Nat.div_add_mod (position + 3) 4
    have hless := Nat.mod_lt (position + 3) (show 0 < 4 by decide)
    apply Nat.le_antisymm
    · rw [Nat.ceil_le, div_le_iff₀ (by norm_num)]
      exact_mod_cast (by omega)
    · refine Nat.le_of_lt_succ ((Nat.div_lt_iff_lt_mul (by decide)).mpr ?_)
      have hceil := Nat.le_ceil ((position : Rat) / 4)
      rw [div_le_iff₀ (by norm_num)] at hceil
      have hnat : position ≤ ⌈(position : Rat) / 4⌉₊ * 4 := by exact_mod_cast hceil
      omega

/-- Every quartile is the percentile at its part of the way, between samples that exist. -/
theorem quartile_is_percentile {part : Rat} (hne : sorted ≠ []) (hquarters : quarters ≤ 4)
    (hpart : part = quarters / 4) : IsPercentile sorted part (quartile sorted quarters) := by
  obtain ⟨hbelow, habove⟩ := position_lt (List.length_pos_iff.mpr hne) hquarters
  have hrank : part * (sorted.length - 1 : Nat) =
      (quarters * (sorted.length - 1) : Nat) / 4 := by
    rw [hpart]
    push_cast
    ring
  obtain ⟨hfloor, hceil⟩ := rank_bounds (quarters * (sorted.length - 1))
  refine ⟨below sorted quarters, above sorted quarters, ?_, ?_, ?_⟩
  · rw [hrank, hfloor, below, List.getD_eq_getElem?_getD, List.getElem?_eq_getElem hbelow]
    rfl
  · rw [hrank, hceil, above, List.getD_eq_getElem?_getD, List.getElem?_eq_getElem habove]
    rfl
  · have hway : ((quarters * (sorted.length - 1) % 4 : Nat) / 4 : Rat) =
        (quarters * (sorted.length - 1) : Nat) / 4 -
          (quarters * (sorted.length - 1) / 4 : Nat) := by
      have hdivision : ((quarters * (sorted.length - 1) : Nat) : Rat) =
          4 * (quarters * (sorted.length - 1) / 4 : Nat) +
            (quarters * (sorted.length - 1) % 4 : Nat) := by
        exact_mod_cast (Nat.div_add_mod _ 4).symm
      rw [hdivision]
      ring
    rw [quartile_rat, hrank, hfloor, hway]

/-! ## Whiskers -/

/-- The fences in exact arithmetic. -/
theorem fences_rat (sorted : List Rat) :
    lowFence sorted = quartile sorted 1 - 1.5 * (quartile sorted 3 - quartile sorted 1) ∧
      highFence sorted = quartile sorted 3 + 1.5 * (quartile sorted 3 - quartile sorted 1) :=
  ⟨rfl, rfl⟩

/-- The fences stand outside of the box. -/
theorem fences_outside (hsorted : sorted.Pairwise (· ≤ ·)) (hne : sorted ≠ []) :
    lowFence sorted ≤ quartile sorted 1 ∧ quartile sorted 3 ≤ highFence sorted := by
  have hbox := quartile_mono hsorted hne (show 1 ≤ 3 by decide) (by decide)
  obtain ⟨hlow, hhigh⟩ := fences_rat sorted
  rw [hlow, hhigh]
  norm_num
  exact hbox

/-- The search for the lower whisker finds the least sample that is not below the fence. -/
theorem search_low_found (hsorted : sorted.Pairwise (· ≤ ·)) (hne : sorted ≠ []) :
    ∃ w ∈ sorted, searchLow sorted = some w ∧ lowFence sorted ≤ w ∧
      ∀ u ∈ sorted, lowFence sorted ≤ u → w ≤ u := by
  have hmatch : lowFence sorted ≤ above sorted 1 :=
    (fences_outside hsorted hne).1.trans (quartile_between hsorted hne (by decide)).2
  obtain ⟨w, hw, hfound, hmatches, hfirst⟩ := find_first hsorted
    (Scalar.atMost (lowFence sorted) ·) (around_mem hne (show 1 ≤ 4 by decide)).2
    (decide_eq_true hmatch)
  exact ⟨w, hw, hfound, of_decide_eq_true hmatches,
    fun u hu hle => (hfirst u hu (decide_eq_true hle)).elim (fun h => h.ge) id⟩

/-- The search for the upper whisker finds the greatest sample that is not above the fence. -/
theorem search_high_found (hsorted : sorted.Pairwise (· ≤ ·)) (hne : sorted ≠ []) :
    ∃ w ∈ sorted, searchHigh sorted = some w ∧ w ≤ highFence sorted ∧
      ∀ u ∈ sorted, u ≤ highFence sorted → u ≤ w := by
  have hmatch : below sorted 3 ≤ highFence sorted :=
    (quartile_between hsorted hne (by decide)).1.trans (fences_outside hsorted hne).2
  obtain ⟨w, hw, hfound, hmatches, hfirst⟩ := find_first (List.pairwise_reverse.mpr hsorted)
    (Scalar.atMost · (highFence sorted))
    (List.mem_reverse.mpr (around_mem hne (show 3 ≤ 4 by decide)).1) (decide_eq_true hmatch)
  exact ⟨w, List.mem_reverse.mp hw, hfound, of_decide_eq_true hmatches,
    fun u hu hle => (hfirst u (List.mem_reverse.mpr hu) (decide_eq_true hle)).elim
      (fun h => h.le) id⟩

/-- A sample lies within both fences. -/
theorem exists_within_fences (hsorted : sorted.Pairwise (· ≤ ·)) (hne : sorted ≠ []) :
    ∃ v ∈ sorted, lowFence sorted ≤ v ∧ v ≤ highFence sorted := by
  have hrefl : ∀ v ∈ sorted, v ≤ v := fun v _ => le_refl v
  obtain ⟨hlow, hhigh⟩ := fences_outside hsorted hne
  have hfirst := quartile_between hsorted hne (show 1 ≤ 4 by decide)
  have hthird := quartile_between hsorted hne (show 3 ≤ 4 by decide)
  by_cases htwo : sorted.length = 2
  · -- the lesser of two samples is half the height of the box above the lower fence
    refine ⟨below sorted 3, (around_mem hne (by decide)).1, ?_, hthird.1.trans hhigh⟩
    have hsame : below sorted 1 = below sorted 3 ∧ above sorted 1 = above sorted 3 := by
      simp [below, above, htwo]
    have horder := below_before_above hsorted hrefl hne (show 3 ≤ 4 by decide)
    rw [(fences_rat sorted).1, quartile_rat, quartile_rat, htwo, hsame.1, hsame.2]
    norm_num
    linarith
  · have hbetween := above_before_below hsorted hrefl hne htwo
    exact ⟨above sorted 1, (around_mem hne (by decide)).2, hlow.trans hfirst.2,
      hbetween.trans (hthird.1.trans hhigh)⟩

/-! ## Boxes -/

/-- The first of ascending samples is the least. -/
theorem head_least {least : Rat} (hsorted : sorted.Pairwise (· ≤ ·))
    (h : sorted.head? = some least) : least ∈ sorted ∧ ∀ v ∈ sorted, least ≤ v := by
  obtain ⟨rest, rfl⟩ := List.head?_eq_some_iff.mp h
  refine ⟨List.mem_cons_self, fun v hv => ?_⟩
  rcases List.mem_cons.mp hv with rfl | hv
  · exact le_refl _
  · exact List.rel_of_pairwise_cons hsorted hv

/-- The last of ascending samples is the greatest. -/
theorem last_greatest {most : Rat} (hsorted : sorted.Pairwise (· ≤ ·))
    (h : sorted.getLast? = some most) : most ∈ sorted ∧ ∀ v ∈ sorted, v ≤ most := by
  obtain ⟨earlier, rfl⟩ := List.getLast?_eq_some_iff.mp h
  refine ⟨by simp, fun v hv => ?_⟩
  rcases List.mem_append.mp hv with hv | hv
  · exact (List.pairwise_append.mp hsorted).2.2 v hv most (by simp)
  · exact (List.mem_singleton.mp hv).le

/-- The statistics of samples as a box with whiskers. -/
structure IsBox (samples : List Rat) (s : Latency Rat) : Prop where
  /-- The quartiles are percentiles, between samples that exist. -/
  quartiles : IsPercentile (sortedSamples samples) (1 / 4) s.q1 ∧
    IsPercentile (sortedSamples samples) (1 / 2) s.median ∧
    IsPercentile (sortedSamples samples) (3 / 4) s.q3
  /-- The ends are the least and the greatest sample. -/
  ends : s.min ∈ samples ∧ s.max ∈ samples ∧ ∀ v ∈ samples, s.min ≤ v ∧ v ≤ s.max
  /-- The quartiles are in order, within the ends. -/
  order : s.min ≤ s.q1 ∧ s.q1 ≤ s.median ∧ s.median ≤ s.q3 ∧ s.q3 ≤ s.max
  /-- Both searches for whiskers find them. -/
  found : searchLow (sortedSamples samples) = some s.whiskerLow ∧
    searchHigh (sortedSamples samples) = some s.whiskerHigh
  /-- The whiskers are samples, in order. -/
  whiskers : s.whiskerLow ∈ samples ∧ s.whiskerHigh ∈ samples ∧
    s.min ≤ s.whiskerLow ∧ s.whiskerLow ≤ s.whiskerHigh ∧ s.whiskerHigh ≤ s.max
  /-- A sample below the lower whisker is out of its reach. -/
  outliers_low : ∀ v ∈ samples, v < s.whiskerLow → v < s.q1 - 1.5 * (s.q3 - s.q1)
  /-- A sample above the upper whisker is out of its reach. -/
  outliers_high : ∀ v ∈ samples, s.whiskerHigh < v → s.q3 + 1.5 * (s.q3 - s.q1) < v

/-- In exact arithmetic the statistics of samples are a box with whiskers. -/
theorem box_of_samples (event : String) {samples : List Rat} (hne : samples ≠ []) :
    ∃ s, ofSamples? event samples = some s ∧ IsBox samples s := by
  obtain ⟨s, hs, hdescribes⟩ := of_samples_describes event hne
  have hsorted := pairwise_sorted_samples samples
  have hne' := sorted_ne_nil hne
  have hmem : ∀ v, v ∈ sortedSamples samples ↔ v ∈ samples := fun v => List.mem_mergeSort
  obtain ⟨hmin, hleast⟩ := head_least hsorted hdescribes.min
  obtain ⟨hmax, hgreatest⟩ := last_greatest hsorted hdescribes.max
  obtain ⟨low, hlow, hsearch, -, hfirst⟩ := search_low_found hsorted hne'
  obtain ⟨high, hhigh, hsearch', -, hlast⟩ := search_high_found hsorted hne'
  obtain ⟨v, hv, hwithin, hwithin'⟩ := exists_within_fences hsorted hne'
  have hwhisker : s.whiskerLow = low := by rw [hdescribes.whiskerLow, hsearch, Option.getD_some]
  have hwhisker' : s.whiskerHigh = high := by
    rw [hdescribes.whiskerHigh, hsearch', Option.getD_some]
  have hfirst' := quartile_between hsorted hne' (show 1 ≤ 4 by decide)
  have hthird := quartile_between hsorted hne' (show 3 ≤ 4 by decide)
  refine ⟨s, hs, ⟨?quartiles, ?ends, ?order, ?found, ?whiskers, ?low, ?high⟩⟩
  case quartiles =>
    rw [hdescribes.q1, hdescribes.median, hdescribes.q3]
    exact ⟨quartile_is_percentile hne' (by decide) (by norm_num),
      quartile_is_percentile hne' (by decide) (by norm_num),
      quartile_is_percentile hne' (by decide) (by norm_num)⟩
  case ends =>
    exact ⟨(hmem _).mp hmin, (hmem _).mp hmax,
      fun u hu => ⟨hleast u ((hmem u).mpr hu), hgreatest u ((hmem u).mpr hu)⟩⟩
  case order =>
    rw [hdescribes.q1, hdescribes.median, hdescribes.q3]
    exact ⟨(hleast _ (around_mem hne' (by decide)).1).trans hfirst'.1,
      quartile_mono hsorted hne' (by decide) (by decide),
      quartile_mono hsorted hne' (by decide) (by decide),
      hthird.2.trans (hgreatest _ (around_mem hne' (by decide)).2)⟩
  case found =>
    rw [hwhisker, hwhisker']
    exact ⟨hsearch, hsearch'⟩
  case whiskers =>
    rw [hwhisker, hwhisker']
    exact ⟨(hmem _).mp hlow, (hmem _).mp hhigh, hleast _ hlow,
      (hfirst v hv hwithin).trans (hlast v hv hwithin'), hgreatest _ hhigh⟩
  case low =>
    intro u hu hlt
    rw [hwhisker] at hlt
    rw [hdescribes.q1, hdescribes.q3]
    exact not_le.mp fun hle => not_le.mpr hlt (hfirst u ((hmem u).mpr hu) hle)
  case high =>
    intro u hu hlt
    rw [hwhisker'] at hlt
    rw [hdescribes.q1, hdescribes.q3]
    exact not_le.mp fun hle => not_le.mpr hlt (hlast u ((hmem u).mpr hu) hle)

/-- Samples with one far from the others. -/
def outlying : List Rat :=
  [100, 2, 1, 2, 3, 2]

/-- The samples in order. -/
theorem sorted_outlying : sortedSamples outlying = [1, 2, 2, 2, 3, 100] := by
  cbv

/-- The sample that is far from the others lies behind the upper whisker. -/
theorem outlying_box :
    outlying ≠ [] ∧ ∃ s, ofSamples? "Seq" outlying = some s ∧
      (s.q1, s.q3, s.whiskerHigh, s.max) = (2, 2.75, 3, 100) ∧ IsBox outlying s := by
  have hne : outlying ≠ [] := by simp [outlying]
  have hvalues : (ofSamples? "Seq" outlying).map
      (fun s => (s.q1, s.q3, s.whiskerHigh, s.max)) = some (2, 2.75, 3, 100) := by
    simp only [ofSamples?, sorted_outlying]
    decide +kernel
  obtain ⟨s, hs, hbox⟩ := box_of_samples "Seq" hne
  rw [hs] at hvalues
  exact ⟨hne, s, hs, Option.some.inj hvalues, hbox⟩

end Latency

end CallProfile

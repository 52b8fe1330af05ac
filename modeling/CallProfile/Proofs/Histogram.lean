import CallProfile.Histogram
import CallProfile.Proofs.Number.Exact
import Mathlib.Data.List.Induction
import Mathlib.Data.Rat.Floor

/-!
# Histograms as partitions

A histogram is filled in one pass over the samples, each of which adds its weight to the share of
its bin. No sample leaves the bins, so the pass ends, with the shares that the histogram has
(`filled_shares`). In exact arithmetic a sample is counted in the one bin that takes it
(`takes_even_bins_iff`), and the shares add up to the weights of the samples counted so far
(`sum_filled_shares`). The main result is `histogram_partitions`.
-/

namespace CallProfile.Histogram

open Number (Scalar)

/-! ## Filling bins -/

section Filling

variable {α : Type} [Scalar α]

/-- The shares of bins with one more weight in the bin at an index. There are none if no bin is
there. -/
def addShare? (weight : α) (shares : List α) (index : Nat) : Option (List α) :=
  if index < shares.length then some (shares.modify index (· + weight)) else none

/-- The shares that weights leave in so many empty bins, added one after another. -/
def filledShares? (weight : α) (bins : Nat) (indices : List Nat) : Option (List α) :=
  indices.foldlM (addShare? weight) (List.replicate bins 0.0)

/-- The index of a sample is that of a bin. -/
theorem bin_index_lt (low width : α) {bins : Nat} (h : 0 < bins) (sample : Nat) :
    binIndex low width bins sample < bins :=
  Nat.lt_of_le_of_lt (Nat.min_le_right _ _) (Nat.sub_lt h Nat.one_pos)

/-- A weight is added up one time after another. -/
theorem accumulated_succ (weight : α) (count : Nat) :
    accumulated weight (count + 1) = accumulated weight count + weight := by
  simp [accumulated, List.replicate_succ']

/-- One more weight in a bin leaves the others as they are. -/
theorem add_share_accumulated (weight : α) {bins index : Nat} (h : index < bins)
    (counts : Nat → Nat) :
    addShare? weight ((List.range bins).map fun i => accumulated weight (counts i)) index =
      some ((List.range bins).map fun i =>
        accumulated weight (counts i + if index = i then 1 else 0)) := by
  rw [addShare?, if_pos (by simpa using h)]
  refine congrArg some (List.ext_getElem (by simp) fun i hi _ => ?_)
  rw [List.getElem_modify]
  by_cases hindex : index = i
  · simp [hindex, accumulated_succ]
  · simp [hindex]

/-- The last weight is added to what the others leave. -/
theorem filled_shares_append (weight : α) (bins : Nat) (indices : List Nat) (index : Nat) :
    filledShares? weight bins (indices ++ [index]) =
      (filledShares? weight bins indices).bind (addShare? weight · index) := by
  rw [filledShares?, List.foldlM_append]
  exact congrArg (Option.bind _) (funext fun shares => bind_pure _)

/-- Every bin is left with as many weights as were added to it. -/
theorem filled_shares (weight : α) {bins : Nat} {indices : List Nat}
    (h : ∀ index ∈ indices, index < bins) :
    filledShares? weight bins indices =
      some ((List.range bins).map fun i => accumulated weight (indices.count i)) := by
  induction indices using List.reverseRecOn with
  | nil =>
      refine congrArg some (List.ext_getElem (by simp) fun i hi _ => ?_)
      simp [accumulated]
  | append_singleton indices index ih =>
      have hearlier := ih fun other hother => h other (List.mem_append_left _ hother)
      have hindex : index < bins := h index (by simp)
      rw [filled_shares_append, hearlier, Option.bind_some, add_share_accumulated weight hindex]
      simp only [List.count_append, List.count_singleton, beq_iff_eq]

end Filling

/-! ## Bins of equal width -/

/-- The range of samples is proper. -/
theorem range_proper {least most : Nat} (h : least ≤ most) :
    (range least most : Rat × Rat).1 < (range least most : Rat × Rat).2 := by
  unfold range
  split
  · next heq =>
      subst heq
      norm_num
      linarith
  · next hne =>
      have hlt : least < most := by omega
      simpa using hlt

/-- The range of samples reaches from the least one to the greatest, or half a unit further if they
are equal. -/
theorem range_ends (least most : Nat) :
    (range least most : Rat × Rat).1 = (if least = most then (least : Rat) - 1 / 2 else least) ∧
      (range least most : Rat × Rat).2 = if least = most then (most : Rat) + 1 / 2 else most := by
  unfold range
  split
  · norm_num
  · exact ⟨rfl, rfl⟩

/-- A sample between the least one and the greatest is in their range. -/
theorem range_holds {least most sample : Nat} (hlow : least ≤ sample) (hhigh : sample ≤ most) :
    (range least most : Rat × Rat).1 ≤ sample ∧ (sample : Rat) ≤ (range least most).2 := by
  have hlow' : (least : Rat) ≤ sample := Nat.cast_le.mpr hlow
  have hhigh' : (sample : Rat) ≤ most := Nat.cast_le.mpr hhigh
  obtain ⟨hleft, hright⟩ := range_ends least most
  rw [hleft, hright]
  split
  · exact ⟨by linarith, by linarith⟩
  · exact ⟨hlow', hhigh'⟩

/-- A weight added up is a multiple of it. -/
theorem accumulated_rat (weight : Rat) (count : Nat) :
    accumulated weight count = count * weight := by
  induction count with
  | zero => norm_num [accumulated]
  | succ count ih =>
      rw [accumulated_succ, ih]
      push_cast
      ring

/-- A weight added up is not below zero if the weight is not. -/
theorem accumulated_nonneg {weight : Rat} (h : 0 ≤ weight) (count : Nat) :
    0 ≤ accumulated weight count := by
  rw [accumulated_rat]
  positivity

/-- The bins of equal width from `low` on. -/
def evenBins (low width : Rat) (share : Nat → Rat) (count : Nat) : List (Bin Rat) :=
  (List.range count).map fun (i : Nat) =>
    { start := low + width * (i : Rat)
      stop := low + width * ((i + 1 : Nat) : Rat)
      fraction := share i }

/-- The width of so many bins over the range of samples. -/
def evenWidth (least most bins : Nat) : Rat :=
  ((range least most : Rat × Rat).2 - (range least most : Rat × Rat).1) / (bins : Rat)

/-- The share of the samples whose index is that of a bin. -/
def shareAt (samples : List Nat) (low width : Rat) (bins i : Nat) : Rat :=
  accumulated (1.0 / (samples.length : Rat)) ((samples.map (binIndex low width bins)).count i)

/-- There are a least and a greatest of some samples. -/
theorem exists_ends {samples : List Nat} (h : samples ≠ []) :
    ∃ least most, samples.min? = some least ∧ samples.max? = some most ∧ least ∈ samples ∧
      most ∈ samples ∧ ∀ sample ∈ samples, least ≤ sample ∧ sample ≤ most := by
  obtain ⟨least, hleast⟩ := Option.isSome_iff_exists.mp (List.isSome_min?_of_ne_nil h)
  obtain ⟨most, hmost⟩ := Option.isSome_iff_exists.mp (List.isSome_max?_of_ne_nil h)
  obtain ⟨hmem, hbelow⟩ := List.min?_eq_some_iff.mp hleast
  obtain ⟨hmem', habove⟩ := List.max?_eq_some_iff.mp hmost
  exact ⟨least, most, hleast, hmost, hmem, hmem',
    fun sample hsample => ⟨hbelow sample hsample, habove sample hsample⟩⟩

/-- Bins over a range have a width. -/
theorem even_width_pos {least most bins : Nat} (h : least ≤ most) (hbins : 0 < bins) :
    0 < evenWidth least most bins :=
  div_pos (sub_pos.mpr (range_proper h)) (Nat.cast_pos.mpr hbins)

/-- The bins of samples are of equal width over their range. -/
theorem of_samples_eq {samples : List Nat} {least most : Nat} (hleast : samples.min? = some least)
    (hmost : samples.max? = some most) (bins : Nat) :
    ofSamples samples bins =
      evenBins (range least most).1 (evenWidth least most (max bins 1))
        (shareAt samples (range least most).1 (evenWidth least most (max bins 1)) (max bins 1))
        (max bins 1) := by
  rw [ofSamples, hleast, hmost]
  rfl

/-- The bins of samples are of equal width, at least one, and none is below the axis. -/
theorem of_samples_even {samples : List Nat} (h : samples ≠ []) (bins : Nat) :
    ∃ (low width : Rat) (share : Nat → Rat) (last : Nat), 0 < width ∧ (∀ i, 0 ≤ share i) ∧
      ofSamples samples bins = evenBins low width share (last + 1) := by
  obtain ⟨least, most, hleast, hmost, hmem, -, hends⟩ := exists_ends h
  have hlast : max bins 1 = max bins 1 - 1 + 1 := by omega
  have hweight : (0 : Rat) ≤ 1.0 / (samples.length : Rat) := by
    norm_num
  have hwidth : 0 < evenWidth least most (max bins 1) :=
    even_width_pos (hends least hmem).2 (by omega)
  exact ⟨_, _, _, max bins 1 - 1, hwidth, fun i => accumulated_nonneg hweight _,
    (of_samples_eq hleast hmost bins).trans (congrArg (evenBins _ _ _) hlast)⟩

/-- A bin lies between the left end of the first one and the right end of the last one. -/
theorem ends_of_mem_even_bins {low width : Rat} {share : Nat → Rat} {last : Nat} {bin : Bin Rat}
    (hwidth : 0 < width) (h : bin ∈ evenBins low width share (last + 1)) :
    low ≤ bin.start ∧ bin.start ≤ bin.stop ∧
      bin.stop ≤ low + width * ((last + 1 : Nat) : Rat) := by
  obtain ⟨i, hi, rfl⟩ := List.mem_map.mp h
  have hlast : ((i + 1 : Nat) : Rat) ≤ ((last + 1 : Nat) : Rat) := by
    exact_mod_cast List.mem_range.mp hi
  have hstart : 0 ≤ width * (i : Rat) := by positivity
  have hstop : width * ((i + 1 : Nat) : Rat) ≤ width * ((last + 1 : Nat) : Rat) :=
    mul_le_mul_of_nonneg_left hlast hwidth.le
  have hnext : width * ((i + 1 : Nat) : Rat) = width * (i : Rat) + width := by
    push_cast
    ring
  refine ⟨?_, ?_, ?_⟩
  · show low ≤ low + width * (i : Rat)
    linarith
  · show low + width * (i : Rat) ≤ low + width * ((i + 1 : Nat) : Rat)
    linarith
  · show low + width * ((i + 1 : Nat) : Rat) ≤ low + width * ((last + 1 : Nat) : Rat)
    linarith

/-- The first of the bins begins at `low`. -/
theorem left_even_bins (low width : Rat) (share : Nat → Rat) (last : Nat) :
    (evenBins low width share (last + 1)).head?.map (·.start) = some low := by
  simp [evenBins, List.range_succ_eq_map]

/-- The last of the bins ends at as many widths behind it. -/
theorem right_even_bins (low width : Rat) (share : Nat → Rat) (last : Nat) :
    (evenBins low width share (last + 1)).getLast?.map (·.stop) =
      some (low + width * ((last + 1 : Nat) : Rat)) := by
  simp [evenBins, List.range_succ]

/-! ## The sum of shares -/

/-- A weight added to one share adds to their sum. -/
theorem sum_add_share {weight : Rat} {shares next : List Rat} {index : Nat}
    (h : addShare? weight shares index = some next) :
    Scalar.sum next = Scalar.sum shares + weight := by
  obtain ⟨hindex, hnext⟩ := Option.ite_none_right_eq_some.mp h
  obtain rfl := Option.some.inj hnext
  clear h hnext
  induction shares generalizing index with
  | nil => exact absurd hindex (Nat.not_lt_zero _)
  | cons share shares ih =>
      cases index with
      | zero =>
          rw [List.modify_zero_cons, Scalar.sum_cons_rat, Scalar.sum_cons_rat]
          ring
      | succ index =>
          rw [List.modify_succ_cons, Scalar.sum_cons_rat, Scalar.sum_cons_rat,
            ih (Nat.lt_of_succ_lt_succ hindex)]
          ring

/-- Shares without a weight add up to nothing. -/
theorem sum_no_shares (bins : Nat) : Scalar.sum (List.replicate bins (0.0 : Rat)) = 0 := by
  induction bins with
  | zero => exact Scalar.sum_nil_rat
  | succ bins ih => rw [List.replicate_succ, Scalar.sum_cons_rat, ih, Scalar.zero_rat, add_zero]

/-- The shares add up to the weights that were added to them. -/
theorem sum_filled_shares {weight : Rat} {bins : Nat} {indices : List Nat} {shares : List Rat}
    (h : filledShares? weight bins indices = some shares) :
    Scalar.sum shares = indices.length * weight := by
  induction indices using List.reverseRecOn generalizing shares with
  | nil =>
      obtain rfl := Option.some.inj h
      rw [sum_no_shares, List.length_nil, Nat.cast_zero, zero_mul]
  | append_singleton indices index ih =>
      rw [filled_shares_append] at h
      obtain ⟨earlier, hearlier, hlast⟩ := Option.bind_eq_some_iff.mp h
      rw [sum_add_share hlast, ih hearlier, List.length_append, List.length_singleton]
      push_cast
      ring

/-! ## Bins and samples -/

/-- A bin takes a sample from its left end on and below its right end, and on it if there is no
other bin behind. -/
def takes (shown : List (Bin Rat)) (i sample : Nat) : Bool :=
  shown[i]?.any fun bin => decide (bin.start ≤ (sample : Rat)) &&
    (decide ((sample : Rat) < bin.stop) ||
      (i + 1 == shown.length && decide ((sample : Rat) ≤ bin.stop)))

/-- The index of a sample is how many widths it stands behind the left end, without the part of a
width, and that of the last bin at most. -/
theorem bin_index_rat (low width : Rat) {bins : Nat} (hword : bins ≤ Number.powerOfTwo 64)
    (sample : Nat) :
    binIndex low width bins sample = min ⌊((sample : Rat) - low) / width⌋₊ (bins - 1) := by
  have hwhole : Scalar.whole (((sample : Rat) - low) / width) =
      min ⌊((sample : Rat) - low) / width⌋₊ (Number.powerOfTwo 64 - 1) := rfl
  show min (Scalar.whole (((sample : Rat) - low) / width)) (bins - 1) = _
  rw [hwhole]
  omega

/-- The bin at an index. -/
theorem get_even_bins {low width : Rat} {share : Nat → Rat} {bins i : Nat} {bin : Bin Rat} :
    (evenBins low width share bins)[i]? = some bin ↔ i < bins ∧
      bin = ⟨low + width * (i : Rat), low + width * ((i + 1 : Nat) : Rat), share i⟩ := by
  rw [List.getElem?_eq_some_iff]
  simp [evenBins, eq_comm]

/-- Of bins of equal width that a sample is among, the one at its index takes it, and no other. -/
theorem takes_even_bins_iff {low width : Rat} {share : Nat → Rat} {bins sample : Nat}
    (hwidth : 0 < width) (hbins : 0 < bins) (hword : bins ≤ Number.powerOfTwo 64)
    (hlow : low ≤ sample) (hhigh : (sample : Rat) ≤ low + width * bins) (i : Nat) :
    takes (evenBins low width share bins) i sample = true ↔
      i = binIndex low width bins sample := by
  have hlength : (evenBins low width share bins).length = bins := by simp [evenBins]
  obtain ⟨position, hposition⟩ : ∃ position, ((sample : Rat) - low) / width = position := ⟨_, rfl⟩
  have hsample : (sample : Rat) = low + width * position := by
    rw [← hposition]
    field_simp
    ring
  have hnonneg : 0 ≤ position := by
    rw [← hposition]
    exact div_nonneg (sub_nonneg.mpr hlow) hwidth.le
  have hmost : position ≤ bins := by
    rw [hsample] at hhigh
    exact le_of_mul_le_mul_left (le_of_add_le_add_left hhigh) hwidth
  have hstart : low + width * (i : Rat) ≤ sample ↔ i ≤ ⌊position⌋₊ := by
    rw [hsample, add_le_add_iff_left, mul_le_mul_iff_right₀ hwidth, Nat.le_floor_iff hnonneg]
  have hstop : (sample : Rat) < low + width * ((i + 1 : Nat) : Rat) ↔ ⌊position⌋₊ < i + 1 := by
    rw [hsample, add_lt_add_iff_left, mul_lt_mul_iff_right₀ hwidth, Nat.floor_lt hnonneg]
  have hlast : i + 1 = bins → (sample : Rat) ≤ low + width * ((i + 1 : Nat) : Rat) := by
    rintro rfl
    exact hhigh
  have hfloor : ⌊position⌋₊ ≤ bins := Nat.floor_le_of_le hmost
  rw [takes, Option.any_eq_true, hlength, bin_index_rat low width hword, hposition]
  simp only [get_even_bins, and_assoc, exists_and_left, exists_eq_left, Bool.and_eq_true,
    Bool.or_eq_true, decide_eq_true_eq, beq_iff_eq, hstart, hstop, and_iff_left_of_imp hlast]
  omega

/-! ## Partitions -/

/-- So many bins, each of a width, as a partition of samples. -/
structure IsPartition (samples : List Nat) (bins : Nat) (low width : Rat)
    (shown : List (Bin Rat)) : Prop where
  length : shown.length = bins
  width_pos : 0 < width
  /-- All bins have the width. -/
  even : ∀ bin ∈ shown, bin.stop - bin.start = width
  /-- A bin starts where the one before it ends. -/
  joined : ∀ i bin next, shown[i]? = some bin → shown[i + 1]? = some next → next.start = bin.stop
  /-- The bins reach from the least sample to the greatest, or half a unit further if they are
  equal. -/
  ends : ∃ least most, least ∈ samples ∧ most ∈ samples ∧
    (∀ sample ∈ samples, least ≤ sample ∧ sample ≤ most) ∧
    low = (if least = most then (least : Rat) - 1 / 2 else least) ∧
    shown.head?.map (·.start) = some low ∧
    shown.getLast?.map (·.stop) = some (if least = most then (most : Rat) + 1 / 2 else most)
  /-- A sample is taken by the bin at its index, and by no other. -/
  taken : ∀ sample ∈ samples, ∀ i,
    takes shown i sample = true ↔ i = binIndex low width bins sample
  /-- No index is out of the bins when the samples are counted, and the shares are as counted. -/
  filled : filledShares? (1.0 / (samples.length : Rat)) bins
    (samples.map (binIndex low width bins)) = some (shown.map (·.fraction))
  /-- A share is the number of the samples that the bin takes among all samples. -/
  fraction : ∀ i bin, shown[i]? = some bin →
    bin.fraction = (samples.countP (takes shown i) : Rat) / (samples.length : Rat)
  total : Scalar.sum (shown.map (·.fraction)) = 1

/-- The shares of bins are those that counting the samples leaves. -/
theorem filled_even_bins (samples : List Nat) (low width : Rat) {bins : Nat} (h : 0 < bins) :
    filledShares? (1.0 / (samples.length : Rat)) bins (samples.map (binIndex low width bins)) =
      some ((evenBins low width (shareAt samples low width bins) bins).map (·.fraction)) := by
  have hindices : ∀ index ∈ samples.map (binIndex low width bins), index < bins := by
    intro index hindex
    obtain ⟨sample, -, rfl⟩ := List.mem_map.mp hindex
    exact bin_index_lt low width h sample
  rw [filled_shares _ hindices, evenBins, List.map_map]
  rfl

/-- The share at an index is the number of the samples there among all samples. -/
theorem share_at_eq {samples : List Nat} {low width : Rat} {bins i : Nat} {own : Nat → Bool}
    (h : ∀ sample ∈ samples, own sample = true ↔ i = binIndex low width bins sample) :
    shareAt samples low width bins i = (samples.countP own : Rat) / (samples.length : Rat) := by
  have hcount : (samples.map (binIndex low width bins)).count i = samples.countP own := by
    rw [List.count_eq_countP, List.countP_map]
    refine List.countP_congr fun sample hsample => ?_
    rw [h sample hsample, Function.comp_apply, beq_iff_eq, eq_comm]
  have hone : (1.0 : Rat) = 1 := by norm_num
  rw [shareAt, accumulated_rat, hcount, hone, mul_one_div]

/-- The bins of a histogram are a partition of the samples, as many as asked for or else one. A
number of bins has 64 bits. -/
theorem histogram_partitions {samples : List Nat} (hne : samples ≠ []) {bins : Nat}
    (hbins : bins < Number.powerOfTwo 64) :
    ∃ low width, IsPartition samples (max bins 1) low width (ofSamples samples bins) := by
  obtain ⟨least, most, hleast, hmost, hmem, hmem', hends⟩ := exists_ends hne
  obtain ⟨last, hlast⟩ : ∃ last, max bins 1 = last + 1 := ⟨max bins 1 - 1, by omega⟩
  have hword : last + 1 ≤ Number.powerOfTwo 64 := by
    have hone : 1 ≤ Number.powerOfTwo 64 := by decide
    omega
  have heven := of_samples_eq hleast hmost bins
  rw [hlast] at heven ⊢
  have hwidth : 0 < evenWidth least most (last + 1) :=
    even_width_pos (hends least hmem).2 last.succ_pos
  have hright : (range least most : Rat × Rat).1 + evenWidth least most (last + 1) *
      ((last + 1 : Nat) : Rat) = (range least most : Rat × Rat).2 := by
    rw [evenWidth, div_mul_cancel₀ _ (Nat.cast_ne_zero.mpr last.succ_ne_zero)]
    ring
  obtain ⟨hlow, hhigh⟩ := range_ends least most
  have htaken : ∀ sample ∈ samples, ∀ i, takes (ofSamples samples bins) i sample = true ↔
      i = binIndex (range least most).1 (evenWidth least most (last + 1)) (last + 1) sample := by
    intro sample hsample
    obtain ⟨hwithin, hwithin'⟩ := range_holds (hends sample hsample).1 (hends sample hsample).2
    rw [heven]
    exact takes_even_bins_iff hwidth last.succ_pos hword hwithin (hright ▸ hwithin')
  have hfilled := filled_even_bins samples (range least most).1 (evenWidth least most (last + 1))
    last.succ_pos
  rw [← heven] at hfilled
  refine ⟨(range least most).1, evenWidth least most (last + 1), ?_⟩
  constructor
  case length =>
    rw [heven, evenBins, List.length_map, List.length_range]
  case width_pos => exact hwidth
  case even =>
    rw [heven]
    intro bin hbin
    obtain ⟨i, -, rfl⟩ := List.mem_map.mp hbin
    push_cast
    ring
  case joined =>
    rw [heven]
    intro i bin next hbin hnext
    rw [(get_even_bins.mp hbin).2, (get_even_bins.mp hnext).2]
  case ends =>
    refine ⟨least, most, hmem, hmem', hends, hlow, ?_, ?_⟩
    · rw [heven, left_even_bins]
    · rw [heven, right_even_bins, hright, hhigh]
  case taken => exact htaken
  case filled => exact hfilled
  case fraction =>
    intro i bin hbin
    rw [heven] at hbin
    rw [(get_even_bins.mp hbin).2]
    exact share_at_eq fun sample hsample => htaken sample hsample i
  case total =>
    have hlength : (samples.length : Rat) ≠ 0 :=
      Nat.cast_ne_zero.mpr (List.length_pos_iff.mpr hne).ne'
    rw [sum_filled_shares hfilled, List.length_map]
    field_simp
    norm_num

/-- Numbers of operations of which one is far from the others. -/
def skewed : List Nat :=
  [1, 2, 2, 3, 10]

/-- The greatest of the numbers is taken by the last of ten bins, on its right end, and by no other
bin. -/
theorem skewed_partitioned :
    skewed ≠ [] ∧ 10 < Number.powerOfTwo 64 ∧
      ∃ low width, IsPartition skewed (max 10 1) low width (ofSamples skewed 10) ∧
        10 ∈ skewed ∧ binIndex low width (max 10 1) 10 = 9 := by
  have hne : skewed ≠ [] := List.cons_ne_nil _ _
  have hbins : 10 < Number.powerOfTwo 64 := by decide
  have hlast : takes (ofSamples skewed 10) 9 10 = true := by decide +kernel
  obtain ⟨low, width, hpartition⟩ := histogram_partitions hne hbins
  have hmem : 10 ∈ skewed := by decide
  exact ⟨hne, hbins, low, width, hpartition, hmem, ((hpartition.taken 10 hmem 9).mp hlast).symm⟩

end CallProfile.Histogram

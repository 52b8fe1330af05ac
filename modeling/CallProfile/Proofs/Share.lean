import CallProfile.Share
import CallProfile.Proofs.Number.Exact
import CallProfile.Proofs.Tally
import Mathlib.Data.List.Permutation

/-!
# Folding small shares

A pie shows every entry that is not small as a slice of its own, and all small entries together as
the last slice. Sorting permutes the entries and each of them is small or not, so the slices are a
partition of the counts: `fold_partitions` says which entries are shown, in which order, and that
nothing is lost or counted twice. The threshold may be any number, also one that no share compares
with.

In exact arithmetic a count that is smaller than a small one is small as well, so the sorted entries
are cut at one place (`kept_slices_eq_drop`), which moves on with the threshold. So `fold_by_size`
says that no folded entry reaches the count of one that is shown, and what a larger threshold does
to the slices.
-/

namespace CallProfile.Share

open Number (Scalar)

/-! ## The order of slices -/

/-- One slice stands strictly before another: it has a smaller count, or the same count and a
smaller label. -/
def Ascends (a b : Slice) : Prop :=
  a.count < b.count ∨ a.count = b.count ∧ a.label < b.label

/-- An entry is not larger than another by its count, and by its label where counts are equal. -/
theorem not_larger_iff {a b : String × Nat} :
    notLarger a b = true ↔ a.2 < b.2 ∨ a.2 = b.2 ∧ a.1 ≤ b.1 := by
  simp [notLarger]

/-- The order of entries is transitive. -/
theorem not_larger_trans (a b c : String × Nat) (hab : notLarger a b = true)
    (hbc : notLarger b c = true) : notLarger a c = true := by
  rw [not_larger_iff] at hab hbc ⊢
  rcases hab with hab | ⟨hab, hlabels⟩
  · rcases hbc with hbc | ⟨hbc, -⟩
    · exact Or.inl (hab.trans hbc)
    · exact Or.inl (hbc ▸ hab)
  · rcases hbc with hbc | ⟨hbc, hlabels'⟩
    · exact Or.inl (hab ▸ hbc)
    · exact Or.inr ⟨hab.trans hbc, Std.le_trans hlabels hlabels'⟩

/-- The order of entries is total. -/
theorem not_larger_total (a b : String × Nat) : (notLarger a b || notLarger b a) = true := by
  rw [Bool.or_eq_true, not_larger_iff, not_larger_iff]
  rcases Nat.lt_trichotomy a.2 b.2 with hlt | heq | hgt
  · exact Or.inl (Or.inl hlt)
  · exact (Std.le_total (a := a.1) (b := b.1)).imp (fun h => Or.inr ⟨heq, h⟩)
      fun h => Or.inr ⟨heq.symm, h⟩
  · exact Or.inr (Or.inl hgt)

/-- The slice of an entry. -/
def sliceOf (entry : String × Nat) : Slice :=
  ⟨entry.1, entry.2⟩

/-- Sorted entries with labels apart make slices that ascend strictly. -/
theorem ascends_of_not_larger {a b : String × Nat} (h : notLarger a b = true) (hne : a.1 ≠ b.1) :
    Ascends (sliceOf a) (sliceOf b) :=
  (not_larger_iff.mp h).imp_right fun ⟨hcount, hlabel⟩ =>
    ⟨hcount, Std.lt_of_le_of_ne hlabel hne⟩

/-! ## The partition -/

variable {α : Type} [Scalar α]

/-- The entries that a threshold folds. -/
def smallEntries (counts : List (String × Nat)) (threshold : α) : List (String × Nat) :=
  counts.filter fun entry => isSmall (Number.total (counts.map (·.2))) threshold entry.2

/-- The slices of the entries that a threshold leaves, in their order. -/
def keptSlices (counts : List (String × Nat)) (threshold : α) : List Slice :=
  ((counts.mergeSort notLarger).filter fun entry =>
    !isSmall (Number.total (counts.map (·.2))) threshold entry.2).map sliceOf

/-- The total of entries is that of those with a property and of those without. -/
theorem total_filter_add (property : String × Nat → Bool) (entries : List (String × Nat)) :
    Number.total ((entries.filter property).map (·.2)) +
        Number.total ((entries.filter fun entry => !property entry).map (·.2)) =
      Number.total (entries.map (·.2)) := by
  rw [← Number.total_append, ← List.map_append]
  exact Number.total_of_perm ((List.filter_append_perm property entries).map _)

/-- The slices are those that are kept and one for the small entries. -/
theorem slices_fold (counts : List (String × Nat)) (threshold : α) :
    (fold counts threshold).slices =
      keptSlices counts threshold ++
        [⟨foldedLabel, Number.total ((smallEntries counts threshold).map (·.2))⟩] := by
  have hsmall : Number.total (((counts.mergeSort notLarger).filter fun entry =>
      isSmall (Number.total (counts.map (·.2))) threshold entry.2).map (·.2)) =
        Number.total ((smallEntries counts threshold).map (·.2)) :=
    Number.total_of_perm (((List.mergeSort_perm counts _).filter _).map _)
  rw [← hsmall]
  simp only [fold, List.partition_eq_filter_filter]
  rfl

/-- The entries that are kept are those that are not small. -/
theorem mem_kept_slices {counts : List (String × Nat)} {threshold : α} {slice : Slice} :
    slice ∈ keptSlices counts threshold ↔
      (slice.label, slice.count) ∈ counts ∧
        isSmall (Number.total (counts.map (·.2))) threshold slice.count = false := by
  simp only [keptSlices, List.mem_map, List.mem_filter, List.mem_mergeSort, Bool.not_eq_true']
  constructor
  · rintro ⟨entry, hentry, rfl⟩
    exact hentry
  · intro hentry
    exact ⟨(slice.label, slice.count), hentry, rfl⟩

/-- The slices that are kept ascend strictly if no two entries have one label. -/
theorem pairwise_kept_slices {counts : List (String × Nat)} (hlabels : (counts.map (·.1)).Nodup)
    (threshold : α) : (keptSlices counts threshold).Pairwise Ascends := by
  have hsorted := List.pairwise_mergeSort not_larger_trans not_larger_total counts
  have hapart : ((counts.mergeSort notLarger).map (·.1)).Nodup :=
    ((List.mergeSort_perm counts _).map _).nodup_iff.mpr hlabels
  have hascends := (hsorted.and (List.pairwise_map.mp hapart)).imp
    fun h => ascends_of_not_larger h.1 h.2
  exact List.pairwise_map.mpr (hascends.filter _)

/-- What is kept and what is folded is all that was counted. -/
theorem total_kept_add_small (counts : List (String × Nat)) (threshold : α) :
    Number.total ((keptSlices counts threshold).map (·.count)) +
        Number.total ((smallEntries counts threshold).map (·.2)) =
      Number.total (counts.map (·.2)) := by
  have hkept : Number.total ((keptSlices counts threshold).map (·.count)) =
      Number.total ((counts.filter fun entry =>
        !isSmall (Number.total (counts.map (·.2))) threshold entry.2).map (·.2)) := by
    rw [keptSlices, List.map_map]
    exact Number.total_of_perm (((List.mergeSort_perm counts _).filter _).map _)
  rw [hkept, Nat.add_comm]
  exact total_filter_add _ counts

/-- Slices are a partition of counts, for a test of which counts are small. -/
structure Partitions (counts : List (String × Nat)) (small : Nat → Bool) (share : Share)
    (kept : List Slice) : Prop where
  /-- One slice is added, for the entries that are small. -/
  slices : share.slices =
    kept ++ [⟨"Other", Number.total ((counts.filter fun entry => small entry.2).map (·.2))⟩]
  /-- Every other entry has its slice, with its own label and count, and no other slice is there. -/
  mem_kept : ∀ slice, slice ∈ kept ↔
    (slice.label, slice.count) ∈ counts ∧ small slice.count = false
  /-- These slices ascend strictly by count and label. -/
  ascending : kept.Pairwise Ascends
  /-- The total is that of the counts. -/
  total : share.total = Number.total (counts.map (·.2))
  /-- The slices have the total together. -/
  total_slices : Number.total (share.slices.map (·.count)) = share.total
  /-- The folded count is the total without the slices that are kept. -/
  folded : Number.total (kept.map (·.count)) ≤ share.total ∧
    share.folded = share.total - Number.total (kept.map (·.count))

/-- Folding loses and invents nothing: for counts of labels apart and any threshold, the slices are
those of the entries whose share is not below the threshold, strictly ascending, and one last slice
for all other entries, which has what the total leaves. -/
theorem fold_partitions {counts : List (String × Nat)} (hlabels : (counts.map (·.1)).Nodup)
    (threshold : α) :
    ∃ kept, Partitions counts (isSmall (Number.total (counts.map (·.2))) threshold)
      (fold counts threshold) kept := by
  have hslices := slices_fold counts threshold
  have htotal := total_kept_add_small counts threshold
  refine ⟨keptSlices counts threshold, hslices, fun slice => mem_kept_slices,
    pairwise_kept_slices hlabels threshold, rfl, ?_, ?_⟩
  · rw [hslices, List.map_append, Number.total_append]
    exact htotal
  · have hfolded : (fold counts threshold).folded =
        Number.total ((smallEntries counts threshold).map (·.2)) := by
      simp [folded, hslices]
    have hshare : (fold counts threshold).total = Number.total (counts.map (·.2)) := rfl
    omega

/-- Counts with a tie, a small entry and an entry with the label of the folded slice. -/
def mixedCounts : List (String × Nat) :=
  [("Other", 100), ("a", 49), ("b", 49), ("c", 1)]

/-- The counts in the order of the slices. -/
theorem merge_sort_mixed_counts :
    mixedCounts.mergeSort notLarger = [("c", 1), ("a", 49), ("b", 49), ("Other", 100)] := by
  cbv

/-- The small entry is folded into a slice of its own, the tie is broken by the label, and no share
is below an undefined threshold. -/
theorem mixed_counts_folded :
    (mixedCounts.map (·.1)).Nodup ∧
      (fold mixedCounts (0.015 : Float)).slices =
        [⟨"a", 49⟩, ⟨"b", 49⟩, ⟨"Other", 100⟩, ⟨"Other", 1⟩] ∧
      (fold mixedCounts (0.0 / 0.0 : Float)).folded = 0 ∧
      ∀ threshold : Float, ∃ kept, Partitions mixedCounts
        (isSmall (Number.total (mixedCounts.map (·.2))) threshold) (fold mixedCounts threshold)
        kept := by
  have hlabels : (mixedCounts.map (·.1)).Nodup := by decide
  refine ⟨hlabels, ?_, ?_, fold_partitions hlabels⟩
  · simp only [fold, merge_sort_mixed_counts]
    decide +kernel
  · simp only [fold, merge_sort_mixed_counts]
    decide +kernel

/-! ## By size -/

/-- The slices in front of the folded one. -/
def shown (share : Share) : List Slice :=
  share.slices.dropLast

/-- The slices in front of the folded one are those that are kept. -/
theorem shown_fold (counts : List (String × Nat)) (threshold : α) :
    (fold counts threshold).shown = keptSlices counts threshold := by
  rw [shown, slices_fold, List.dropLast_concat]

/-- The folded slice counts the small entries. -/
theorem folded_fold (counts : List (String × Nat)) (threshold : α) :
    (fold counts threshold).folded =
      Number.total ((smallEntries counts threshold).map (·.2)) := by
  simp [folded, slices_fold]

/-- If a property of a value is one of all values before it, the values without it are those from
some place on. -/
theorem filter_not_eq_drop {β : Type} {property : β → Bool} {l : List β}
    (h : l.Pairwise fun a b => property b = true → property a = true) :
    l.filter (fun a => !property a) = l.drop (l.countP property) := by
  induction l with
  | nil => rfl
  | cons a l ih =>
      obtain ⟨hhead, hrest⟩ := List.pairwise_cons.mp h
      by_cases ha : property a = true
      · rw [List.filter_cons_of_neg (by simp [ha]), ih hrest, List.countP_cons_of_pos ha,
          List.drop_succ_cons]
      · -- nothing behind the first value without the property has it
        have hnone : ∀ b ∈ a :: l, property b = false := by
          rintro b (_ | ⟨_, hb⟩)
          · exact Bool.not_eq_true _ ▸ ha
          · exact Bool.not_eq_true _ ▸ fun hproperty => ha (hhead b hb hproperty)
        have hcount : (a :: l).countP property = 0 :=
          List.countP_eq_zero.mpr fun b hb => by simp [hnone b hb]
        rw [hcount, List.drop_zero, List.filter_eq_self]
        intro b hb
        rw [hnone b hb, Bool.not_false]

section Exact

variable {total count other : Nat} {low high : Rat}

/-- A count is small if its share is below the threshold. -/
theorem is_small_rat {threshold : Rat} :
    isSmall total threshold count = true ↔ (count : Rat) / total < threshold := by
  simp [isSmall]

/-- A count that is not above a small one is small. -/
theorem is_small_of_le (hle : count ≤ other) (h : isSmall total low other = true) :
    isSmall total low count = true := by
  rw [is_small_rat] at h ⊢
  calc
    (count : Rat) / total ≤ other / total := by gcongr
    _ < low := h

/-- A small count is small for a larger threshold. -/
theorem is_small_mono (hle : low ≤ high) (h : isSmall total low count = true) :
    isSmall total high count = true := by
  rw [is_small_rat] at h ⊢
  exact h.trans_le hle

variable (counts : List (String × Nat))

/-- The number of sorted entries in front of the place where they are cut. -/
def cut (threshold : Rat) : Nat :=
  (counts.mergeSort notLarger).countP fun entry =>
    isSmall (Number.total (counts.map (·.2))) threshold entry.2

/-- The slices that are kept are those of the sorted entries behind the cut. -/
theorem kept_slices_eq_drop (threshold : Rat) :
    keptSlices counts threshold =
      ((counts.mergeSort notLarger).drop (cut counts threshold)).map sliceOf := by
  have hsorted := List.pairwise_mergeSort not_larger_trans not_larger_total counts
  rw [keptSlices, cut, filter_not_eq_drop]
  refine hsorted.imp fun {a b} hle hsmall => ?_
  have hcounts : a.2 ≤ b.2 := (not_larger_iff.mp hle).elim Nat.le_of_lt fun h => h.1.le
  exact is_small_of_le hcounts hsmall

/-- The cut moves on with the threshold. -/
theorem cut_mono (hle : low ≤ high) : cut counts low ≤ cut counts high :=
  List.countP_mono_left fun _ _ => is_small_mono hle

variable {counts}

/-- An entry that is not shown has a smaller count than each slice that is. -/
theorem lt_of_not_shown {threshold : Rat} {entry : String × Nat} (hentry : entry ∈ counts)
    (hfolded : sliceOf entry ∉ (fold counts threshold).shown) {slice : Slice}
    (hslice : slice ∈ (fold counts threshold).shown) : entry.2 < slice.count := by
  rw [shown_fold, mem_kept_slices] at hfolded hslice
  have hsmall : isSmall (Number.total (counts.map (·.2))) threshold entry.2 = true :=
    Bool.not_eq_false _ ▸ fun h => hfolded ⟨hentry, h⟩
  refine Nat.lt_of_not_le fun hle => ?_
  have hslices := is_small_of_le hle hsmall
  rw [hslice.2] at hslices
  cases hslices

/-- The slices that a larger threshold shows are the last ones that a smaller one does. -/
theorem shown_suffix (counts : List (String × Nat)) (hle : low ≤ high) :
    (fold counts high).shown <:+ (fold counts low).shown := by
  rw [shown_fold, shown_fold, kept_slices_eq_drop, kept_slices_eq_drop]
  exact (List.drop_suffix_drop_left _ (cut_mono counts hle)).map _

/-- What a larger threshold folds is at least what a smaller one does. -/
theorem folded_mono (counts : List (String × Nat)) (hle : low ≤ high) :
    (fold counts low).folded ≤ (fold counts high).folded := by
  have hlow := total_kept_add_small counts low
  have hhigh := total_kept_add_small counts high
  obtain ⟨front, hfront⟩ := shown_suffix counts hle
  rw [shown_fold, shown_fold] at hfront
  rw [← hfront, List.map_append, Number.total_append] at hlow
  rw [folded_fold, folded_fold]
  omega

/-- The last slice of a share is what is left of counts behind the largest ones. -/
structure FoldsSmallest (counts : List (String × Nat)) (share : Share) : Prop where
  /-- One slice stands behind those that are shown. -/
  slices : share.slices = share.shown ++ [⟨"Other", share.folded⟩]
  /-- It counts the entries that are not shown. -/
  folded : share.folded =
    Number.total ((counts.filter fun entry => sliceOf entry ∉ share.shown).map (·.2))
  /-- Each of these entries has a smaller count than every slice that is shown. -/
  smaller : ∀ entry ∈ counts, sliceOf entry ∉ share.shown →
    ∀ slice ∈ share.shown, entry.2 < slice.count

/-- Whatever the threshold, the smallest entries are folded. -/
theorem folds_smallest (counts : List (String × Nat)) (threshold : Rat) :
    FoldsSmallest counts (fold counts threshold) where
  slices := by rw [shown_fold, folded_fold, slices_fold, foldedLabel]
  folded := by
    have hentries : smallEntries counts threshold =
        counts.filter fun entry => sliceOf entry ∉ (fold counts threshold).shown := by
      refine List.filter_congr fun entry hentry => ?_
      simp [shown_fold, mem_kept_slices, sliceOf, hentry]
    rw [folded_fold, hentries]
  smaller entry hentry hfolded slice := lt_of_not_shown hentry hfolded

/-- Folding is by size: no entry that is folded has as large a count as one that is shown. With a
larger threshold, the slices that are shown are the last ones of those before, and the folded slice
has at least the count that it had. -/
theorem fold_by_size (counts : List (String × Nat)) {low high : Rat} (hle : low ≤ high) :
    (∀ threshold : Rat, FoldsSmallest counts (fold counts threshold)) ∧
      (fold counts high).shown <:+ (fold counts low).shown ∧
      (fold counts low).folded ≤ (fold counts high).folded :=
  ⟨folds_smallest counts, shown_suffix counts hle, folded_mono counts hle⟩

/-- A threshold of the share of a tie shows the tie, and a larger one folds all of it. -/
theorem tie_folded_together :
    (49 / 199 : Rat) ≤ 1 / 4 ∧
      (fold mixedCounts (49 / 199 : Rat)).slices =
        [⟨"a", 49⟩, ⟨"b", 49⟩, ⟨"Other", 100⟩, ⟨"Other", 1⟩] ∧
      (fold mixedCounts (1 / 4 : Rat)).slices = [⟨"Other", 100⟩, ⟨"Other", 99⟩] ∧
      (fold mixedCounts (1 / 4 : Rat)).shown <:+ (fold mixedCounts (49 / 199 : Rat)).shown ∧
      (fold mixedCounts (49 / 199 : Rat)).folded ≤ (fold mixedCounts (1 / 4 : Rat)).folded := by
  have hle : (49 / 199 : Rat) ≤ 1 / 4 := by norm_num
  refine ⟨hle, ?_, ?_, (fold_by_size mixedCounts hle).2⟩
  · simp only [fold, merge_sort_mixed_counts]
    decide +kernel
  · simp only [fold, merge_sort_mixed_counts]
    decide +kernel

end Exact

end CallProfile.Share

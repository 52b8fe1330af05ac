import CallProfile.Number.Power
import CallProfile.Proofs.Grouping
import Mathlib.Algebra.BigOperators.Group.List.Lemmas
import Mathlib.Data.List.Dedup

/-!
# What counts say

Counting keys lists each of them once, with the number of its occurrences (`tally_eq`). So the count
kept for a key is that number (`count_of_tally`), and the counts of all keys together are the number
of things counted (`total_tally`): none is lost and none is counted twice.
-/

namespace CallProfile

/-! ## Totals -/

/-- A count in front adds to the total. -/
theorem Number.total_cons (n : Nat) (counts : List Nat) :
    total (n :: counts) = n + total counts :=
  rfl

/-- The total of counts and others is the total of each together. -/
theorem Number.total_append (counts other : List Nat) :
    total (counts ++ other) = total counts + total other := by
  induction counts with
  | nil => exact (Nat.zero_add _).symm
  | cons n counts ih => rw [List.cons_append, total_cons, total_cons, ih, Nat.add_assoc]

/-- A total does not depend on the order of the counts. -/
theorem Number.total_of_perm {counts other : List Nat} (h : counts.Perm other) :
    total counts = total other := by
  have hcomm : LeftCommutative Nat.add := ⟨Nat.add_left_comm⟩
  exact h.foldr_eq 0

/-! ## Counts of keys -/

variable {κ : Type} [LE κ] [DecidableLE κ] [DecidableEq κ]

omit [LE κ] [DecidableLE κ] in
/-- A key looked up among keys listed with their values has its own value, if it is listed. -/
theorem lookup_map_key {β : Type} (read : κ → β) (keys : List κ) (key : κ) :
    (keys.map fun key => (key, read key)).lookup key =
      if key ∈ keys then some (read key) else none := by
  induction keys with
  | nil => rfl
  | cons first keys ih =>
      rw [List.map_cons, List.lookup_cons, ih]
      by_cases hkey : key = first
      · simp [hkey]
      · simp [hkey, beq_eq_false_iff_ne.mpr hkey]

omit [LE κ] [DecidableLE κ] in
/-- Keys that all have one value have it once for each of their occurrences. -/
theorem values_of_map_pair {β : Type} (value : β) (keys : List κ) (key : κ) :
    valuesOf (keys.map (·, value)) key = List.replicate (keys.count key) value := by
  rw [values_of_map, List.map_const', List.count_eq_countP, List.countP_eq_length_filter]
  rfl

variable [Std.IsLinearOrder κ]

/-- The counts of keys are the numbers of their occurrences, in the ascending order of the keys. -/
theorem tally_eq (keys : List κ) :
    tally keys = (ascending keys).map fun key => (key, keys.count key) := by
  have hcount : ∀ key, (valuesOf (keys.map (·, ())) key).length = keys.count key := fun key => by
    rw [values_of_map_pair, List.length_replicate]
  rw [tally, grouped_eq, List.map_map, List.map_map]
  simp only [Function.comp_def, hcount, List.map_id']

omit [Std.IsLinearOrder κ] in
/-- Which keys are counted: those that occur. -/
theorem mem_keys_tally {keys : List κ} {key : κ} :
    key ∈ (tally keys).map (·.1) ↔ key ∈ keys :=
  mem_ascending

omit [Std.IsLinearOrder κ] in
/-- Nothing is counted exactly if there is no key. -/
theorem tally_eq_nil_iff {keys : List κ} : tally keys = [] ↔ keys = [] := by
  rw [tally, List.map_eq_nil_iff, grouped_eq_nil_iff, List.map_eq_nil_iff]

/-- No key is counted twice. -/
theorem nodup_keys_tally (keys : List κ) : ((tally keys).map (·.1)).Nodup :=
  (pairwise_ascending keys).imp And.right

/-- The count kept for a key is the number of its occurrences. -/
theorem count_of_tally (keys : List κ) (key : κ) : countOf (tally keys) key = keys.count key := by
  rw [countOf, tally_eq, lookup_map_key]
  by_cases hkey : key ∈ keys
  · simp [mem_ascending, hkey]
  · simp [mem_ascending, hkey, List.count_eq_zero.mpr hkey]

/-- An entry holds the count that is kept for its key. -/
theorem count_of_mem_tally {keys : List κ} {entry : κ × Nat} (h : entry ∈ tally keys) :
    entry.2 = countOf (tally keys) entry.1 := by
  rw [tally_eq] at h
  obtain ⟨key, -, rfl⟩ := List.mem_map.mp h
  rw [count_of_tally]

/-- A key that occurs has one entry, with the number of its occurrences, and no other key has
one. -/
theorem filter_tally (keys : List κ) (key : κ) :
    (tally keys).filter (·.1 = key) = if key ∈ keys then [(key, keys.count key)] else [] := by
  have hsame : (tally keys).filter (·.1 = key) =
      ((ascending keys).filter (· = key)).map fun key => (key, keys.count key) := by
    rw [tally_eq, List.filter_map]
    rfl
  rw [hsame, List.filter_eq]
  by_cases hkey : key ∈ keys
  · have hcount : (ascending keys).count key = 1 :=
      List.count_eq_one_of_mem (nodup_keys_tally keys) (mem_ascending.mpr hkey)
    simp [hcount, hkey]
  · have hcount : (ascending keys).count key = 0 :=
      List.count_eq_zero.mpr fun hmem => hkey (mem_ascending.mp hmem)
    simp [hcount, hkey]

/-- The counts of all keys together are as many as the keys. -/
theorem total_tally (keys : List κ) : Number.total ((tally keys).map (·.2)) = keys.length := by
  have hperm : (ascending keys).Perm keys.dedup :=
    (List.perm_ext_iff_of_nodup (nodup_keys_tally keys) keys.nodup_dedup).mpr fun _ =>
      mem_keys_tally.trans List.mem_dedup.symm
  rw [tally_eq, List.map_map, Number.total_of_perm (hperm.map _)]
  exact List.sum_map_count_dedup_eq_length keys

end CallProfile

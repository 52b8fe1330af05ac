import Mathlib.Data.List.Nodup

/-!
# Entries by their keys

Tables, directories and documents hold entries under keys. A new entry takes the place of the old
one (`lookup_replaced`), and where no key is repeated each entry is found (`lookup_of_mem`).
-/

namespace CallProfile

variable {α β : Type} [BEq α] [LawfulBEq α] {entries : List (α × β)} {key other : α}

/-- Looking a key up among the other keys. -/
theorem lookup_filter_ne (h : other ≠ key) :
    (entries.filter (·.1 != key)).lookup other = entries.lookup other := by
  induction entries with
  | nil => rfl
  | cons entry entries ih =>
      obtain ⟨name, value⟩ := entry
      rw [List.filter_cons, List.lookup_cons]
      by_cases hname : name = key
      · have hne : (other == name) = false := beq_false_of_ne (hname ▸ h)
        rw [if_neg (by simp [hname]), ih, hne]
      · rw [if_pos (by simpa using hname), List.lookup_cons, ih]

/-- The entry under a key is gone from the other keys. -/
theorem lookup_filter_self : (entries.filter (·.1 != key)).lookup key = none := by
  refine List.lookup_eq_none_iff.mpr fun entry hentry => ?_
  have hother : entry.1 ≠ key := by simpa using (List.mem_filter.mp hentry).2
  simpa using Ne.symm hother

/-- An entry put in place of the one under its key is found, and the others are as they were. -/
theorem lookup_replaced [DecidableEq α] (entries : List (α × β)) (key : α) (value : β) (other : α) :
    (entries.filter (·.1 != key) ++ [(key, value)]).lookup other =
      if other = key then some value else entries.lookup other := by
  rw [List.lookup_append]
  split
  · next hsame => rw [hsame, lookup_filter_self, List.lookup_cons_self, Option.none_or]
  · next hother =>
      rw [lookup_filter_ne hother, List.lookup_cons, beq_false_of_ne hother, List.lookup_nil,
        Option.or_none]

/-- Under a key that is not repeated stands the value of its one entry. -/
theorem lookup_of_mem {value : β} (hnodup : (entries.map (·.1)).Nodup)
    (hmem : (key, value) ∈ entries) : entries.lookup key = some value := by
  induction entries with
  | nil => exact absurd hmem List.not_mem_nil
  | cons entry entries ih =>
      obtain ⟨name, found⟩ := entry
      obtain ⟨habsent, hrest⟩ := List.nodup_cons.mp hnodup
      rcases List.mem_cons.mp hmem with heq | htail
      · cases heq
        exact List.lookup_cons_self
      · have hne : (key == name) = false := by
          refine beq_eq_false_iff_ne.mpr ?_
          rintro rfl
          exact habsent (List.mem_map.mpr ⟨(key, value), htail, rfl⟩)
        rw [List.lookup_cons, hne]
        exact ih hrest htail

/-- Nothing stands under a key without an entry. -/
theorem lookup_of_not_mem (h : key ∉ entries.map (·.1)) : entries.lookup key = none := by
  refine List.lookup_eq_none_iff.mpr fun entry hentry => bne_iff_ne.mpr ?_
  rintro rfl
  exact h (List.mem_map.mpr ⟨entry, hentry, rfl⟩)

/-- A key under which nothing stands has no entry. -/
theorem not_mem_of_lookup (h : entries.lookup key = none) :
    key ∉ entries.map (·.1) := by
  intro hmem
  obtain ⟨entry, hentry, rfl⟩ := List.mem_map.mp hmem
  simpa using List.lookup_eq_none_iff.mp h entry hentry

end CallProfile

import Mathlib.Data.List.Nodup
import Mathlib.Data.List.Perm.Basic

/-!
# Sorting by a key and first occurrences

A stable sort by a key is determined by what it may not change: the result ascends by the key, and
the values of each key stand in the order in which they came (`pairwise_merge_sort_key`,
`filter_merge_sort_key`). No other list has both properties (`eq_of_ascending`).

`eraseDups` keeps the first of equal values. What it keeps are all values, each once, in the order
of their first occurrences (`nodup_erase_dups`, `pairwise_idx_of_erase_dups`).
-/

namespace CallProfile

/-! ## Sorting by a key -/

section Sorting

variable {κ β : Type} [LE κ] [DecidableLE κ] [Std.IsLinearOrder κ] (key : β → κ)

/-- The order by a key is transitive. -/
theorem key_le_trans (a b c : β) (hab : decide (key a ≤ key b) = true)
    (hbc : decide (key b ≤ key c) = true) : decide (key a ≤ key c) = true :=
  decide_eq_true (Std.le_trans (of_decide_eq_true hab) (of_decide_eq_true hbc))

/-- The order by a key is total. -/
theorem key_le_total (a b : β) : (decide (key a ≤ key b) || decide (key b ≤ key a)) = true := by
  simpa using Std.le_total (a := key a) (b := key b)

/-- A list sorted by a key ascends by it. -/
theorem pairwise_merge_sort_key (l : List β) :
    (l.mergeSort fun a b => key a ≤ key b).Pairwise fun a b => key a ≤ key b := by
  have hsorted := List.pairwise_mergeSort (key_le_trans key) (key_le_total key) l
  simpa using hsorted

variable [DecidableEq κ]

/-- Sorting by a key keeps the values of each key in their order. -/
theorem filter_merge_sort_key (k : κ) (l : List β) :
    (l.mergeSort fun a b => key a ≤ key b).filter (key · = k) = l.filter (key · = k) := by
  -- The values of one key are in order as they stand, and a stable sort keeps what is in order.
  have htied : (l.filter (key · = k)).Pairwise fun a b => decide (key a ≤ key b) = true := by
    refine List.pairwise_of_forall_mem_list fun a ha b hb => ?_
    have hak : key a = k := by simpa using (List.mem_filter.mp ha).2
    have hbk : key b = k := by simpa using (List.mem_filter.mp hb).2
    exact decide_eq_true (hak.trans hbk.symm ▸ Std.le_refl _)
  have hsub := (List.sublist_mergeSort (key_le_trans key) (key_le_total key) htied
    List.filter_sublist).filter (key · = k)
  simp only [List.filter_filter, Bool.and_self] at hsub
  exact (hsub.eq_of_length ((List.mergeSort_perm l _).filter _).length_eq.symm).symm

omit [DecidableLE κ] in
/-- The first value of an ascending list has the least key. -/
theorem key_le_of_filter_eq {a b : β} {l other : List β}
    (hother : (b :: other).Pairwise fun a b => key a ≤ key b)
    (hsame : (a :: l).filter (key · = key a) = (b :: other).filter (key · = key a)) :
    key b ≤ key a := by
  have hmem : a ∈ (b :: other).filter (key · = key a) := by
    rw [← hsame]
    simp
  rcases List.mem_cons.mp (List.mem_filter.mp hmem).1 with rfl | htail
  · exact Std.le_refl _
  · exact List.rel_of_pairwise_cons hother htail

omit [DecidableLE κ] in
/-- Ascending lists with the same values of each key, in the same order, are equal. -/
theorem eq_of_ascending {l other : List β} (hl : l.Pairwise fun a b => key a ≤ key b)
    (hother : other.Pairwise fun a b => key a ≤ key b)
    (hsame : ∀ k, l.filter (key · = k) = other.filter (key · = k)) : l = other := by
  induction l generalizing other with
  | nil =>
      cases other with
      | nil => rfl
      | cons b other => simpa using hsame (key b)
  | cons a l ih =>
      cases other with
      | nil => simpa using hsame (key a)
      | cons b other =>
          -- Each first value occurs in the other list, so neither key is below the other.
          have hkey : key a = key b :=
            Std.le_antisymm (key_le_of_filter_eq key hl (hsame (key b)).symm)
              (key_le_of_filter_eq key hother (hsame (key a)))
          have hhead : a = b := by
            have h := hsame (key b)
            simp only [List.filter_cons, hkey, decide_true, if_true] at h
            exact (List.cons.inj h).1
          subst hhead
          rw [ih hl.of_cons hother.of_cons fun k => ?_]
          have h := hsame k
          by_cases hk : key a = k
          · simpa [List.filter_cons, hk] using h
          · simpa [List.filter_cons, hk] using h

end Sorting

/-! ## First occurrences -/

section FirstOccurrences

variable {α : Type} [BEq α] [LawfulBEq α]

/-- No value is kept twice. -/
theorem nodup_erase_dups (l : List α) : l.eraseDups.Nodup := by
  cases l with
  | nil => simp
  | cons a l =>
      rw [List.eraseDups_cons, List.nodup_cons]
      refine ⟨?_, nodup_erase_dups _⟩
      simp [List.mem_eraseDups]
termination_by l.length
decreasing_by exact Nat.lt_succ_of_le (List.length_filter_le _ _)

/-- Lists with the same values, each in any number, keep equally many of them. -/
theorem length_erase_dups_of_perm {l other : List α} (h : l.Perm other) :
    l.eraseDups.length = other.eraseDups.length := by
  have hperm : l.eraseDups.Perm other.eraseDups := by
    refine (List.perm_ext_iff_of_nodup (nodup_erase_dups l) (nodup_erase_dups other)).mpr ?_
    intro a
    rw [List.mem_eraseDups, List.mem_eraseDups, h.mem_iff]
  exact hperm.length_eq

/-- Renaming values apart keeps equally many of them. -/
theorem length_erase_dups_map {β : Type} [BEq β] [LawfulBEq β] {f : α → β} {l : List α}
    (hinj : ∀ a ∈ l, ∀ b ∈ l, f a = f b → a = b) :
    (l.map f).eraseDups.length = l.eraseDups.length := by
  have hnodup : (l.eraseDups.map f).Nodup := by
    refine (nodup_erase_dups l).map_on fun a ha b hb => ?_
    exact hinj a (List.mem_eraseDups.mp ha) b (List.mem_eraseDups.mp hb)
  have hperm : (l.map f).eraseDups.Perm (l.eraseDups.map f) := by
    refine (List.perm_ext_iff_of_nodup (nodup_erase_dups _) hnodup).mpr fun b => ?_
    simp only [List.mem_eraseDups, List.mem_map]
  simpa using hperm.length_eq

/-- Leaving out values does not change which of two others occurs first. -/
theorem idx_of_lt_of_filter {p : α → Bool} {a b : α} {l : List α} (ha : p a = true)
    (hb : p b = true) (h : (l.filter p).idxOf a < (l.filter p).idxOf b) :
    l.idxOf a < l.idxOf b := by
  induction l with
  | nil => simp at h
  | cons c l ih =>
      by_cases hc : p c = true
      · rw [List.filter_cons_of_pos hc] at h
        by_cases hca : c = a
        · by_cases hcb : c = b
          · simp [hca ▸ hcb] at h
          · simp [hca, hca ▸ hcb]
        · by_cases hcb : c = b
          · simp [List.idxOf_cons, hcb] at h
          · rw [List.idxOf_cons_ne _ hca, List.idxOf_cons_ne _ hcb] at h ⊢
            exact Nat.succ_lt_succ (ih (Nat.lt_of_succ_lt_succ h))
      · rw [List.filter_cons_of_neg hc] at h
        have hca : c ≠ a := by
          rintro rfl
          exact hc ha
        have hcb : c ≠ b := by
          rintro rfl
          exact hc hb
        rw [List.idxOf_cons_ne _ hca, List.idxOf_cons_ne _ hcb]
        exact Nat.succ_lt_succ (ih h)

/-- The values are kept in the order of their first occurrences. -/
theorem pairwise_idx_of_erase_dups (l : List α) :
    l.eraseDups.Pairwise fun a b => l.idxOf a < l.idxOf b := by
  cases l with
  | nil => simp
  | cons a l =>
      -- The rest keeps no `a`, so leaving out `a` moves its positions by one and keeps their order.
      have hkept : ∀ b ∈ (l.filter fun b => !b == a).eraseDups, (!b == a) = true :=
        fun b hb => (List.mem_filter.mp (List.mem_eraseDups.mp hb)).2
      have hlater : ∀ b, (!b == a) = true → (a :: l).idxOf b = l.idxOf b + 1 := by
        intro b hb
        have hne : a ≠ b := by
          rintro rfl
          simp at hb
        simp [hne]
      rw [List.eraseDups_cons, List.pairwise_cons]
      refine ⟨fun b hb => ?_, ?_⟩
      · rw [hlater b (hkept b hb), List.idxOf_cons_self]
        exact Nat.succ_pos _
      · refine (pairwise_idx_of_erase_dups _).imp_of_mem fun {b c} hb hc hlt => ?_
        rw [hlater b (hkept b hb), hlater c (hkept c hc)]
        exact Nat.succ_lt_succ
          (idx_of_lt_of_filter (p := fun b => !b == a) (hkept b hb) (hkept c hc) hlt)
termination_by l.length
decreasing_by exact Nat.lt_succ_of_le (List.length_filter_le _ _)

end FirstOccurrences

end CallProfile

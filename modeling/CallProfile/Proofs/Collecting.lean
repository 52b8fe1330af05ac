import CallProfile.Proofs.Tally
import Mathlib.Data.List.Induction

/-!
# Collecting in a map

A map is filled one pair after another: a pair changes the value of its key, and a key that is not
in the map yet starts from a fresh value. Where a new key is put is a matter of the map: at the end
(`first_come`), or where the ascending order has it (`in_order`). In either map the entry of a key
is what the values of the key make of the fresh value, in their order, whatever came between them
(`collect_eq`). So filling a map in one pass over the pairs comes to the same as sorting the keys
out first.
-/

namespace CallProfile

variable {κ β ν : Type} [DecidableEq κ]

/-- The keys with one more, put in front of the first key that `before` puts it in front of. A key
that is there already is not put in again. -/
def insertKey (before : κ → κ → Bool) (key : κ) : List κ → List κ
  | [] => [key]
  | next :: rest =>
    if key = next then next :: rest
    else if before key next then key :: next :: rest
    else next :: insertKey before key rest

/-- The entries with the value of a key changed. A key that is not there starts from `fresh`. -/
def changeAt (before : κ → κ → Bool) (fresh : ν) (change : ν → ν) (key : κ) :
    List (κ × ν) → List (κ × ν)
  | [] => [(key, change fresh)]
  | (next, value) :: rest =>
    if key = next then (next, change value) :: rest
    else if before key next then (key, change fresh) :: (next, value) :: rest
    else (next, value) :: changeAt before fresh change key rest

/-- The entries that pairs leave, filled in one after another. -/
def collect (before : κ → κ → Bool) (fresh : ν) (step : ν → β → ν) (pairs : List (κ × β)) :
    List (κ × ν) :=
  pairs.foldl (fun entries pair => changeAt before fresh (step · pair.2) pair.1 entries) []

/-! ## One pair -/

/-- Keys that stand where `before` puts them: none is there twice, and none would be put in front of
an earlier one. -/
def Placed (before : κ → κ → Bool) (keys : List κ) : Prop :=
  keys.Pairwise fun a b => a ≠ b ∧ before b a = false

/-- A change of one value, as a change of how values are read off the keys. -/
theorem change_at_eq {before : κ → κ → Bool} {fresh : ν} (change : ν → ν) {key : κ}
    {keys : List κ} (hkeys : Placed before keys) {read : κ → ν}
    (hread : key ∉ keys → read key = fresh) :
    changeAt before fresh change key (keys.map fun k => (k, read k)) =
      (insertKey before key keys).map fun k =>
        (k, if k = key then change (read k) else read k) := by
  have hothers : ∀ others : List κ, key ∉ others →
      others.map (fun k => (k, if k = key then change (read k) else read k)) =
        others.map fun k => (k, read k) := fun others hmem =>
    List.map_congr_left fun k hk => by rw [if_neg (ne_of_mem_of_not_mem hk hmem)]
  induction keys with
  | nil =>
      rw [List.map_nil, changeAt, insertKey, List.map_singleton, if_pos rfl, hread (by simp)]
  | cons next rest ih =>
      obtain ⟨hnext, hrest⟩ := List.pairwise_cons.mp hkeys
      rw [List.map_cons, changeAt, insertKey]
      by_cases hkey : key = next
      · have hlater : key ∉ rest := fun hmem => (hnext key hmem).1 hkey.symm
        rw [if_pos hkey, if_pos hkey, List.map_cons, hothers rest hlater, if_pos hkey.symm]
      · by_cases hbefore : before key next = true
        · -- a key that belongs in front of this one is none of the later keys either
          have hnew : key ∉ next :: rest := by
            rw [List.mem_cons, not_or]
            refine ⟨hkey, fun hmem => ?_⟩
            simp [(hnext key hmem).2] at hbefore
          rw [if_neg hkey, if_neg hkey, if_pos hbefore, if_pos hbefore, List.map_cons,
            hothers _ hnew, if_pos rfl, hread hnew, List.map_cons]
        · have hlater : key ∉ rest → read key = fresh := fun hmem =>
            hread (List.not_mem_cons_of_ne_of_not_mem hkey hmem)
          rw [if_neg hkey, if_neg hkey, if_neg hbefore, if_neg hbefore, List.map_cons,
            if_neg (Ne.symm hkey), ih hrest hlater]

/-! ## A run of pairs -/

/-- A map keeps its keys as `listed` lists them: one more key is put where `before` puts it. -/
structure KeepsKeys (before : κ → κ → Bool) (listed : List κ → List κ) : Prop where
  nil : listed [] = []
  append : ∀ keys key, listed (keys ++ [key]) = insertKey before key (listed keys)
  placed : ∀ keys, Placed before (listed keys)
  mem : ∀ keys key, key ∈ listed keys ↔ key ∈ keys

/-- Filling a map leaves one entry for each key, with what the values of the key make of the fresh
value. -/
theorem collect_eq {before : κ → κ → Bool} {listed : List κ → List κ}
    (h : KeepsKeys before listed) (fresh : ν) (step : ν → β → ν) (pairs : List (κ × β)) :
    collect before fresh step pairs =
      (listed (pairs.map (·.1))).map fun key => (key, (valuesOf pairs key).foldl step fresh) := by
  induction pairs using List.reverseRecOn with
  | nil => simp [collect, h.nil]
  | append_singleton pairs pair ih =>
      have hfresh : pair.1 ∉ listed (pairs.map (·.1)) →
          (valuesOf pairs pair.1).foldl step fresh = fresh := fun hmem => by
        rw [values_of_eq_nil (mt (h.mem _ _).mpr hmem), List.foldl_nil]
      rw [collect] at ih ⊢
      rw [List.foldl_append, List.foldl_cons, List.foldl_nil, ih,
        change_at_eq _ (h.placed _) hfresh, List.map_append, List.map_singleton, h.append]
      refine List.map_congr_left fun key _ => ?_
      rw [values_of_append, List.foldl_append]
      by_cases hkey : key = pair.1
      · rw [if_pos hkey, hkey, values_of_cons_same, List.foldl_cons]
        rfl
      · rw [if_neg hkey, values_of_cons_other (Ne.symm hkey)]
        rfl

/-! ## Two orders of keys -/

/-- A key that no key is put in front of comes last, unless it is there. -/
theorem insert_key_last (key : κ) (keys : List κ) :
    insertKey (fun _ _ => false) key keys = if key ∈ keys then keys else keys ++ [key] := by
  induction keys with
  | nil => rfl
  | cons next rest ih =>
      rw [insertKey, ih]
      by_cases hkey : key = next
      · simp [hkey]
      · by_cases hmem : key ∈ rest <;> simp [hkey, hmem]

/-- A map that puts new keys at the end lists each key where it first came. -/
theorem first_come : KeepsKeys (κ := κ) (fun _ _ => false) List.eraseDups where
  nil := List.eraseDups_nil
  append keys key := by
    rw [List.eraseDups_append, insert_key_last]
    by_cases hmem : key ∈ keys <;> simp [List.removeAll, hmem, List.eraseDups_cons]
  placed keys := (nodup_erase_dups keys).imp fun hne => ⟨hne, rfl⟩
  mem _ _ := List.mem_eraseDups

/-- A new key is one of the keys, wherever it is put. -/
theorem mem_insert_key {before : κ → κ → Bool} {key other : κ} {keys : List κ} :
    other ∈ insertKey before key keys ↔ other = key ∨ other ∈ keys := by
  induction keys with
  | nil => simp [insertKey]
  | cons next rest ih =>
      rw [insertKey]
      split
      · next hkey => simp [hkey]
      · split
        · simp
        · rw [List.mem_cons, ih, List.mem_cons, or_left_comm]

variable [LE κ] [DecidableLE κ] [Std.IsLinearOrder κ]

/-- A key put in front of the first larger one keeps the keys strictly ascending. -/
theorem pairwise_insert_key (key : κ) {keys : List κ} (h : keys.Pairwise Before) :
    (insertKey (fun a b => a ≤ b) key keys).Pairwise Before := by
  induction keys with
  | nil => simp [insertKey]
  | cons next rest ih =>
      obtain ⟨hnext, hrest⟩ := List.pairwise_cons.mp h
      rw [insertKey]
      by_cases hkey : key = next
      · rwa [if_pos hkey]
      · rw [if_neg hkey]
        by_cases hle : key ≤ next
        · rw [if_pos (decide_eq_true hle), List.pairwise_cons]
          refine ⟨fun other hother => ?_, h⟩
          rcases List.mem_cons.mp hother with rfl | hlater
          · exact ⟨hle, hkey⟩
          · refine ⟨Std.le_trans hle (hnext other hlater).1, ?_⟩
            rintro rfl
            exact hkey (Std.le_antisymm hle (hnext key hlater).1)
        · rw [if_neg (by simpa using hle), List.pairwise_cons]
          refine ⟨fun other hother => ?_, ih hrest⟩
          rcases mem_insert_key.mp hother with rfl | hlater
          · exact ⟨(Std.le_total (a := next) (b := other)).resolve_right hle, Ne.symm hkey⟩
          · exact hnext other hlater

/-- A map that puts new keys in their order lists the keys in ascending order. -/
theorem in_order : KeepsKeys (κ := κ) (fun a b => a ≤ b) ascending where
  nil := List.eq_nil_iff_forall_not_mem.mpr fun _ => mt mem_ascending.mp List.not_mem_nil
  append keys key := by
    refine eq_of_before (pairwise_ascending _) (pairwise_insert_key key (pairwise_ascending _))
      fun other => ?_
    rw [mem_ascending, mem_insert_key, mem_ascending, List.mem_append, List.mem_singleton, or_comm]
  placed keys := (pairwise_ascending keys).imp fun {a b} h => by
    refine ⟨h.2, decide_eq_false fun hle => h.2 (Std.le_antisymm h.1 hle)⟩
  mem _ _ := mem_ascending

/-- Counting keys one after another in a map with ascending keys leaves their counts. -/
theorem tally_eq_collect (keys : List κ) :
    tally keys = collect (fun a b => a ≤ b) 0 (fun count _ => count + 1) (keys.map (·, ())) := by
  have hkeys : (keys.map (·, ())).map (·.1) = keys := by
    rw [List.map_map]
    exact List.map_id' keys
  rw [collect_eq in_order, hkeys, tally_eq]
  refine List.map_congr_left fun key _ => ?_
  rw [values_of_map_pair]
  simp

end CallProfile

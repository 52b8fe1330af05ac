import CallProfile.Grouping
import CallProfile.Proofs.Ordering

/-!
# What groups hold

Grouping is a sort by key and a join of neighbours. Its result is determined by the pairs without
either: the keys are the distinct ones in strictly ascending order, and under each stand the values
of that key in the order in which they came (`grouped_eq`). So what is read off the groups
regardless of the order of their values does not depend on the order of the pairs
(`map_grouped_of_perm`).
-/

namespace CallProfile

variable {κ β γ : Type} [LE κ] [DecidableLE κ] [DecidableEq κ]

/-- One key stands strictly before another. -/
def Before (a b : κ) : Prop :=
  a ≤ b ∧ a ≠ b

/-- The values of a key in their order. -/
def valuesOf (pairs : List (κ × β)) (key : κ) : List β :=
  (pairs.filter (·.1 = key)).map (·.2)

/-! ## Runs -/

omit [LE κ] [DecidableLE κ] in
/-- A pair in front joins the first run if that is of its key, and is a run of its own otherwise. -/
theorem runs_cons_cases (key : κ) (value : β) (rest : List (κ × β)) :
    (∃ values groups, runs rest = (key, values) :: groups ∧
      runs ((key, value) :: rest) = (key, value :: values) :: groups) ∨
    (∀ next ∈ (runs rest).head?, key ≠ next.1) ∧
      runs ((key, value) :: rest) = (key, [value]) :: runs rest := by
  rw [runs]
  cases hrest : runs rest with
  | nil => exact Or.inr ⟨by simp, rfl⟩
  | cons next groups =>
      obtain ⟨next, values⟩ := next
      by_cases hkey : key = next
      · subst hkey
        exact Or.inl ⟨values, groups, rfl, by simp⟩
      · exact Or.inr ⟨by simpa using hkey, by simp [hkey]⟩

omit [LE κ] [DecidableLE κ] in
/-- Joining neighbours keeps the keys. -/
theorem mem_keys_runs {pairs : List (κ × β)} {key : κ} :
    key ∈ (runs pairs).map (·.1) ↔ key ∈ pairs.map (·.1) := by
  induction pairs with
  | nil => rfl
  | cons pair rest ih =>
      obtain ⟨first, value⟩ := pair
      rcases runs_cons_cases first value rest with ⟨values, groups, hrest, hruns⟩ | ⟨-, hruns⟩
      · rw [hrest] at ih
        simp only [hruns, List.map_cons, List.mem_cons, ← ih, or_self_left]
      · simp only [hruns, List.map_cons, List.mem_cons, ih]

omit [LE κ] [DecidableLE κ] in
/-- Joining neighbours leaves no more than there were. -/
theorem length_runs_le (pairs : List (κ × β)) : (runs pairs).length ≤ pairs.length := by
  induction pairs with
  | nil => exact Nat.le_refl 0
  | cons pair rest ih =>
      obtain ⟨first, value⟩ := pair
      rcases runs_cons_cases first value rest with ⟨values, groups, hrest, hruns⟩ | ⟨-, hruns⟩
      · rw [hruns]
        rw [hrest] at ih
        exact Nat.le_succ_of_le ih
      · rw [hruns]
        exact Nat.succ_le_succ ih

omit [LE κ] [DecidableLE κ] in
/-- The values of the key of a pair in front begin with its value. -/
theorem values_of_cons_same (key : κ) (value : β) (rest : List (κ × β)) :
    valuesOf ((key, value) :: rest) key = value :: valuesOf rest key := by
  simp [valuesOf]

omit [LE κ] [DecidableLE κ] in
/-- A pair in front has no part in the values of another key. -/
theorem values_of_cons_other {first key : κ} (h : first ≠ key) (value : β) (rest : List (κ × β)) :
    valuesOf ((first, value) :: rest) key = valuesOf rest key := by
  simp [valuesOf, h]

omit [LE κ] [DecidableLE κ] in
/-- A key that no pair has has no values. -/
theorem values_of_eq_nil {pairs : List (κ × β)} {key : κ} (h : key ∉ pairs.map (·.1)) :
    valuesOf pairs key = [] := by
  rw [valuesOf, List.map_eq_nil_iff, List.filter_eq_nil_iff]
  intro pair hpair
  have hne : pair.1 ≠ key := by
    rintro rfl
    exact h (List.mem_map_of_mem hpair)
  simpa using hne

omit [LE κ] [DecidableLE κ] in
/-- The values of a key among pairs and others are those among the pairs and those among the
others. -/
theorem values_of_append (pairs others : List (κ × β)) (key : κ) :
    valuesOf (pairs ++ others) key = valuesOf pairs key ++ valuesOf others key := by
  rw [valuesOf, List.filter_append, List.map_append, ← valuesOf, ← valuesOf]

omit [LE κ] [DecidableLE κ] in
/-- The values of a key among the pairs of several lists are those of each list in turn. -/
theorem values_of_flat_map (pairs : γ → List (κ × β)) (parts : List γ) (key : κ) :
    valuesOf (parts.flatMap pairs) key = parts.flatMap fun part => valuesOf (pairs part) key := by
  simp only [valuesOf, List.filter_flatMap, List.map_flatMap]

omit [LE κ] [DecidableLE κ] in
/-- The values of a key among pairs read off a list are read off what has the key. -/
theorem values_of_map (keyOf : γ → κ) (valueOf : γ → β) (l : List γ) (key : κ) :
    valuesOf (l.map fun c => (keyOf c, valueOf c)) key =
      (l.filter (keyOf · = key)).map valueOf := by
  rw [valuesOf, List.filter_map, List.map_map]
  rfl

omit [DecidableLE κ] in
/-- The first of ascending pairs is not above the keys of the runs behind it. -/
theorem le_keys_runs {pair : κ × β} {rest : List (κ × β)}
    (h : (pair :: rest).Pairwise fun a b => a.1 ≤ b.1) :
    ∀ key ∈ (runs rest).map (·.1), pair.1 ≤ key := by
  intro key hkey
  obtain ⟨other, hother, rfl⟩ := List.mem_map.mp (mem_keys_runs.mp hkey)
  exact List.rel_of_pairwise_cons h hother

section Order

variable [Std.IsLinearOrder κ]

omit [DecidableLE κ] [DecidableEq κ] in
/-- A key that is not above ascending keys and not the first of them is none of them. -/
theorem not_mem_of_before {key : κ} {keys : List κ} (hkeys : keys.Pairwise Before)
    (hle : ∀ other ∈ keys, key ≤ other) (hhead : ∀ first ∈ keys.head?, key ≠ first) :
    key ∉ keys := by
  intro hmem
  cases keys with
  | nil => cases hmem
  | cons first rest =>
      rcases List.mem_cons.mp hmem with heq | hrest
      · exact hhead first rfl heq
      · have hbefore : Before first key := List.rel_of_pairwise_cons hkeys hrest
        exact hbefore.2 (Std.le_antisymm hbefore.1 (hle first List.mem_cons_self))

omit [DecidableLE κ] in
/-- Joining neighbours of ascending pairs leaves strictly ascending keys. -/
theorem keys_runs_ascending {pairs : List (κ × β)} (h : pairs.Pairwise fun a b => a.1 ≤ b.1) :
    ((runs pairs).map (·.1)).Pairwise Before := by
  induction pairs with
  | nil => exact List.Pairwise.nil
  | cons pair rest ih =>
      obtain ⟨first, value⟩ := pair
      have hrest := ih h.of_cons
      rcases runs_cons_cases first value rest with ⟨values, groups, hjoin, hruns⟩ | ⟨hhead, hruns⟩
      · rw [hjoin] at hrest
        rwa [hruns]
      · -- The head of the runs has another key, and the keys behind it only go up.
        have hnew : first ∉ (runs rest).map (·.1) :=
          not_mem_of_before hrest (le_keys_runs h) (by simpa [List.head?_map] using hhead)
        rw [hruns, List.map_cons, List.pairwise_cons]
        refine ⟨fun key hkey => ⟨le_keys_runs h key hkey, ?_⟩, hrest⟩
        rintro rfl
        exact hnew hkey

omit [DecidableLE κ] in
/-- Joining neighbours of ascending pairs brings all values of a key together. -/
theorem values_runs {pairs : List (κ × β)} (h : pairs.Pairwise fun a b => a.1 ≤ b.1) :
    ∀ group ∈ runs pairs, group.2 = valuesOf pairs group.1 := by
  induction pairs with
  | nil => simp [runs]
  | cons pair rest ih =>
      obtain ⟨first, value⟩ := pair
      have hrest := ih h.of_cons
      -- Strictly ascending keys: no later run has the key of the pair in front.
      have hkeys := keys_runs_ascending h
      rcases runs_cons_cases first value rest with ⟨values, groups, hjoin, hruns⟩ | ⟨-, hruns⟩
      · rw [hruns, List.map_cons, List.pairwise_cons] at hkeys
        rw [hjoin] at hrest
        rw [hruns]
        intro group hgroup
        rcases List.mem_cons.mp hgroup with rfl | hlater
        · rw [values_of_cons_same, ← hrest (first, values) List.mem_cons_self]
        · have hne : first ≠ group.1 := (hkeys.1 _ (List.mem_map_of_mem hlater)).2
          rw [values_of_cons_other hne, ← hrest group (List.mem_cons_of_mem _ hlater)]
      · rw [hruns, List.map_cons, List.pairwise_cons] at hkeys
        rw [hruns]
        intro group hgroup
        rcases List.mem_cons.mp hgroup with rfl | hlater
        · have hnew : first ∉ rest.map (·.1) := fun hmem =>
            (hkeys.1 first (mem_keys_runs.mpr hmem)).2 rfl
          rw [values_of_cons_same, values_of_eq_nil hnew]
        · have hne : first ≠ group.1 := (hkeys.1 _ (List.mem_map_of_mem hlater)).2
          rw [values_of_cons_other hne, ← hrest group hlater]

/-! ## Groups -/

omit [DecidableLE κ] [DecidableEq κ] in
/-- Strictly ascending keys are determined by which they are. -/
theorem eq_of_before {keys other : List κ} (hkeys : keys.Pairwise Before)
    (hother : other.Pairwise Before) (hsame : ∀ key, key ∈ keys ↔ key ∈ other) : keys = other := by
  have hperm : keys.Perm other :=
    (List.perm_ext_iff_of_nodup (hkeys.imp And.right) (hother.imp And.right)).mpr hsame
  exact hperm.eq_of_pairwise (fun _ _ _ _ hab hba => Std.le_antisymm hab.1 hba.1) hkeys hother

/-- The keys of groups ascend strictly. -/
theorem keys_grouped_ascending (pairs : List (κ × β)) :
    ((grouped pairs).map (·.1)).Pairwise Before :=
  keys_runs_ascending (pairwise_merge_sort_key Prod.fst pairs)

omit [Std.IsLinearOrder κ] in
/-- The keys of groups are those of the pairs. -/
theorem mem_keys_grouped {pairs : List (κ × β)} {key : κ} :
    key ∈ (grouped pairs).map (·.1) ↔ key ∈ pairs.map (·.1) := by
  rw [grouped, mem_keys_runs]
  exact ((List.mergeSort_perm pairs _).map _).mem_iff

omit [Std.IsLinearOrder κ] in
/-- The ascending keys are those of groups without values. -/
theorem ascending_eq (keys : List κ) :
    ascending keys = (grouped (keys.map (·, ()))).map (·.1) := by
  rw [ascending, tally, List.map_map]
  rfl

omit [Std.IsLinearOrder κ] in
/-- The ascending keys are all keys. -/
theorem mem_ascending {keys : List κ} {key : κ} : key ∈ ascending keys ↔ key ∈ keys := by
  rw [ascending_eq, mem_keys_grouped, List.map_map]
  simp

/-- The ascending keys ascend strictly, so that none is listed twice. -/
theorem pairwise_ascending (keys : List κ) : (ascending keys).Pairwise Before := by
  rw [ascending_eq]
  exact keys_grouped_ascending _

/-- Ascending numbers ascend strictly. -/
theorem pairwise_lt_ascending (numbers : List Nat) : (ascending numbers).Pairwise (· < ·) :=
  (pairwise_ascending numbers).imp fun h => Nat.lt_of_le_of_ne h.1 h.2

/-- The ascending keys do not depend on the order of the keys. -/
theorem ascending_of_perm {keys other : List κ} (h : keys.Perm other) :
    ascending keys = ascending other := by
  refine eq_of_before (pairwise_ascending keys) (pairwise_ascending other) fun key => ?_
  rw [mem_ascending, mem_ascending, h.mem_iff]

omit [Std.IsLinearOrder κ] in
/-- There is no group exactly if there is no pair. -/
theorem grouped_eq_nil_iff {pairs : List (κ × β)} : grouped pairs = [] ↔ pairs = [] := by
  rw [← List.map_eq_nil_iff (f := Prod.fst), ← List.map_eq_nil_iff (l := pairs) (f := Prod.fst)]
  simp only [List.eq_nil_iff_forall_not_mem, mem_keys_grouped]

omit [Std.IsLinearOrder κ] in
/-- There are no more groups than pairs. -/
theorem length_grouped_le (pairs : List (κ × β)) : (grouped pairs).length ≤ pairs.length := by
  have hsorted : (pairs.mergeSort fun a b => a.1 ≤ b.1).length = pairs.length :=
    List.length_mergeSort pairs
  exact hsorted ▸ length_runs_le _

/-- The groups are those of the ascending keys, each with its values in their order. -/
theorem grouped_eq (pairs : List (κ × β)) :
    grouped pairs = (ascending (pairs.map (·.1))).map fun key => (key, valuesOf pairs key) := by
  have hkeys : ascending (pairs.map (·.1)) = (grouped pairs).map (·.1) := by
    refine eq_of_before (pairwise_ascending _) (keys_grouped_ascending _) fun key => ?_
    rw [mem_ascending, mem_keys_grouped]
  have hvalues : ∀ group ∈ grouped pairs, group = (group.1, valuesOf pairs group.1) := by
    intro group hgroup
    have hruns := values_runs (pairwise_merge_sort_key Prod.fst pairs) group hgroup
    rw [valuesOf, filter_merge_sort_key] at hruns
    exact Prod.ext rfl hruns
  rw [hkeys, List.map_map]
  exact (List.map_id' _).symm.trans (List.map_congr_left hvalues)

/-- A value of a group comes from a pair with the key of the group. -/
theorem mem_of_mem_grouped {pairs : List (κ × β)} {group : κ × List β} (h : group ∈ grouped pairs)
    {value : β} (hvalue : value ∈ group.2) : (group.1, value) ∈ pairs := by
  rw [grouped_eq] at h
  obtain ⟨key, -, rfl⟩ := List.mem_map.mp h
  obtain ⟨pair, hpair, rfl⟩ := List.mem_map.mp hvalue
  obtain ⟨hmem, hkey⟩ := List.mem_filter.mp hpair
  rwa [← of_decide_eq_true hkey]

/-- A group has no more values than there are pairs. -/
theorem length_le_of_mem_grouped {pairs : List (κ × β)} {group : κ × List β}
    (h : group ∈ grouped pairs) : group.2.length ≤ pairs.length := by
  rw [grouped_eq] at h
  obtain ⟨key, -, rfl⟩ := List.mem_map.mp h
  rw [valuesOf, List.length_map]
  exact List.length_filter_le _ _

/-- What is read off the groups regardless of the order of their values does not depend on the
order of the pairs. -/
theorem map_grouped_of_perm (read : κ × List β → γ) {pairs other : List (κ × β)}
    (hread : ∀ key values others, values.Perm others → read (key, values) = read (key, others))
    (h : pairs.Perm other) : (grouped pairs).map read = (grouped other).map read := by
  rw [grouped_eq pairs, grouped_eq other, ascending_of_perm (h.map _), List.map_map, List.map_map]
  exact List.map_congr_left fun key _ => hread key _ _ ((h.filter _).map _)

/-- Counts do not depend on the order of the keys. -/
theorem tally_of_perm {keys other : List κ} (h : keys.Perm other) : tally keys = tally other :=
  map_grouped_of_perm _ (fun key _ _ hvalues => congrArg (key, ·) hvalues.length_eq) (h.map _)

/-! ## Keys and values renamed -/

section Renaming

variable {κ' β' : Type} [DecidableEq κ']

omit [LE κ] [DecidableLE κ] [Std.IsLinearOrder κ] in
/-- Renaming keys apart renames the runs. -/
theorem runs_map {key : κ → κ'} (value : β → β') {pairs : List (κ × β)}
    (hinj : ∀ a ∈ pairs, ∀ b ∈ pairs, key a.1 = key b.1 → a.1 = b.1) :
    runs (pairs.map (Prod.map key value)) =
      (runs pairs).map (Prod.map key (List.map value)) := by
  induction pairs with
  | nil => rfl
  | cons pair rest ih =>
      obtain ⟨first, own⟩ := pair
      have hrest := ih fun a ha b hb =>
        hinj a (List.mem_cons_of_mem _ ha) b (List.mem_cons_of_mem _ hb)
      rw [List.map_cons, Prod.map_apply, runs, runs, hrest]
      cases hruns : runs rest with
      | nil => rfl
      | cons group groups =>
          obtain ⟨next, values⟩ := group
          have hnext : next ∈ rest.map (·.1) := by
            rw [← mem_keys_runs, hruns]
            exact List.mem_cons_self
          obtain ⟨other, hother, rfl⟩ := List.mem_map.mp hnext
          -- the first key joins the run of the next one before and after renaming, or neither
          by_cases hkey : first = other.1
          · simp [hkey]
          · have hapart : key first ≠ key other.1 := fun h =>
              hkey (hinj _ List.mem_cons_self _ (List.mem_cons_of_mem _ hother) h)
            simp [hkey, hapart]

variable [LE κ'] [DecidableLE κ'] [Std.IsLinearOrder κ']

/-- Renaming keys in their order renames the groups. -/
theorem grouped_map {key : κ → κ'} (value : β → β') {pairs : List (κ × β)}
    (horder : ∀ a ∈ pairs, ∀ b ∈ pairs, a.1 ≤ b.1 ↔ key a.1 ≤ key b.1) :
    grouped (pairs.map (Prod.map key value)) =
      (grouped pairs).map (Prod.map key (List.map value)) := by
  have hsorted := List.map_mergeSort (r := fun a b => decide (a.1 ≤ b.1))
    (s := fun a b => decide (a.1 ≤ b.1)) (f := Prod.map key value) (l := pairs)
    fun a ha b hb => by simp [horder a ha b hb]
  rw [grouped, grouped, ← hsorted]
  refine runs_map value fun a ha b hb hkey => ?_
  rw [List.mem_mergeSort] at ha hb
  exact Std.le_antisymm ((horder a ha b hb).mpr (hkey ▸ Std.le_refl _))
    ((horder b hb a ha).mpr (hkey ▸ Std.le_refl _))

end Renaming

end Order

end CallProfile

import CallProfile.Proofs.Ordering
import CallProfile.Proofs.Reordering
import CallProfile.Proofs.Summary
import Mathlib.Data.Prod.Lex
import Mathlib.Data.String.Basic

/-!
# The order of latencies

Statistics stand by descending mean and averages by ascending mean, and in both the event decides
where means are equal. Each of them is a sort by a key (`slower_eq`, `faster_eq`) in which no two
entries tie, so there is one such order only. The statistics fall into groups of equal mean
(`exists_mean_groups`), and the averages list these groups the other way round, each as it stands.
The main result is `ordered_by_mean`.

Means are compared by the total order of binary64 numbers, in which no two of them are the same.
-/

namespace CallProfile

/-- One number stands before another in the total order of binary64 numbers. -/
def Number.Binary64.Below (x y : Float) : Prop :=
  orderKey x < orderKey y

namespace Latency

open Number (Scalar)
open Number.Binary64 (Below orderKey)

/-! ## Sorting by keys -/

/-- The key by which averages are sorted: the mean, and then the event. -/
def averageKey (entry : String × Float) : ℕ ×ₗ String :=
  toLex (orderKey entry.2, entry.1)

/-- The key by which statistics are sorted: the mean from the highest on, and then the event. -/
def statsKey (s : Latency Float) : ℕᵒᵈ ×ₗ String :=
  toLex (OrderDual.toDual (orderKey s.mean), s.event)

/-- A number is not above another exactly if it is below it or the same; then a second condition
decides. -/
theorem le_and_or_iff {m n : Nat} {p : Prop} : m ≤ n ∧ (n ≤ m → p) ↔ m < n ∨ m = n ∧ p := by
  by_cases hp : p
  · simp only [hp, implies_true, and_true]
    exact Nat.le_iff_lt_or_eq
  · simp only [hp, imp_false, and_false, or_false]
    omega

/-- Averages are sorted by their key. -/
theorem faster_eq : (faster : String × Float → String × Float → Bool) =
    fun a b => decide (averageKey a ≤ averageKey b) := by
  funext a b
  rw [Bool.eq_iff_iff, decide_eq_true_iff, averageKey, averageKey, Prod.Lex.toLex_le_toLex,
    ← le_and_or_iff]
  simp [faster, Scalar.precedes, imp_iff_not_or]

/-- Statistics are sorted by their key. -/
theorem slower_eq : (slower : Latency Float → Latency Float → Bool) =
    fun a b => decide (statsKey a ≤ statsKey b) := by
  funext a b
  rw [Bool.eq_iff_iff, decide_eq_true_iff, statsKey, statsKey, Prod.Lex.toLex_le_toLex,
    OrderDual.toDual_lt_toDual, OrderDual.toDual_inj, @eq_comm _ (orderKey a.mean),
    ← le_and_or_iff]
  simp [slower, Scalar.precedes, imp_iff_not_or]

/-- One key of averages is not above another exactly if its mean is below the other or, for the same
mean, its event is not above the other. -/
theorem average_key_le_iff {a b : String × Float} :
    averageKey a ≤ averageKey b ↔ Below a.2 b.2 ∨ a.2 = b.2 ∧ a.1 ≤ b.1 := by
  have hsame : orderKey a.2 = orderKey b.2 ↔ a.2 = b.2 :=
    ⟨Number.Binary64.order_key_injective, congrArg orderKey⟩
  rw [averageKey, averageKey, Prod.Lex.toLex_le_toLex, hsame, Below]

/-- One key of statistics is below another exactly if its mean is above the other or, for the same
mean, its event is below the other. -/
theorem stats_key_lt_iff {a b : Latency Float} :
    statsKey a < statsKey b ↔ Below b.mean a.mean ∨ a.mean = b.mean ∧ a.event < b.event := by
  have hsame : orderKey a.mean = orderKey b.mean ↔ a.mean = b.mean :=
    ⟨Number.Binary64.order_key_injective, congrArg orderKey⟩
  rw [statsKey, statsKey, Prod.Lex.toLex_lt_toLex, OrderDual.toDual_lt_toDual,
    OrderDual.toDual_inj, hsame, Below]

/-- No two averages have the same key. -/
theorem average_key_injective : Function.Injective averageKey := by
  intro a b h
  obtain ⟨hmean, hevent⟩ := Prod.mk.inj (toLex.injective h)
  exact Prod.ext hevent (Number.Binary64.order_key_injective hmean)

/-! ## Statistics -/

/-- The statistics of records: one entry for each event, from the highest mean on, and by the event
where means are equal. -/
structure RanksEvents (records : List Record) (stats : List (Latency Float)) : Prop where
  one_each : (stats.map (·.event)).Nodup
  mem_events : ∀ event, event ∈ stats.map (·.event) ↔ ∃ r ∈ records, r.event = event
  descending : stats.Pairwise fun a b =>
    Below b.mean a.mean ∨ a.mean = b.mean ∧ a.event < b.event

/-- The statistics of records are ranked. -/
theorem ranks_of_records (records : List Record) :
    RanksEvents records (ofRecords Float records) := by
  have hevents : ((ofRecords Float records).map (·.event)).Perm
      ((Share.ofEvents records).map (·.1)) := by
    simpa [Function.comp_def] using (counts_perm_shares (α := Float) records).map Prod.fst
  have hnodup : ((ofRecords Float records).map (·.event)).Nodup :=
    hevents.nodup_iff.mpr (nodup_keys_tally _)
  have hsorted : (ofRecords Float records).Pairwise fun a b => statsKey a ≤ statsKey b := by
    rw [ofRecords, slower_eq]
    exact pairwise_merge_sort_key statsKey _
  refine ⟨hnodup, fun event => ?_, ?_⟩
  · rw [hevents.mem_iff, Share.ofEvents, mem_keys_tally, List.mem_map]
  · -- two entries name different events, so their keys differ as well
    refine (hsorted.and (List.pairwise_map.mp hnodup)).imp fun {a b} h => ?_
    refine stats_key_lt_iff.mp (lt_of_le_of_ne h.1 fun hkey => h.2 ?_)
    exact congrArg Prod.snd (toLex.injective hkey)

/-! ## Averages -/

/-- The event and the mean of statistics. -/
def average (s : Latency Float) : String × Float :=
  (s.event, s.mean)

/-- The averages of statistics: their events and means from the lowest mean on, and by the event
where means are equal. -/
structure RanksAverages (stats : List (Latency Float)) (entries : List (String × Float)) :
    Prop where
  perm : entries.Perm (stats.map average)
  ascending : entries.Pairwise fun a b => Below a.2 b.2 ∨ a.2 = b.2 ∧ a.1 ≤ b.1

/-- The averages of statistics are ranked. -/
theorem ranks_averages (stats : List (Latency Float)) : RanksAverages stats (averages stats) where
  perm := List.mergeSort_perm _ _
  ascending := by
    rw [averages, faster_eq]
    exact (pairwise_merge_sort_key averageKey _).imp average_key_le_iff.mp

/-- The same events and means are ranked in one way only. -/
theorem RanksAverages.unique {stats given : List (Latency Float)}
    {entries other : List (String × Float)} (h : RanksAverages stats entries)
    (hother : RanksAverages given other) (hperm : (stats.map average).Perm (given.map average)) :
    entries = other := by
  refine ((h.perm.trans hperm).trans hother.perm.symm).eq_of_pairwise ?_ h.ascending
    hother.ascending
  intro a b _ _ hab hba
  exact average_key_injective
    (le_antisymm (average_key_le_iff.mpr hab) (average_key_le_iff.mpr hba))

/-! ## Groups of equal mean -/

/-- Statistics in groups: the entries of a group have the same mean and ascending events, and the
means descend from group to group. -/
structure MeanGroups (stats : List (Latency Float)) (groups : List (List (Latency Float))) :
    Prop where
  flatten : groups.flatten = stats
  nonempty : ∀ group ∈ groups, group ≠ []
  same_mean : ∀ group ∈ groups, ∀ s ∈ group, ∀ t ∈ group, s.mean = t.mean
  events_ascend : ∀ group ∈ groups, group.Pairwise fun s t => s.event < t.event
  descending : groups.Pairwise fun group later =>
    ∀ s ∈ group, ∀ t ∈ later, Below t.mean s.mean

section Groups

variable {s : Latency Float} {stats group : List (Latency Float)}
  {groups : List (List (Latency Float))}

/-- An entry of a group is an entry of the statistics. -/
theorem MeanGroups.mem (h : MeanGroups stats groups) {t : Latency Float} (hgroup : group ∈ groups)
    (ht : t ∈ group) : t ∈ stats :=
  h.flatten ▸ List.mem_flatten.mpr ⟨group, hgroup, ht⟩

/-- An entry whose mean is above all others is a group of its own. -/
theorem MeanGroups.cons_group (h : MeanGroups stats groups)
    (habove : ∀ t ∈ stats, Below t.mean s.mean) : MeanGroups (s :: stats) ([s] :: groups) where
  flatten := by rw [List.flatten_cons, h.flatten, List.singleton_append]
  nonempty := by simpa using h.nonempty
  same_mean := by simpa using h.same_mean
  events_ascend := by simpa using h.events_ascend
  descending := by
    refine List.pairwise_cons.mpr ⟨fun later hlater u hu t ht => ?_, h.descending⟩
    rw [List.mem_singleton.mp hu]
    exact habove t (h.mem hlater ht)

/-- An entry of the highest mean, with an event below those of its group, joins the group. -/
theorem MeanGroups.cons_entry (h : MeanGroups stats (group :: groups))
    (hmean : ∀ t ∈ group, s.mean = t.mean) (hevent : ∀ t ∈ group, s.event < t.event) :
    MeanGroups (s :: stats) ((s :: group) :: groups) where
  flatten := by rw [← h.flatten, List.flatten_cons, List.flatten_cons, List.cons_append]
  nonempty := by simpa using (List.forall_mem_cons.mp h.nonempty).2
  same_mean := by
    refine List.forall_mem_cons.mpr ⟨?_, (List.forall_mem_cons.mp h.same_mean).2⟩
    have hall : ∀ t ∈ s :: group, s.mean = t.mean := List.forall_mem_cons.mpr ⟨rfl, hmean⟩
    intro t ht u hu
    exact (hall t ht).symm.trans (hall u hu)
  events_ascend := by
    obtain ⟨hgroup, hgroups⟩ := List.forall_mem_cons.mp h.events_ascend
    exact List.forall_mem_cons.mpr ⟨List.pairwise_cons.mpr ⟨hevent, hgroup⟩, hgroups⟩
  descending := by
    obtain ⟨hgroup, hgroups⟩ := List.pairwise_cons.mp h.descending
    obtain ⟨first, hfirst⟩ := List.exists_mem_of_ne_nil _ (h.nonempty _ List.mem_cons_self)
    refine List.pairwise_cons.mpr ⟨fun later hlater => ?_, hgroups⟩
    refine List.forall_mem_cons.mpr ⟨fun t ht => ?_, hgroup later hlater⟩
    rw [hmean first hfirst]
    exact hgroup later hlater first hfirst t ht

/-- No entry has a mean above those of the first group. -/
theorem MeanGroups.mean_cases (h : MeanGroups stats (group :: groups)) {first t : Latency Float}
    (hfirst : first ∈ group) (ht : t ∈ stats) :
    t.mean = first.mean ∨ Below t.mean first.mean := by
  rw [← h.flatten, List.flatten_cons, List.mem_append, List.mem_flatten] at ht
  rcases ht with ht | ⟨later, hlater, ht⟩
  · exact Or.inl (h.same_mean group List.mem_cons_self t ht first hfirst)
  · exact Or.inr ((List.pairwise_cons.mp h.descending).1 later hlater first hfirst t ht)

/-- Ranked statistics fall into groups of equal mean. -/
theorem exists_mean_groups
    (h : stats.Pairwise fun a b => Below b.mean a.mean ∨ a.mean = b.mean ∧ a.event < b.event) :
    ∃ groups, MeanGroups stats groups := by
  induction stats with
  | nil => exact ⟨[], rfl, by simp, by simp, by simp, .nil⟩
  | cons s stats ih =>
      obtain ⟨hhead, hrest⟩ := List.pairwise_cons.mp h
      obtain ⟨groups, hgroups⟩ := ih hrest
      cases groups with
      | nil =>
          refine ⟨_, hgroups.cons_group fun t ht => ?_⟩
          rw [← hgroups.flatten] at ht
          exact absurd ht List.not_mem_nil
      | cons group groups =>
          obtain ⟨first, hfirst⟩ :=
            List.exists_mem_of_ne_nil _ (hgroups.nonempty _ List.mem_cons_self)
          rcases hhead first (hgroups.mem List.mem_cons_self hfirst) with hbelow | ⟨hsame, -⟩
          · refine ⟨_, hgroups.cons_group fun t ht => ?_⟩
            rcases hgroups.mean_cases hfirst ht with hmean | hmean
            · rw [hmean]
              exact hbelow
            · exact Nat.lt_trans hmean hbelow
          · have hmean : ∀ t ∈ group, s.mean = t.mean := fun t ht =>
              hsame.trans (hgroups.same_mean group List.mem_cons_self first hfirst t ht)
            refine ⟨_, hgroups.cons_entry hmean fun t ht => ?_⟩
            rcases hhead t (hgroups.mem List.mem_cons_self ht) with hbelow | ⟨-, hevent⟩
            · rw [hmean t ht] at hbelow
              exact absurd hbelow (Nat.lt_irrefl _)
            · exact hevent

/-- The groups the other way round, each as it stands, are ranked as averages. -/
theorem MeanGroups.ranks_reverse (h : MeanGroups stats groups) :
    RanksAverages stats (groups.reverse.flatten.map average) where
  perm := by
    rw [← h.flatten]
    exact ((List.reverse_perm groups).flatten).map average
  ascending := by
    rw [List.pairwise_map, List.pairwise_flatten]
    constructor
    · intro group hgroup
      have hgroup : group ∈ groups := List.mem_reverse.mp hgroup
      refine (h.events_ascend group hgroup).imp_of_mem fun {s t} hs ht hevent => ?_
      exact Or.inr ⟨h.same_mean group hgroup s hs t ht, le_of_lt hevent⟩
    · refine List.pairwise_reverse.mpr (h.descending.imp fun hdescending t ht s hs => ?_)
      exact Or.inl (hdescending s hs t ht)

end Groups

/-- Statistics have one entry for each event, strictly by descending mean and then by event.
Averages of any statistics are their events and means by ascending mean and then by event, which
does not depend on the order of the statistics. Those of records list the groups of equal mean the
other way round, each as it stands. -/
theorem ordered_by_mean (records : List Record) {stats other : List (Latency Float)}
    (hperm : other.Perm stats) :
    RanksEvents records (ofRecords Float records) ∧
      RanksAverages stats (averages stats) ∧
      (∀ entries, RanksAverages stats entries → entries = averages stats) ∧
      averages other = averages stats ∧
      ∃ groups, MeanGroups (ofRecords Float records) groups ∧
        averages (ofRecords Float records) = groups.reverse.flatten.map average := by
  have hranks := ranks_of_records records
  obtain ⟨groups, hgroups⟩ := exists_mean_groups hranks.descending
  refine ⟨hranks, ranks_averages stats, fun entries h => ?_, ?_, groups, hgroups, ?_⟩
  · exact h.unique (ranks_averages stats) (List.Perm.refl _)
  · exact (ranks_averages other).unique (ranks_averages stats) (hperm.map average)
  · exact (ranks_averages _).unique hgroups.ranks_reverse (List.Perm.refl _)

/-- The statistics of an event with one sample. -/
def single (event : String) (ms : Float) : Latency Float :=
  ⟨event, 1, ms, ms, ms, ms, ms, ms, ms, ms⟩

/-- An event with a mean, and two that tie below it, in the order of averages. -/
def tiedStats : List (Latency Float) :=
  [single "TXBegin" 0.0, single "TXEnd" 0.0, single "Seq" 2.0]

/-- The other way round, the statistics have the same averages, in which the tie stands by its
events. -/
theorem tied_stats_ordered :
    tiedStats.reverse.Perm tiedStats ∧
      averages tiedStats.reverse = [("TXBegin", 0.0), ("TXEnd", 0.0), ("Seq", 2.0)] ∧
      RanksEvents timedCalls (ofRecords Float timedCalls) := by
  have hperm := List.reverse_perm tiedStats
  have hordered := ordered_by_mean timedCalls hperm
  have hsorted : averages tiedStats = tiedStats.map average :=
    List.mergeSort_of_pairwise (by decide +kernel)
  exact ⟨hperm, hordered.2.2.2.1.trans hsorted, hordered.1⟩

end Latency

end CallProfile

import CallProfile.Proofs.Collecting
import CallProfile.Proofs.Tally
import CallProfile.Proofs.Transaction.Views
import Mathlib.Algebra.BigOperators.Group.Finset.Basic

/-!
# Frequencies of operations

How many transactions did a number of operations, for accesses and for mutations side by side, is a
table of two counts over one list of numbers. Its rows are those of a map in which the accesses are
counted one after another and then the mutations (`frequency_table_eq_counted`), and each column
adds up to the transactions and, weighted by the numbers of operations, to the operations. The main
result is `frequencies_tabulate`.
-/

namespace CallProfile.Transaction

/-! ## Counts over keys -/

/-- Counts over keys that contain all values, weighted key by key, are the weights of the values. -/
theorem total_weighted_counts (weight : Nat → Nat) {keys values : List Nat} (hkeys : keys.Nodup)
    (hvalues : ∀ n ∈ values, n ∈ keys) :
    Number.total (keys.map fun n => weight n * values.count n) =
      Number.total (values.map weight) := by
  have hsub : values.toFinset ⊆ keys.toFinset := fun n hn =>
    List.mem_toFinset.mpr (hvalues n (List.mem_toFinset.mp hn))
  have hother : ∀ n ∈ keys.toFinset, n ∉ values.toFinset → weight n * values.count n = 0 := by
    intro n _ hn
    rw [List.count_eq_zero.mpr (mt List.mem_toFinset.mpr hn), Nat.mul_zero]
  calc Number.total (keys.map fun n => weight n * values.count n)
      = ∑ n ∈ keys.toFinset, weight n * values.count n := (List.sum_toFinset _ hkeys).symm
    _ = ∑ n ∈ values.toFinset, weight n * values.count n :=
        (Finset.sum_subset hsub hother).symm
    _ = ∑ n ∈ values.toFinset, values.count n • weight n :=
        Finset.sum_congr rfl fun n _ => Nat.mul_comm _ _
    _ = Number.total (values.map weight) := (Finset.sum_list_map_count values weight).symm

/-- Counts over keys that contain all values are the number of values. -/
theorem total_counts {keys values : List Nat} (hkeys : keys.Nodup)
    (hvalues : ∀ n ∈ values, n ∈ keys) :
    Number.total (keys.map fun n => values.count n) = values.length := by
  have hones : ∀ ns : List Nat, Number.total (ns.map fun _ => 1) = ns.length := fun ns => by
    rw [List.map_const']
    exact (List.sum_replicate ns.length 1).trans (Nat.mul_one _)
  simpa only [Nat.one_mul, hones] using total_weighted_counts (fun _ => 1) hkeys hvalues

/-! ## The rows -/

/-- Rows are a table of the numbers in two lists. -/
structure Tabulates (access mutate : List Nat) (rows : List Frequency) : Prop where
  /-- The rows ascend strictly by the number of operations. -/
  ascending : (rows.map (·.ops)).Pairwise (· < ·)
  /-- A number has a row exactly if it is in one of the lists. -/
  mem_ops : ∀ n, n ∈ rows.map (·.ops) ↔ n ∈ access ∨ n ∈ mutate
  /-- A row says how often its number is in either list. -/
  counts : ∀ row ∈ rows, row.accessTxs = access.count row.ops ∧ row.mutateTxs = mutate.count row.ops
  /-- No row is zero in both columns. -/
  ne_zero : ∀ row ∈ rows, row.accessTxs ≠ 0 ∨ row.mutateTxs ≠ 0
  access_length : Number.total (rows.map (·.accessTxs)) = access.length
  mutate_length : Number.total (rows.map (·.mutateTxs)) = mutate.length
  access_total : Number.total (rows.map fun row => row.ops * row.accessTxs) = Number.total access
  mutate_total : Number.total (rows.map fun row => row.ops * row.mutateTxs) = Number.total mutate

variable (access mutate : List Nat)

/-- The table of two lists is a table of the numbers in them. -/
theorem tabulates_frequency_table : Tabulates access mutate (frequencyTable access mutate) := by
  have hops : (frequencyTable access mutate).map (·.ops) =
      CallProfile.ascending (access ++ mutate) := by
    rw [frequencyTable, List.map_map]
    exact List.map_id' _
  have hnodup := (pairwise_ascending (access ++ mutate)).imp And.right
  have haccess : ∀ n ∈ access, n ∈ CallProfile.ascending (access ++ mutate) := fun n hn =>
    mem_ascending.mpr (List.mem_append_left _ hn)
  have hmutate : ∀ n ∈ mutate, n ∈ CallProfile.ascending (access ++ mutate) := fun n hn =>
    mem_ascending.mpr (List.mem_append_right _ hn)
  have hcounts : ∀ row ∈ frequencyTable access mutate,
      row.accessTxs = access.count row.ops ∧ row.mutateTxs = mutate.count row.ops := by
    intro row hrow
    obtain ⟨n, -, rfl⟩ := List.mem_map.mp hrow
    exact ⟨rfl, rfl⟩
  have hmem : ∀ n, n ∈ (frequencyTable access mutate).map (·.ops) ↔ n ∈ access ∨ n ∈ mutate := by
    intro n
    rw [hops, mem_ascending, List.mem_append]
  constructor
  case ascending =>
    rw [hops]
    exact pairwise_lt_ascending _
  case mem_ops => exact hmem
  case counts => exact hcounts
  case ne_zero =>
    intro row hrow
    rw [(hcounts row hrow).1, (hcounts row hrow).2]
    have hlisted := (hmem row.ops).mp (List.mem_map_of_mem hrow)
    exact hlisted.imp (fun h => (List.count_pos_iff.mpr h).ne')
      fun h => (List.count_pos_iff.mpr h).ne'
  case access_length =>
    rw [frequencyTable, List.map_map]
    exact total_counts hnodup haccess
  case mutate_length =>
    rw [frequencyTable, List.map_map]
    exact total_counts hnodup hmutate
  case access_total =>
    rw [frequencyTable, List.map_map]
    exact (total_weighted_counts id hnodup haccess).trans (by rw [List.map_id])
  case mutate_total =>
    rw [frequencyTable, List.map_map]
    exact (total_weighted_counts id hnodup hmutate).trans (by rw [List.map_id])

-- a number that only one of the lists has still has a row
example : frequencyTable [1, 1, 3] [0, 1, 1] = [⟨0, 0, 1⟩, ⟨1, 2, 2⟩, ⟨3, 1, 0⟩] := by cbv

/-! ## Counting in one map -/

/-- One more transaction with a number of mutations, or else of accesses. -/
def oneMore (txs : Nat × Nat) (mutates : Bool) : Nat × Nat :=
  if mutates then (txs.1, txs.2 + 1) else (txs.1 + 1, txs.2)

/-- The entries of a map by ascending number of operations into which the accesses are counted one
after another, and then the mutations. -/
def countedEntries : List (Nat × Nat × Nat) :=
  collect (fun a b => a ≤ b) (0, 0) oneMore
    (access.map (·, false) ++ mutate.map (·, true))

/-- Counting one after another adds how many there are of either class. -/
theorem foldl_one_more (classes : List Bool) (txs : Nat × Nat) :
    classes.foldl oneMore txs = (txs.1 + classes.count false, txs.2 + classes.count true) := by
  induction classes generalizing txs with
  | nil => rfl
  | cons mutates classes ih =>
      rw [List.foldl_cons, ih]
      cases mutates <;> simp [oneMore] <;> omega

/-- The table has the rows of the map. -/
theorem frequency_table_eq_counted :
    frequencyTable access mutate =
      (countedEntries access mutate).map fun entry => ⟨entry.1, entry.2.1, entry.2.2⟩ := by
  have hkeys : (access.map (·, false) ++ mutate.map (·, true)).map (·.1) = access ++ mutate := by
    simp [Function.comp_def]
  rw [countedEntries, collect_eq in_order, hkeys, List.map_map]
  refine List.map_congr_left fun n _ => ?_
  rw [Function.comp_apply, values_of_append, values_of_map_pair, values_of_map_pair, foldl_one_more]
  simp [List.count_replicate]

/-- The rows for the accesses and mutations of the transactions of a trace. -/
def callFrequencies (records : List Record) (accessOps mutateOps : List String)
    (table : Option String) : List Frequency :=
  let counts := calls records accessOps mutateOps table
  frequencyTable (counts.map (·.access)) (counts.map (·.mutate))

/-- The table of two lists of numbers of operations has a row for each number in either, with how
often it is there, and its columns add up to the lists. It is what counting the numbers one after
another leaves. For the accesses and mutations of the transactions of a trace both columns add up to
the transactions. -/
theorem frequencies_tabulate :
    (∀ access mutate, Tabulates access mutate (frequencyTable access mutate) ∧
      frequencyTable access mutate =
        (countedEntries access mutate).map fun entry => ⟨entry.1, entry.2.1, entry.2.2⟩) ∧
      ∀ records accessOps mutateOps table,
        Number.total ((callFrequencies records accessOps mutateOps table).map (·.accessTxs)) =
            (sizes records).length ∧
          Number.total ((callFrequencies records accessOps mutateOps table).map (·.mutateTxs)) =
            (sizes records).length := by
  refine ⟨fun access mutate => ⟨tabulates_frequency_table access mutate,
    frequency_table_eq_counted access mutate⟩, fun records accessOps mutateOps table => ?_⟩
  have hlength : (calls records accessOps mutateOps table).length = (sizes records).length := by
    rw [calls_eq_among, sizes_eq_lengths, List.length_map, List.length_map]
  have htable := tabulates_frequency_table
    ((calls records accessOps mutateOps table).map (·.access))
    ((calls records accessOps mutateOps table).map (·.mutate))
  rw [callFrequencies, htable.access_length, htable.mutate_length, List.length_map,
    List.length_map]
  exact ⟨hlength, hlength⟩

end CallProfile.Transaction

import CallProfile.Proofs.Transaction.Calls
import CallProfile.Proofs.Transaction.Counts

/-!
# The views of a closed transaction

The sizes of the transactions of a trace and their calls, with a table or without, are lists with
one entry for each closing record, in the order of these records: whatever a scan collects, its
entry is what it collects from the operations counted there (`closings_eq_folded`). So entries of
one index are about the same operations, and counting these with different methods compares the
views. The main result is `views_aligned`.
-/

namespace CallProfile.Transaction

/-- The operations that the closing record at a position counts, in their order. -/
def operationsAt (records : List Record) (i : Nat) : List Record :=
  (countedAt records i).filterMap (records[·]?)

/-! ## Entries by closing record -/

section Scan

variable {α : Type} (fresh : α) (step : α → Record → α)

/-- The record at a closing position closes what the operations counted there collect, and no other
record closes anything. -/
theorem closed_at_eq_folded {records : List Record} {i : Nat} (hi : i < records.length) :
    closedAt fresh step .empty records i =
      if records[i]?.any fun r => ends r && !(positions begins records r.threadId i).isEmpty then
        some ((operationsAt records i).foldl step fresh)
      else none := by
  have hr : records[i]? = some records[i] := List.getElem?_eq_getElem hi
  simp only [closedAt, operationsAt, countedAt, hr, Option.bind_some, Option.any_some, closed,
    get_register_at _ _ records (Nat.le_of_lt hi), heldAt, pendingOperations]
  by_cases hbegun : positions begins records records[i].threadId i = [] <;> simp [hbegun]

/-- A scan lists what the operations counted at each closing position collect. -/
theorem closings_eq_folded (records : List Record) :
    closings fresh step .empty records =
      (closingPositions records).map fun i => (operationsAt records i).foldl step fresh := by
  rw [closings_eq_filter_map, closingPositions, ← List.filterMap_eq_map', List.filterMap_filter]
  exact List.filterMap_congr fun i hi => closed_at_eq_folded _ _ (List.mem_range.mp hi)

end Scan

/-- The calls among operations. -/
def callsAmong (accessOps mutateOps : List String) (table : Option String)
    (operations : List Record) : CallCounts :=
  ⟨operations.countP (isCall accessOps table), operations.countP (isCall mutateOps table)⟩

/-- One operation counts in each class of which it is a call. -/
theorem count_call_eq (accessOps mutateOps : List String) (table : Option String)
    (counts : CallCounts) (r : Record) :
    countCall accessOps mutateOps table counts r =
      ⟨counts.access + (isCall accessOps table r).toNat,
        counts.mutate + (isCall mutateOps table r).toNat⟩ := by
  unfold countCall isCall
  split
  · next htable => simp [CallCounts.add, htable]
  · next htable => simp [htable]

/-- Counting call by call adds the calls among the operations. -/
theorem foldl_count_call (accessOps mutateOps : List String) (table : Option String)
    (operations : List Record) (counts : CallCounts) :
    operations.foldl (countCall accessOps mutateOps table) counts =
      ⟨counts.access + operations.countP (isCall accessOps table),
        counts.mutate + operations.countP (isCall mutateOps table)⟩ := by
  induction operations generalizing counts with
  | nil => rfl
  | cons r operations ih =>
      have htail : ∀ ops, (r :: operations).countP (isCall ops table) =
          (isCall ops table r).toNat + operations.countP (isCall ops table) := by
        intro ops
        cases hcall : isCall ops table r <;> simp [hcall, Nat.add_comm]
      rw [List.foldl_cons, ih, count_call_eq, htail, htail, Nat.add_assoc, Nat.add_assoc]

/-- The sizes are the numbers of the operations counted at the closing positions. -/
theorem sizes_eq_lengths (records : List Record) :
    sizes records = (closingPositions records).map fun i => (operationsAt records i).length := by
  rw [sizes, closings_eq_folded]
  simp

/-- The calls are those among the operations counted at the closing positions. -/
theorem calls_eq_among (records : List Record) (accessOps mutateOps : List String)
    (table : Option String) :
    calls records accessOps mutateOps table = (closingPositions records).map fun i =>
      callsAmong accessOps mutateOps table (operationsAt records i) := by
  rw [calls, call_closings_eq, closings_eq_folded]
  simp [foldl_count_call, callsAmong]

/-! ## Counting with two lists of methods -/

/-- What has one property or the other, and what has both, is counted as what has the one and what
has the other. -/
theorem countP_add_countP {β : Type} {p q either both : β → Bool}
    (heither : ∀ b, either b = (p b || q b)) (hboth : ∀ b, both b = (p b && q b)) (l : List β) :
    l.countP p + l.countP q = l.countP either + l.countP both := by
  induction l with
  | nil => rfl
  | cons b l ih =>
      simp only [List.countP_cons, heither b, hboth b]
      cases p b <;> cases q b <;> simp <;> omega

/-- A record calls one of the methods of either list if it calls one of the one or of the other. -/
theorem calls_either {ops others either : List String}
    (h : ∀ name, name ∈ either ↔ name ∈ ops ∨ name ∈ others) (r : Record) :
    r.callsOneOf either = (r.callsOneOf ops || r.callsOneOf others) := by
  unfold Record.callsOneOf
  cases r.method with
  | none => rfl
  | some name => simp [h]

/-- A record calls one of the methods of both lists if it calls one of the one and of the other: it
calls one method at most. -/
theorem calls_both {ops others both : List String}
    (h : ∀ name, name ∈ both ↔ name ∈ ops ∧ name ∈ others) (r : Record) :
    r.callsOneOf both = (r.callsOneOf ops && r.callsOneOf others) := by
  unfold Record.callsOneOf
  cases r.method with
  | none => rfl
  | some name => simp [h]

/-- The calls of two lists of methods are those of either list and once more those of both. -/
theorem count_calls_add {ops others either both : List String} (table : Option String)
    (heither : ∀ name, name ∈ either ↔ name ∈ ops ∨ name ∈ others)
    (hboth : ∀ name, name ∈ both ↔ name ∈ ops ∧ name ∈ others) (operations : List Record) :
    operations.countP (isCall ops table) + operations.countP (isCall others table) =
      operations.countP (isCall either table) + operations.countP (isCall both table) := by
  refine countP_add_countP (fun r => ?_) (fun r => ?_) operations
  · rw [isCall, calls_either heither, Bool.and_or_distrib_right]
    rfl
  · rw [isCall, calls_both hboth, isCall, isCall]
    cases table.all r.namesTable <;> simp

/-! ## Entries of one transaction -/

/-- The entries of one closed transaction fit together: its size, its calls and its calls on one
table. -/
structure EntriesAgree (accessOps mutateOps : List String) (size : Nat) (all own : CallCounts) :
    Prop where
  /-- Accesses are operations. -/
  access_le : all.access ≤ size
  /-- Mutations are operations. -/
  mutate_le : all.mutate ≤ size
  /-- No operation is an access and a mutation, unless a method is in both lists. -/
  sum_le : (∀ name ∈ accessOps, name ∉ mutateOps) → all.access + all.mutate ≤ size
  /-- Accesses of the table are accesses. -/
  own_access_le : own.access ≤ all.access
  /-- Mutations of the table are mutations. -/
  own_mutate_le : own.mutate ≤ all.mutate

/-- Calls on a table are calls. -/
theorem count_own_le (ops : List String) (id : String) (operations : List Record) :
    operations.countP (isCall ops (some id)) ≤ operations.countP (isCall ops none) := by
  refine List.countP_mono_left fun r _ hcall => ?_
  simp only [isCall, Bool.and_eq_true] at hcall
  simp [isCall, hcall.1]

/-- The entries that some operations make fit together. -/
theorem entries_agree (accessOps mutateOps : List String) (id : String)
    (operations : List Record) :
    EntriesAgree accessOps mutateOps operations.length
      (callsAmong accessOps mutateOps none operations)
      (callsAmong accessOps mutateOps (some id) operations) where
  access_le := List.countP_le_length
  mutate_le := List.countP_le_length
  sum_le hdisjoint := by
    have hsome : ∀ name, name ∈ accessOps ++ mutateOps ↔ name ∈ accessOps ∨ name ∈ mutateOps :=
      fun _ => List.mem_append
    have hcommon : ∀ name, name ∈ ([] : List String) ↔ name ∈ accessOps ∧ name ∈ mutateOps :=
      fun name => by simpa using hdisjoint name
    have hadd := count_calls_add none hsome hcommon operations
    have hnone : operations.countP (isCall [] none) = 0 := by
      rw [List.countP_eq_zero]
      intro r _
      cases hmethod : r.method <;> simp [isCall, Record.callsOneOf, hmethod]
    have heither : operations.countP (isCall (accessOps ++ mutateOps) none) ≤ operations.length :=
      List.countP_le_length
    simp only [callsAmong]
    omega
  own_access_le := count_own_le accessOps id operations
  own_mutate_le := count_own_le mutateOps id operations

/-- The sizes of the transactions of a trace and their calls, on all tables or on one, have one
entry for each closing record, in the order of these records: what is counted there of the same
operations. Entries of one index fit together, and the accesses of two lists of methods are those
of either list and once more those of both. -/
theorem views_aligned (records : List Record) (accessOps mutateOps : List String) (id : String) :
    sizes records =
        (closingPositions records).map (fun i => (operationsAt records i).length) ∧
      (∀ table, calls records accessOps mutateOps table =
        (closingPositions records).map fun i =>
          callsAmong accessOps mutateOps table (operationsAt records i)) ∧
      (∀ table, (calls records accessOps mutateOps table).length = (sizes records).length) ∧
      (∀ (i size : Nat) (all own : CallCounts), (sizes records)[i]? = some size →
        (calls records accessOps mutateOps none)[i]? = some all →
        (calls records accessOps mutateOps (some id))[i]? = some own →
        EntriesAgree accessOps mutateOps size all own) ∧
      ∀ (table : Option String) (others either both : List String),
        (∀ name, name ∈ either ↔ name ∈ accessOps ∨ name ∈ mutateOps) →
        (∀ name, name ∈ both ↔ name ∈ accessOps ∧ name ∈ mutateOps) →
        List.zipWith (· + ·) ((calls records accessOps others table).map (·.access))
            ((calls records mutateOps others table).map (·.access)) =
          List.zipWith (· + ·) ((calls records either others table).map (·.access))
            ((calls records both others table).map (·.access)) := by
  refine ⟨sizes_eq_lengths records, fun table => calls_eq_among records accessOps mutateOps table,
    fun table => ?_, fun i size all own hsize hall hown => ?_,
    fun table others either both heither hboth => ?_⟩
  · simp [sizes_eq_lengths, calls_eq_among]
  · simp only [sizes_eq_lengths, calls_eq_among, List.getElem?_map, Option.map_eq_some_iff]
      at hsize hall hown
    obtain ⟨position, hposition, rfl⟩ := hsize
    obtain ⟨same, hsame, rfl⟩ := hall
    obtain ⟨third, hthird, rfl⟩ := hown
    cases hposition.symm.trans hsame
    cases hposition.symm.trans hthird
    exact entries_agree accessOps mutateOps id _
  · simp only [calls_eq_among, List.map_map, List.zipWith_map, List.zipWith_self]
    exact List.map_congr_left fun i _ => count_calls_add table heither hboth _

/-- A call of a method on a table by the only thread. -/
def tableCall (event method table : String) : Record :=
  ⟨0, 1, event, none, some method, [table], false⟩

/-- A transaction with three calls on two tables. -/
def mixedCalls : List Record :=
  [tableCall "TXBegin" "begin" "a", tableCall "access" "get" "a", tableCall "access" "get" "b",
    tableCall "mutate" "put" "a", tableCall "TXEnd" "end" "a"]

/-- The entries of the transaction fit together for methods apart, and the accesses of lists that
share a method add up. -/
theorem mixed_calls_views :
    (sizes mixedCalls)[0]? = some 3 ∧
      (calls mixedCalls ["get"] ["put"] none)[0]? = some ⟨2, 1⟩ ∧
      (calls mixedCalls ["get"] ["put"] (some "b"))[0]? = some ⟨1, 0⟩ ∧
      (∀ name ∈ ["get"], name ∉ ["put"]) ∧ 2 + 1 ≤ 3 ∧
      EntriesAgree ["get"] ["put"] 3 ⟨2, 1⟩ ⟨1, 0⟩ ∧
      (∀ name, name ∈ ["get", "put", "clear"] ↔ name ∈ ["get", "put"] ∨ name ∈ ["put", "clear"]) ∧
      (∀ name, name ∈ ["put"] ↔ name ∈ ["get", "put"] ∧ name ∈ ["put", "clear"]) ∧
      List.zipWith (· + ·) ((calls mixedCalls ["get", "put"] [] none).map (·.access))
          ((calls mixedCalls ["put", "clear"] [] none).map (·.access)) =
        List.zipWith (· + ·) ((calls mixedCalls ["get", "put", "clear"] [] none).map (·.access))
          ((calls mixedCalls ["put"] [] none).map (·.access)) := by
  have hsize : (sizes mixedCalls)[0]? = some 3 := by decide
  have hall : (calls mixedCalls ["get"] ["put"] none)[0]? = some ⟨2, 1⟩ := by decide
  have hown : (calls mixedCalls ["get"] ["put"] (some "b"))[0]? = some ⟨1, 0⟩ := by decide
  have hdisjoint : ∀ name ∈ ["get"], name ∉ ["put"] := by decide
  have heither : ∀ name,
      name ∈ ["get", "put", "clear"] ↔ name ∈ ["get", "put"] ∨ name ∈ ["put", "clear"] := by
    intro name
    simp only [List.mem_cons, List.not_mem_nil, or_false]
    tauto
  have hboth : ∀ name, name ∈ ["put"] ↔ name ∈ ["get", "put"] ∧ name ∈ ["put", "clear"] := by
    intro name
    simp only [List.mem_cons, List.not_mem_nil, or_false]
    refine ⟨fun h => ⟨Or.inr h, Or.inl h⟩, ?_⟩
    rintro ⟨rfl | h, h' | h'⟩
    · exact h'
    · exact absurd h' (by decide)
    · exact h
    · exact h
  have hentries :=
    (views_aligned mixedCalls ["get"] ["put"] "b").2.2.2.1 0 3 _ _ hsize hall hown
  have hsums := (views_aligned mixedCalls ["get", "put"] ["put", "clear"] "b").2.2.2.2
    none [] _ _ heither hboth
  exact ⟨hsize, hall, hown, hdisjoint, hentries.sum_le hdisjoint, hentries, heither, hboth, hsums⟩

end CallProfile.Transaction

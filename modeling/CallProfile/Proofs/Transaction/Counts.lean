import CallProfile.Proofs.Transaction.Scan
import Mathlib.Data.List.Basic
import Mathlib.Data.List.Nodup

/-!
# What a closed transaction counts

Positions in the trace say what `sizes` lists without any register: the records that close are the
`closingPositions`, and what the one at position `i` counts are the operations at `countedAt`, those
after the latest bound of its thread. The invariant `get_register_at` says what the register of any
scan holds at each position, for all threads at once. The main result is `sizes_eq_counted`.
-/

namespace CallProfile.Transaction

/-- Whether the record begins or ends a transaction. -/
def bounds (r : Record) : Bool :=
  begins r || ends r

/-- Whether the record is an operation: it neither begins nor ends a transaction. -/
def operates (r : Record) : Bool :=
  !bounds r

/-- Whether a position holds a record of the thread with the property. -/
def holdsAt (property : Record → Bool) (records : List Record) (thread k : Nat) : Bool :=
  records[k]?.any fun r => r.threadId == thread && property r

/-- The positions before `stop` of the records of a thread with the property, ascending. -/
def positions (property : Record → Bool) (records : List Record) (thread stop : Nat) : List Nat :=
  (List.range stop).filter (holdsAt property records thread)

/-- The latest position before `stop` at which the thread begins or ends a transaction. -/
def latestBound (records : List Record) (thread stop : Nat) : Option Nat :=
  (positions bounds records thread stop).getLast?

/-- The positions before `stop` of the operations of a thread after its latest bound. -/
def pending (records : List Record) (thread stop : Nat) : List Nat :=
  (positions operates records thread stop).filter fun k =>
    (latestBound records thread stop).any (· < k)

/-- The positions of the `TXEnd` records with an earlier `TXBegin` of their thread, ascending. -/
def closingPositions (records : List Record) : List Nat :=
  (List.range records.length).filter fun i =>
    records[i]?.any fun r => ends r && !(positions begins records r.threadId i).isEmpty

/-- The positions of the records that the closing record at `i` counts. -/
def countedAt (records : List Record) (i : Nat) : List Nat :=
  match records[i]? with
  | none => []
  | some r => pending records r.threadId i

/-! ## Positions -/

/-- A position is listed when it lies before the stop and its record has the property. -/
theorem mem_positions {property : Record → Bool} {records : List Record} {thread stop k : Nat} :
    k ∈ positions property records thread stop ↔
      k < stop ∧ holdsAt property records thread k = true := by
  simp [positions]

/-- One more record is one more position, if it has the property. -/
theorem positions_succ (property : Record → Bool) (records : List Record) (thread i : Nat) :
    positions property records thread (i + 1) =
      positions property records thread i ++
        if holdsAt property records thread i then [i] else [] := by
  rw [positions, List.range_succ, List.filter_append]
  congr 1
  split <;> simp_all

/-- A record of another thread adds no position. -/
theorem positions_succ_other (property : Record → Bool) {records : List Record} {thread i : Nat}
    {r : Record} (hr : records[i]? = some r) (hne : r.threadId ≠ thread) :
    positions property records thread (i + 1) = positions property records thread i := by
  simp [positions_succ, holdsAt, hr, hne]

/-- A record of the thread adds its position if it has the property. -/
theorem positions_succ_same (property : Record → Bool) {records : List Record} {i : Nat}
    {r : Record} (hr : records[i]? = some r) :
    positions property records r.threadId (i + 1) =
      positions property records r.threadId i ++ if property r then [i] else [] := by
  simp [positions_succ, holdsAt, hr]

/-- The latest bound is a bound, and there is no later one. -/
theorem latest_bound_eq_some {records : List Record} {thread stop latest : Nat}
    (h : latestBound records thread stop = some latest) :
    latest ∈ positions bounds records thread stop ∧
      ∀ k ∈ positions bounds records thread stop, k ≤ latest := by
  obtain ⟨earlier, hsplit⟩ := List.getLast?_eq_some_iff.mp h
  have hsorted : (positions bounds records thread stop).Pairwise (· < ·) :=
    List.pairwise_lt_range.filter _
  rw [hsplit, List.pairwise_append] at hsorted
  refine ⟨by simp [hsplit], fun k hk => ?_⟩
  rw [hsplit, List.mem_append, List.mem_singleton] at hk
  rcases hk with hk | rfl
  · exact Nat.le_of_lt (hsorted.2.2 k hk latest (by simp))
  · exact Nat.le_refl _

/-- A thread that has begun has a latest bound. -/
theorem latest_bound_of_begun {records : List Record} {thread stop : Nat}
    (h : positions begins records thread stop ≠ []) :
    ∃ latest, latestBound records thread stop = some latest ∧ latest < stop := by
  obtain ⟨k, hk⟩ := List.exists_mem_of_ne_nil _ h
  have hbound : k ∈ positions bounds records thread stop := by
    rw [mem_positions] at hk ⊢
    refine ⟨hk.1, ?_⟩
    cases hr : records[k]? with
    | none => simp [holdsAt, hr] at hk
    | some r =>
        simp only [holdsAt, hr, Option.any_some, bounds, Bool.and_eq_true, Bool.or_eq_true] at hk ⊢
        exact ⟨hk.2.1, Or.inl hk.2.2⟩
  cases hlatest : latestBound records thread stop with
  | none => simp [List.getLast?_eq_none_iff.mp hlatest] at hbound
  | some latest => exact ⟨latest, rfl, (mem_positions.mp (latest_bound_eq_some hlatest).1).1⟩

/-! ## What is pending -/

/-- A record of another thread leaves the pending operations alone. -/
theorem pending_succ_other {records : List Record} {thread i : Nat} {r : Record}
    (hr : records[i]? = some r) (hne : r.threadId ≠ thread) :
    pending records thread (i + 1) = pending records thread i := by
  simp only [pending, latestBound, positions_succ_other _ hr hne]

/-- Nothing is pending right after a bound. -/
theorem pending_succ_bounds {records : List Record} {i : Nat} {r : Record}
    (hr : records[i]? = some r) (hbounds : bounds r = true) :
    pending records r.threadId (i + 1) = [] := by
  have hlatest : latestBound records r.threadId (i + 1) = some i := by
    simp [latestBound, positions_succ_same _ hr, hbounds]
  simp only [pending, hlatest, List.filter_eq_nil_iff]
  intro k hk
  have hlt := (mem_positions.mp hk).1
  simpa using Nat.le_of_lt_succ hlt

/-- An operation of a thread that has begun is pending. -/
theorem pending_succ_operates {records : List Record} {i : Nat} {r : Record}
    (hr : records[i]? = some r) (hbounds : bounds r = false)
    (hbegun : positions begins records r.threadId i ≠ []) :
    pending records r.threadId (i + 1) = pending records r.threadId i ++ [i] := by
  obtain ⟨latest, hlatest, hlt⟩ := latest_bound_of_begun hbegun
  have hsame : latestBound records r.threadId (i + 1) = some latest := by
    simpa [latestBound, positions_succ_same _ hr, hbounds] using hlatest
  simp [pending, hsame, hlatest, positions_succ_same _ hr, operates, hbounds, hlt]

/-- The pending operations of a thread themselves, in their order. -/
def pendingOperations (records : List Record) (thread stop : Nat) : List Record :=
  (pending records thread stop).filterMap (records[·]?)

/-- Every pending position holds an operation. -/
theorem length_pending_operations (records : List Record) (thread stop : Nat) :
    (pendingOperations records thread stop).length = (pending records thread stop).length := by
  rw [pendingOperations, List.filterMap_length_eq_length]
  intro k hk
  have hholds := (mem_positions.mp (List.mem_filter.mp hk).1).2
  cases hr : records[k]? with
  | none => simp [holdsAt, hr] at hholds
  | some r => rfl

/-! ## What the register holds -/

section Register

variable {α : Type} (fresh : α) (step : α → Record → α)

/-- What the register of a scan holds for a thread at a position: what its pending operations
collect, once it has begun. -/
def heldAt (records : List Record) (thread stop : Nat) : Option α :=
  if positions begins records thread stop = [] then none
  else some ((pendingOperations records thread stop).foldl step fresh)

/-- One record moves what is held for its thread as it moves the register. -/
theorem held_at_succ_same {records : List Record} {i : Nat} {r : Record}
    (hr : records[i]? = some r) :
    heldAt fresh step records r.threadId (i + 1) =
      held fresh step (heldAt fresh step records r.threadId i) r := by
  have hpositions := positions_succ_same begins hr
  -- a bound starts over; an operation is collected once the thread has begun
  by_cases hbegins : begins r = true
  · have hbounds : bounds r = true := by simp [bounds, hbegins]
    simp [heldAt, pendingOperations, held, hpositions, hbegins, pending_succ_bounds hr hbounds]
  · simp only [hbegins, Bool.false_eq_true, if_false, List.append_nil] at hpositions
    by_cases hbegun : positions begins records r.threadId i = []
    · simp [heldAt, held, hpositions, hbegins, hbegun]
    · by_cases hends : ends r = true
      · have hbounds : bounds r = true := by simp [bounds, hends]
        simp [heldAt, pendingOperations, held, hpositions, hbegins, hbegun, hends,
          pending_succ_bounds hr hbounds]
      · have hbounds : bounds r = false := by simp [bounds, hbegins, hends]
        simp [heldAt, pendingOperations, held, hpositions, hbegins, hbegun, hends, hr,
          pending_succ_operates hr hbounds hbegun]

/-- At every position the register holds for every thread what its pending operations collect. -/
theorem get_register_at (records : List Record) {stop : Nat} (hstop : stop ≤ records.length)
    (thread : Nat) :
    (registerAt fresh step .empty records stop).get? thread =
      heldAt fresh step records thread stop := by
  induction stop with
  | zero => simp [registerAt, heldAt, positions]
  | succ i ih =>
      have hr : records[i]? = some records[i] := List.getElem?_eq_getElem hstop
      rw [register_at_succ _ _ _ hr]
      by_cases hthread : thread = records[i].threadId
      · subst hthread
        rw [get_advance_same, ih (Nat.le_of_succ_le hstop), held_at_succ_same _ _ hr]
      · rw [get_advance_other _ _ _ _ hthread, ih (Nat.le_of_succ_le hstop)]
        simp only [heldAt, pendingOperations, positions_succ_other _ hr (Ne.symm hthread),
          pending_succ_other hr (Ne.symm hthread)]

end Register

/-- What the register of the scan that counts holds for a thread at a position: the number of its
pending operations, once it has begun. -/
def openCount (records : List Record) (thread stop : Nat) : Option Nat :=
  if positions begins records thread stop = [] then none
  else some (pending records thread stop).length

/-- Counting collects the number of operations. -/
theorem held_at_count (records : List Record) (thread stop : Nat) :
    heldAt 0 (fun count _ => count + 1) records thread stop = openCount records thread stop := by
  simp [heldAt, openCount, length_pending_operations]

/-! ## What is counted -/

/-- A counted position holds an operation of the closing thread, before the closing record and
after every other bound of the thread before it. -/
theorem mem_counted_at {records : List Record} {i k : Nat} (h : k ∈ countedAt records i) :
    ∃ r, records[i]? = some r ∧ k < i ∧ holdsAt operates records r.threadId k = true ∧
      ∀ bound ∈ positions bounds records r.threadId i, bound < k := by
  cases hr : records[i]? with
  | none => simp [countedAt, hr] at h
  | some r =>
      simp only [countedAt, hr, pending, List.mem_filter, mem_positions] at h
      obtain ⟨⟨hlt, hoperates⟩, hlatest⟩ := h
      refine ⟨r, rfl, hlt, hoperates, fun bound hbound => ?_⟩
      obtain ⟨latest, heq, hlater⟩ := (Option.any_eq_true _ _).mp hlatest
      exact Nat.lt_of_le_of_lt ((latest_bound_eq_some heq).2 bound hbound) (by simpa using hlater)

/-- Two closing records count no record in common: the first is a bound between the second and
what it counts, if they are of one thread. -/
theorem counted_at_disjoint {records : List Record} {i j : Nat} (hij : i < j)
    (hi : i ∈ closingPositions records) :
    (countedAt records i).Disjoint (countedAt records j) := by
  intro k hki hkj
  obtain ⟨r, hr, hlt, hown, _⟩ := mem_counted_at hki
  obtain ⟨s, _, _, hother, hafter⟩ := mem_counted_at hkj
  have hthread : r.threadId = s.threadId := by
    cases hk : records[k]? with
    | none => simp [holdsAt, hk] at hown
    | some o =>
        simp only [holdsAt, hk, Option.any_some, Bool.and_eq_true, beq_iff_eq] at hown hother
        exact hown.1.symm.trans hother.1
  have hends : ends r = true := by
    simp only [closingPositions, List.mem_filter, hr, Option.any_some, Bool.and_eq_true] at hi
    exact hi.2.1
  -- so what the second counts lies after the first, and what the first counts before it
  have hbound : i ∈ positions bounds records s.threadId j := by
    rw [mem_positions]
    exact ⟨hij, by simp [holdsAt, hr, hthread, bounds, hends]⟩
  exact Nat.lt_irrefl k (Nat.lt_trans hlt (hafter i hbound))

/-- The record at a position closes its count exactly if it is a closing position. -/
theorem closed_at_eq {records : List Record} {i : Nat} (hi : i < records.length) :
    closedAt 0 (fun count _ => count + 1) .empty records i =
      if records[i]?.any fun r => ends r && !(positions begins records r.threadId i).isEmpty then
        some (countedAt records i).length
      else none := by
  have hr : records[i]? = some records[i] := List.getElem?_eq_getElem hi
  simp only [closedAt, countedAt, hr, Option.bind_some, Option.any_some, closed,
    get_register_at _ _ records (Nat.le_of_lt hi), held_at_count, openCount]
  by_cases hbegun : positions begins records records[i].threadId i = [] <;> simp [hbegun]

/-- The sizes of the closed transactions are the numbers of records counted at the closing
positions, in their order, and no record is counted at two of them. -/
theorem sizes_eq_counted (records : List Record) :
    sizes records = (closingPositions records).map (fun i => (countedAt records i).length) ∧
      ((closingPositions records).flatMap (countedAt records)).Nodup := by
  constructor
  · rw [sizes, closings_eq_filter_map, closingPositions, ← List.filterMap_eq_map',
      List.filterMap_filter]
    exact List.filterMap_congr fun i hi => closed_at_eq (List.mem_range.mp hi)
  · refine List.nodup_flatMap.mpr ⟨fun i _ => ?_, ?_⟩
    · unfold countedAt
      split
      · exact List.nodup_nil
      · exact (List.nodup_range.filter _).filter _
    · have hsorted : (closingPositions records).Pairwise (· < ·) := List.pairwise_lt_range.filter _
      exact hsorted.imp_of_mem fun hi _ hij => counted_at_disjoint hij hi

end CallProfile.Transaction

import CallProfile.Proofs.Transaction.Counts
import Mathlib.Data.List.Basic

/-!
# Records inside transactions

`inside` keeps for each thread whether it is running a transaction. One record does little: whether
it is inside is `isInside` of what its own thread was doing, and `mark` moves no other thread. So a
scan can be cut anywhere (`inside_append`). The invariant `get_marked` says what the register holds
at each position: a thread is running when its latest bound is a `TXBegin`. From it
`inside_eq_positions` says without a register which records are inside.
-/

namespace CallProfile.Transaction

/-! ## One record -/

/-- Whether a record is inside, from what its thread was doing before. -/
def isInside (before : Option Bool) (r : Record) : Bool :=
  begins r || before.getD false

/-- The register of running threads after one record. -/
def mark (running : Register Nat Bool) (r : Record) : Register Nat Bool :=
  running.put r.threadId (isInside (running.get? r.threadId) r && !ends r)

/-- The records inside among a record and the rest are the record, if it is inside, and those among
the rest. -/
theorem inside_cons (running : Register Nat Bool) (r : Record) (rest : List Record) :
    inside running (r :: rest) =
      (if isInside (running.get? r.threadId) r then [r] else []) ++
        inside (mark running r) rest := by
  simp only [inside, mark, isInside]
  by_cases hinside : (begins r || (running.get? r.threadId).getD false) = true <;>
    simp [hinside]

/-- The thread of a record is running after it if the record is inside and not the end. -/
theorem get_mark_same (running : Register Nat Bool) (r : Record) :
    (mark running r).get? r.threadId =
      some (isInside (running.get? r.threadId) r && !ends r) :=
  Register.get_put_same _ _ _

/-- A record leaves the other threads alone. -/
theorem get_mark_other (running : Register Nat Bool) (r : Record) {thread : Nat}
    (hne : thread ≠ r.threadId) : (mark running r).get? thread = running.get? thread :=
  Register.get_put_other _ _ _ _ hne

/-! ## A run of records -/

/-- The records inside among two runs of records are those among the first and, from the register
it leaves, those among the second. -/
theorem inside_append (running : Register Nat Bool) (first rest : List Record) :
    inside running (first ++ rest) =
      inside running first ++ inside (first.foldl mark running) rest := by
  induction first generalizing running with
  | nil => rfl
  | cons r first ih =>
      rw [List.cons_append, inside_cons, inside_cons, ih, List.append_assoc, List.foldl_cons]

/-- Whether a thread is running a transaction before a position: its latest bound is a `TXBegin`. -/
def runsAt (records : List Record) (thread stop : Nat) : Bool :=
  (latestBound records thread stop).any fun k => records[k]?.any begins

/-- Whether the record at a position is inside a transaction: it begins one, or its thread is
running one. -/
def insideAt (records : List Record) (i : Nat) : Bool :=
  records[i]?.any fun r => begins r || runsAt records r.threadId i

/-- A record of another thread does not change whether a thread is running. -/
theorem runs_at_succ_other {records : List Record} {thread i : Nat} {r : Record}
    (hr : records[i]? = some r) (hne : r.threadId ≠ thread) :
    runsAt records thread (i + 1) = runsAt records thread i := by
  simp only [runsAt, latestBound, positions_succ_other _ hr hne]

/-- A record moves whether its thread is running as it moves the register. -/
theorem runs_at_succ_same {records : List Record} {i : Nat} {r : Record}
    (hr : records[i]? = some r) :
    runsAt records r.threadId (i + 1) =
      (isInside (some (runsAt records r.threadId i)) r && !ends r) := by
  have hlatest : latestBound records r.threadId (i + 1) =
      if bounds r then some i else latestBound records r.threadId i := by
    rw [latestBound, positions_succ_same _ hr]
    split <;> simp [latestBound]
  by_cases hbegins : begins r = true
  · simp [runsAt, hlatest, bounds, isInside, hbegins, ends_of_begins hbegins, hr]
  · by_cases hends : ends r = true
    · simp [runsAt, hlatest, bounds, isInside, hbegins, hends, hr]
    · simp [runsAt, hlatest, bounds, isInside, hbegins, hends]

/-- At every position the register says for every thread whether it is running. -/
theorem get_marked (records : List Record) {stop : Nat} (hstop : stop ≤ records.length)
    (thread : Nat) :
    (((records.take stop).foldl mark .empty).get? thread).getD false =
      runsAt records thread stop := by
  induction stop with
  | zero => simp [runsAt, latestBound, positions]
  | succ i ih =>
      have hr : records[i]? = some records[i] := List.getElem?_eq_getElem hstop
      have hbefore := ih (Nat.le_of_succ_le hstop)
      rw [List.take_add_one, hr, Option.toList_some, List.foldl_append, List.foldl_cons,
        List.foldl_nil]
      by_cases hthread : thread = records[i].threadId
      · subst hthread
        simp [get_mark_same, runs_at_succ_same hr, isInside, hbefore]
      · rw [get_mark_other _ _ hthread, hbefore, runs_at_succ_other hr (Ne.symm hthread)]

/-- The records inside are those at the positions inside, in their order. -/
theorem inside_eq_positions (records : List Record) :
    inside .empty records =
      ((List.range records.length).filter (insideAt records)).filterMap (records[·]?) := by
  have htake : ∀ stop ≤ records.length,
      inside .empty (records.take stop) =
        ((List.range stop).filter (insideAt records)).filterMap (records[·]?) := by
    intro stop hstop
    induction stop with
    | zero => simp [inside]
    | succ i ih =>
        have hr : records[i]? = some records[i] := List.getElem?_eq_getElem hstop
        have hlt : i ≤ records.length := Nat.le_of_succ_le hstop
        have hown : isInside (((records.take i).foldl mark .empty).get? records[i].threadId)
            records[i] = insideAt records i := by
          simp [isInside, insideAt, hr, get_marked records hlt]
        rw [List.take_add_one, hr, Option.toList_some, inside_append, inside_cons, inside,
          List.append_nil, ih hlt, hown, List.range_succ, List.filter_append,
          List.filterMap_append]
        congr 1
        split
        · next hinside => simp [hinside, hr]
        · next hinside => simp [hinside]
  simpa using htake records.length (Nat.le_refl _)

/-- A record is inside somewhere in the trace exactly if it is listed. -/
theorem mem_inside {records : List Record} {r : Record} :
    r ∈ inside .empty records ↔ ∃ i, records[i]? = some r ∧ insideAt records i = true := by
  rw [inside_eq_positions]
  simp only [List.mem_filterMap, List.mem_filter, List.mem_range]
  constructor
  · rintro ⟨i, ⟨-, hinside⟩, hr⟩
    exact ⟨i, hr, hinside⟩
  · rintro ⟨i, hr, hinside⟩
    exact ⟨i, ⟨(List.getElem?_eq_some_iff.mp hr).1, hinside⟩, hr⟩

end CallProfile.Transaction

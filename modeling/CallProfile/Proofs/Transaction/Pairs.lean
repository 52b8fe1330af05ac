import CallProfile.Proofs.Transaction.Inside
import CallProfile.Proofs.Transaction.Views

/-!
# Pairs of TXBegin and TXEnd

By the strict rule a `TXEnd` closes what the latest `TXBegin` of its thread opened, and is ignored
if the thread has ended a transaction since. Calls are listed by a looser rule, since a thread that
has begun once keeps counting: `calls_eq_paired_iff` says that the entries of the strict rule are
all there, with the same counts, and that one more entry is listed for each `TXEnd` that follows a
`TXEnd` of its thread.
-/

namespace CallProfile.Transaction

/-! ## The strict rule -/

/-- The position of the `TXBegin` that the next `TXEnd` of a thread closes: its latest bound, if
that is a `TXBegin`. -/
def openedAt (records : List Record) (thread stop : Nat) : Option Nat :=
  (latestBound records thread stop).filter fun k => records[k]?.any begins

/-- The operations of a thread strictly between two positions, in their order. -/
def operationsBetween (records : List Record) (thread start stop : Nat) : List Record :=
  ((positions operates records thread stop).filter (start < ·)).filterMap (records[·]?)

/-- The calls between the record at a position, if that is a `TXEnd`, and the `TXBegin` that it
closes. -/
def pairedAt (accessOps mutateOps : List String) (table : Option String) (records : List Record)
    (i : Nat) : Option CallCounts :=
  records[i]?.bind fun r =>
    if ends r then
      (openedAt records r.threadId i).map fun start =>
        callsAmong accessOps mutateOps table (operationsBetween records r.threadId start i)
    else none

/-- The calls of the transactions of a trace by the strict rule, in the order of the `TXEnd`
records. -/
def pairedCalls (records : List Record) (accessOps mutateOps : List String)
    (table : Option String) : List CallCounts :=
  (List.range records.length).filterMap (pairedAt accessOps mutateOps table records)

/-- Whether the thread of the record at a position has ended its transaction already. -/
def endedAt (records : List Record) (i : Nat) : Bool :=
  records[i]?.any fun r => !runsAt records r.threadId i

/-! ## Both rules by position -/

variable {records : List Record} {thread stop start : Nat}

/-- A thread is running a transaction exactly if its next `TXEnd` closes one. -/
theorem runs_at_eq_is_some_opened : runsAt records thread stop =
    (openedAt records thread stop).isSome := by
  rw [runsAt, openedAt]
  cases latestBound records thread stop with
  | none => rfl
  | some k => cases hbegins : records[k]?.any begins <;> simp [hbegins]

/-- A thread that is running a transaction has begun. -/
theorem begun_of_opened (h : openedAt records thread stop = some start) :
    positions begins records thread stop ≠ [] := by
  obtain ⟨hlatest, hbegins⟩ := Option.filter_eq_some_iff.mp h
  obtain ⟨hlt, hholds⟩ := mem_positions.mp (latest_bound_eq_some hlatest).1
  have hmem : start ∈ positions begins records thread stop := by
    refine mem_positions.mpr ⟨hlt, ?_⟩
    cases hr : records[start]? with
    | none => simp [hr] at hbegins
    | some r =>
        simp only [holdsAt, hr, Option.any_some, Bool.and_eq_true] at hholds hbegins ⊢
        exact ⟨hholds.1, hbegins⟩
  exact List.ne_nil_of_mem hmem

/-- What a `TXEnd` counts are the operations since the `TXBegin` that it closes. -/
theorem operations_at_eq_between {i : Nat} {r : Record} (hr : records[i]? = some r)
    (h : openedAt records r.threadId i = some start) :
    operationsAt records i = operationsBetween records r.threadId start i := by
  have hlatest := (Option.filter_eq_some_iff.mp h).1
  simp only [operationsAt, operationsBetween, countedAt, hr, pending, hlatest, Option.any_some]

/-- By the strict rule a record has an entry exactly if it closes a transaction and its thread has
not ended one already, and this entry counts what the record counts. -/
theorem paired_at_eq (accessOps mutateOps : List String) (table : Option String) {i : Nat}
    (hi : i < records.length) :
    pairedAt accessOps mutateOps table records i =
      if (records[i]?.any fun r =>
          ends r && !(positions begins records r.threadId i).isEmpty) && !endedAt records i then
        some (callsAmong accessOps mutateOps table (operationsAt records i))
      else none := by
  have hr : records[i]? = some records[i] := List.getElem?_eq_getElem hi
  simp only [pairedAt, endedAt, hr, Option.bind_some, Option.any_some, Bool.not_not,
    runs_at_eq_is_some_opened]
  cases hopened : openedAt records records[i].threadId i with
  | none => simp
  | some start =>
      have hbegun := begun_of_opened hopened
      have hsame := operations_at_eq_between hr hopened
      by_cases hends : ends records[i] = true
      · simp [hends, hbegun, hsame]
      · simp [hends]

/-- The entries of the strict rule are those of the closing records whose threads have not ended a
transaction already. -/
theorem paired_calls_eq (records : List Record) (accessOps mutateOps : List String)
    (table : Option String) :
    pairedCalls records accessOps mutateOps table =
      ((closingPositions records).filter fun i => !endedAt records i).map fun i =>
        callsAmong accessOps mutateOps table (operationsAt records i) := by
  rw [pairedCalls, closingPositions, List.filter_filter, ← List.filterMap_eq_map',
    List.filterMap_filter]
  refine List.filterMap_congr fun i hi => ?_
  rw [paired_at_eq _ _ _ (List.mem_range.mp hi), Bool.and_comm]

/-- Calls are listed for every closing record, and by the strict rule for those of them whose
threads have not ended a transaction already, with the same counts. So the two lists are equal
exactly if no thread ends a transaction that it has ended already. -/
theorem calls_eq_paired_iff (records : List Record) (accessOps mutateOps : List String)
    (table : Option String) :
    calls records accessOps mutateOps table = ((closingPositions records).map fun i =>
        callsAmong accessOps mutateOps table (operationsAt records i)) ∧
      pairedCalls records accessOps mutateOps table =
        (((closingPositions records).filter fun i => !endedAt records i).map fun i =>
          callsAmong accessOps mutateOps table (operationsAt records i)) ∧
      (calls records accessOps mutateOps table = pairedCalls records accessOps mutateOps table ↔
        ∀ i ∈ closingPositions records, endedAt records i = false) := by
  have hcalls := calls_eq_among records accessOps mutateOps table
  have hpaired := paired_calls_eq records accessOps mutateOps table
  refine ⟨hcalls, hpaired, ?_⟩
  rw [hcalls, hpaired]
  constructor
  · -- a list and a part of it have equally many entries only if nothing is left out
    intro heq i hi
    have hlength := congrArg List.length heq
    rw [List.length_map, List.length_map] at hlength
    have hall := List.filter_eq_self.mp
      (List.filter_sublist.eq_of_length hlength.symm) i hi
    simpa using hall
  · intro hnone
    have hall : (closingPositions records).filter (fun i => !endedAt records i) =
        closingPositions records :=
      List.filter_eq_self.mpr fun i hi => by simp [hnone i hi]
    rw [hall]

/-- A transaction that is ended twice, with a call between the two ends. -/
def endedTwice : List Record :=
  [tableCall "TXBegin" "begin" "a", tableCall "TXEnd" "end" "a", tableCall "access" "get" "a",
    tableCall "TXEnd" "end" "a"]

/-- The second end is listed with the call between transactions, which the strict rule ignores. -/
theorem ended_twice_not_paired :
    calls endedTwice ["get"] ["put"] none = [⟨0, 0⟩, ⟨1, 0⟩] ∧
      pairedCalls endedTwice ["get"] ["put"] none = [⟨0, 0⟩] := by
  decide

end CallProfile.Transaction

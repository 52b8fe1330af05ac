import CallProfile.Proofs.Transaction.Scan
import Mathlib.Data.List.Dedup
import Mathlib.Data.List.Perm.Basic

/-!
# Threads do not interfere

A scan of the records of all threads is a shuffle of the scans of the single threads. The induction
is over the records, from an arbitrary register: a record moves what its own thread holds, and the
scan of any other thread does not see the difference. The main result is `threads_independent`.
-/

namespace CallProfile.Transaction

/-- The records of one thread, in their order. -/
def ofThread (thread : Nat) (records : List Record) : List Record :=
  records.filter (·.threadId == thread)

/-- The distinct threads of the records. -/
def threads (records : List Record) : List Nat :=
  (records.map (·.threadId)).dedup

/-- The records of a thread all name it. -/
theorem thread_of_mem {thread : Nat} {records : List Record} {r : Record}
    (h : r ∈ ofThread thread records) : r.threadId = thread := by
  simpa using (List.mem_filter.mp h).2

/-- If a list of distinct keys is mapped by two functions that differ at one key only, by what the
first has in front there, then so do the results up to their order. -/
theorem flat_map_perm_of_update {κ β : Type} [DecidableEq κ] {keys : List κ} {key : κ}
    {before after : κ → List β} (front : List β) (hnodup : keys.Nodup) (hkey : key ∈ keys)
    (hsame : before key = front ++ after key)
    (hother : ∀ other, other ≠ key → before other = after other) :
    (keys.flatMap before).Perm (front ++ keys.flatMap after) := by
  have hsplit : keys.Perm (key :: keys.erase key) := List.perm_cons_erase hkey
  have hrest : (keys.erase key).flatMap before = (keys.erase key).flatMap after := by
    refine List.flatMap_congr fun other hmem => hother other ?_
    rintro rfl
    exact hnodup.not_mem_erase hmem
  have hmoved : (key :: keys.erase key).flatMap before =
      front ++ (key :: keys.erase key).flatMap after := by
    rw [List.flatMap_cons, List.flatMap_cons, hsame, hrest, List.append_assoc]
  have hperm := hsplit.flatMap_right before
  rw [hmoved] at hperm
  exact hperm.trans ((hsplit.symm.flatMap_right after).append_left front)

variable {α : Type} (fresh : α) (step : α → Record → α)

/-- The scan of one thread after a record of another is the scan before it. -/
theorem closings_advance_other (collected : Register Nat α) (r : Record) {thread : Nat}
    (hne : thread ≠ r.threadId) (records : List Record) :
    closings fresh step (advance fresh step collected r) (ofThread thread records) =
      closings fresh step collected (ofThread thread records) := by
  refine closings_congr fresh step fun other hother => ?_
  rw [thread_of_mem hother]
  exact get_advance_other fresh step collected r hne

/-- From any register, a scan lists the closings of the single threads in some order. -/
theorem closings_perm_threads (collected : Register Nat α) {records : List Record}
    {keys : List Nat} (hnodup : keys.Nodup) (hkeys : ∀ r ∈ records, r.threadId ∈ keys) :
    (closings fresh step collected records).Perm
      (keys.flatMap fun thread => closings fresh step collected (ofThread thread records)) := by
  induction records generalizing collected with
  | nil => simp [ofThread, closings]
  | cons r rest ih =>
      have hrest := ih (advance fresh step collected r)
        fun other hother => hkeys other (List.mem_cons_of_mem r hother)
      have hown : ofThread r.threadId (r :: rest) = r :: ofThread r.threadId rest := by
        simp [ofThread]
      rw [closings_cons]
      -- the scan of the own thread gains what the record closes, the others stay as they were
      refine (hrest.append_left _).trans (flat_map_perm_of_update _ hnodup
        (hkeys r List.mem_cons_self) ?_ fun thread hne => ?_).symm
      · rw [hown, closings_cons]
      · have hskip : ofThread thread (r :: rest) = ofThread thread rest := by
          simp [ofThread, Ne.symm hne]
        rw [hskip, closings_advance_other fresh step collected r hne]

/-- The closings of a trace are those of its single threads in some order. -/
theorem closings_perm_of_threads (records : List Record) :
    (closings fresh step .empty records).Perm
      ((threads records).flatMap fun thread =>
        closings fresh step .empty (ofThread thread records)) := by
  refine closings_perm_threads fresh step .empty (List.nodup_dedup _) fun r hr => ?_
  exact List.mem_dedup.mpr (List.mem_map_of_mem hr)

/-- Two interleavings of the same records of every thread close the same in some order. -/
theorem closings_perm_of_same_threads {records other : List Record}
    (h : ∀ thread, ofThread thread records = ofThread thread other) :
    (closings fresh step .empty records).Perm (closings fresh step .empty other) := by
  have hother : ∀ r ∈ other, r.threadId ∈ threads records := by
    intro r hr
    have hmem : r ∈ ofThread r.threadId records := by
      rw [h]
      exact List.mem_filter.mpr ⟨hr, by simp⟩
    exact List.mem_dedup.mpr (List.mem_map_of_mem (List.mem_filter.mp hmem).1)
  have hperm := closings_perm_threads fresh step .empty (List.nodup_dedup _) hother
  simp only [← h] at hperm
  exact (closings_perm_of_threads fresh step records).trans hperm.symm

/-- Threads do not interfere: the sizes of the transactions of a trace, and their calls, are those
of its single threads in some order, so any two interleavings of the same threads agree up to the
order. -/
theorem threads_independent (accessOps mutateOps : List String) (table : Option String) :
    (∀ records,
      (sizes records).Perm
        ((threads records).flatMap fun thread => sizes (ofThread thread records)) ∧
      (calls records accessOps mutateOps table).Perm
        ((threads records).flatMap fun thread =>
          calls (ofThread thread records) accessOps mutateOps table)) ∧
    ∀ records other, (∀ thread, ofThread thread records = ofThread thread other) →
      (sizes records).Perm (sizes other) ∧
      (calls records accessOps mutateOps table).Perm
        (calls other accessOps mutateOps table) := by
  simp only [calls, call_closings_eq]
  refine ⟨fun records => ⟨?_, ?_⟩, fun records other h => ⟨?_, ?_⟩⟩
  · exact closings_perm_of_threads _ _ records
  · exact closings_perm_of_threads _ _ records
  · exact closings_perm_of_same_threads _ _ h
  · exact closings_perm_of_same_threads _ _ h

/-- A record that says nothing but its thread and event. -/
def bareRecord (thread : Nat) (event : String) : Record :=
  ⟨0, thread, event, none, none, [], false⟩

/-- Two transactions of two threads, one inside the other. -/
def nestedThreads : List Record :=
  [bareRecord 1 "TXBegin", bareRecord 2 "TXBegin", bareRecord 2 "Seq", bareRecord 2 "TXEnd",
    bareRecord 1 "TXEnd"]

/-- The same two transactions, one after the other. -/
def serialThreads : List Record :=
  [bareRecord 1 "TXBegin", bareRecord 1 "TXEnd", bareRecord 2 "TXBegin", bareRecord 2 "Seq",
    bareRecord 2 "TXEnd"]

/-- Nested and serial transactions of two threads agree up to the order, which does differ. -/
theorem nested_serial_agree :
    (∀ thread, ofThread thread nestedThreads = ofThread thread serialThreads) ∧
      (sizes nestedThreads).Perm (sizes serialThreads) ∧
      sizes nestedThreads = [1, 0] ∧ sizes serialThreads = [0, 1] := by
  have hsame : ∀ thread, ofThread thread nestedThreads = ofThread thread serialThreads := by
    intro thread
    by_cases hfirst : 1 = thread
    · subst hfirst
      rfl
    · simp [ofThread, nestedThreads, serialThreads, bareRecord, List.filter_cons, hfirst]
  exact ⟨hsame, ((threads_independent ["get"] ["put"] none).2 _ _ hsame).1, by decide, by decide⟩

end CallProfile.Transaction

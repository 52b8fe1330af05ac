import CallProfile.Proofs.Transaction.Scan

/-!
# Calls are sizes of filtered traces

Counting the calls of a class is counting operations in the trace that keeps only the calls of the
class. The two scans run in lock step: `view` reads a count of one as a count of the other, every
record kept moves both alike (`held_map`), and a record left out moves neither count
(`held_of_dropped`). The main result is `calls_eq_sizes`.
-/

namespace CallProfile.Transaction

/-! ## Scans in lock step -/

/-- A scan in lock step with another: `view` reads what a thread holds in the first as what it
holds in the second, which sees the records of `keep` only. -/
structure LockStep {α β : Type} (fresh : α) (step : α → Record → α) (fresh' : β)
    (step' : β → Record → β) (view : α → β) (keep : Record → Bool) : Prop where
  fresh : view fresh = fresh'
  kept : ∀ r, begins r = false → ends r = false → keep r = true →
    ∀ value, view (step value r) = step' (view value) r
  dropped : ∀ r, keep r = false →
    begins r = false ∧ ends r = false ∧ ∀ value, view (step value r) = view value

variable {α β : Type} {fresh : α} {step : α → Record → α} {fresh' : β}
  {step' : β → Record → β} {view : α → β} {keep : Record → Bool}

/-- What a thread closes is read as what it closes in the other scan. -/
theorem closed_map (before : Option α) (r : Record) :
    (closed before r).map view = closed (before.map view) r := by
  unfold closed
  split <;> rfl

/-- A record kept moves what its thread holds alike in both scans. -/
theorem LockStep.held_map (h : LockStep fresh step fresh' step' view keep) {r : Record}
    (hkeep : keep r = true) (before : Option α) :
    (held fresh step before r).map view = held fresh' step' (before.map view) r := by
  by_cases hbegins : begins r = true
  · simp [held, hbegins, h.fresh]
  · by_cases hends : ends r = true
    · cases before <;> simp [held, hbegins, hends, h.fresh]
    · simp only [Bool.not_eq_true] at hbegins hends
      cases before <;> simp [held, hbegins, hends, h.kept r hbegins hends hkeep]

/-- A record left out changes nothing of what its thread holds for the other scan. -/
theorem LockStep.held_of_dropped (h : LockStep fresh step fresh' step' view keep) {r : Record}
    (hdrop : keep r = false) (before : Option α) :
    (held fresh step before r).map view = before.map view := by
  obtain ⟨hbegins, hends, hview⟩ := h.dropped r hdrop
  cases before <;> simp [held, hbegins, hends, hview]

/-- Registers that agree through the view still agree after a record that only its own thread
sees. -/
theorem get_advance_view {left : Register Nat α} {right right' : Register Nat β} {r : Record}
    (hview : ∀ thread, (left.get? thread).map view = right.get? thread)
    (hown : (held fresh step (left.get? r.threadId) r).map view = right'.get? r.threadId)
    (hother : ∀ thread, thread ≠ r.threadId → right'.get? thread = right.get? thread)
    (thread : Nat) :
    ((advance fresh step left r).get? thread).map view = right'.get? thread := by
  by_cases hthread : thread = r.threadId
  · rw [hthread, get_advance_same, hown]
  · rw [get_advance_other fresh step left r hthread, hother thread hthread, hview]

/-- Scans in lock step close the same, as the view reads it. -/
theorem LockStep.closings_map (h : LockStep fresh step fresh' step' view keep)
    {left : Register Nat α} {right : Register Nat β} (records : List Record)
    (hview : ∀ thread, (left.get? thread).map view = right.get? thread) :
    (closings fresh step left records).map view =
      closings fresh' step' right (records.filter keep) := by
  induction records generalizing left right with
  | nil => rfl
  | cons r rest ih =>
      rw [closings_cons, List.map_append, ← Option.toList_map, closed_map, hview]
      by_cases hkeep : keep r = true
      · -- both scans take the record and close the same at it
        rw [List.filter_cons_of_pos hkeep, closings_cons]
        congr 1
        refine ih (get_advance_view hview ?_ fun thread hne =>
          get_advance_other fresh' step' right r hne)
        rw [get_advance_same, h.held_map hkeep, hview]
      · -- only the first scan sees the record, which closes nothing and counts nothing there
        simp only [Bool.not_eq_true] at hkeep
        have hnone : closed (right.get? r.threadId) r = none := by
          simp [closed, (h.dropped r hkeep).2.1]
        rw [List.filter_cons_of_neg (by simp [hkeep]), hnone]
        refine ih (get_advance_view hview ?_ fun thread _ => rfl)
        rw [h.held_of_dropped hkeep, hview]

/-! ## The calls of a class -/

/-- Whether a record is a call of one of the methods, on the table if one is given. -/
def isCall (ops : List String) (table : Option String) (r : Record) : Bool :=
  r.callsOneOf ops && table.all r.namesTable

/-- The records without those that are neither a `TXBegin` nor a `TXEnd` nor a call of one of the
methods on the table. -/
def onlyCalls (ops : List String) (table : Option String) (records : List Record) : List Record :=
  records.filter fun r => begins r || ends r || isCall ops table r

/-- A class of the call counts: the methods in it, and the count that their calls add to. -/
structure CountsClass (accessOps mutateOps ops : List String) (view : CallCounts → Nat) : Prop where
  fresh : view ⟨0, 0⟩ = 0
  add : ∀ counts r, view (counts.add accessOps mutateOps r) =
    view counts + (r.callsOneOf ops).toNat

/-- Counting the calls of a class runs in lock step with counting operations among them. -/
theorem CountsClass.lock_step {accessOps mutateOps ops : List String} {view : CallCounts → Nat}
    (h : CountsClass accessOps mutateOps ops view) (table : Option String) :
    LockStep ⟨0, 0⟩ (countCall accessOps mutateOps table) 0 (fun count _ => count + 1) view
      (fun r => begins r || ends r || isCall ops table r) where
  fresh := h.fresh
  kept := by
    intro r hbegins hends hkeep counts
    simp only [hbegins, hends, Bool.false_or, isCall, Bool.and_eq_true] at hkeep
    simp [countCall, hkeep.2, h.add, hkeep.1]
  dropped := by
    intro r hdrop
    simp only [Bool.or_eq_false_iff, isCall, Bool.and_eq_false_iff] at hdrop
    obtain ⟨⟨hbegins, hends⟩, hcall⟩ := hdrop
    refine ⟨hbegins, hends, fun counts => ?_⟩
    unfold countCall
    rcases hcall with hcall | htable
    · split
      · simp [h.add, hcall]
      · rfl
    · simp [htable]

/-- The counts of a class are the sizes of the transactions in the trace of its calls. -/
theorem CountsClass.calls_map {accessOps mutateOps ops : List String} {view : CallCounts → Nat}
    (h : CountsClass accessOps mutateOps ops view) (table : Option String)
    (records : List Record) :
    (calls records accessOps mutateOps table).map view = sizes (onlyCalls ops table records) := by
  rw [calls, call_closings_eq]
  exact (h.lock_step table).closings_map records fun thread => by simp

/-- The access counts of a trace are the sizes of the transactions in the trace of its access
calls, and the mutation counts those in the trace of its mutation calls. -/
theorem calls_eq_sizes (records : List Record) (accessOps mutateOps : List String)
    (table : Option String) :
    (calls records accessOps mutateOps table).map (·.access) =
        sizes (onlyCalls accessOps table records) ∧
      (calls records accessOps mutateOps table).map (·.mutate) =
        sizes (onlyCalls mutateOps table records) := by
  have haccess : CountsClass accessOps mutateOps accessOps (·.access) := ⟨rfl, fun _ _ => rfl⟩
  have hmutate : CountsClass accessOps mutateOps mutateOps (·.mutate) := ⟨rfl, fun _ _ => rfl⟩
  exact ⟨haccess.calls_map table records, hmutate.calls_map table records⟩

end CallProfile.Transaction

import CallProfile.Transaction

/-!
# Scanning the transactions of all threads

`closings` keeps the open transactions of all threads in one register. Read thread by thread, one
record does little: `held` is what its own thread holds afterwards, `closed` is what it closes, and
no other thread changes (`get_advance_other`). The run lemmas follow from the step lemma
`closings_cons`: a scan can be cut anywhere (`closings_append`), and it depends on the register
only through the threads of the records to come (`closings_congr`).

`call_closings_eq` brings the scan of calls, which looks at the table before it looks up the
thread, into the same form.
-/

namespace CallProfile

namespace Register

variable {κ α : Type} [BEq κ]

/-- Nothing is written in the empty register. -/
@[simp] theorem get_empty (key : κ) : (empty : Register κ α).get? key = none := rfl

variable [LawfulBEq κ]

/-- A key reads back what was written last. -/
@[simp] theorem get_put_same (register : Register κ α) (key : κ) (value : α) :
    (register.put key value).get? key = some value := by
  simp [get?, put]

/-- Writing a key leaves the other keys alone. -/
theorem get_put_other (register : Register κ α) (key other : κ) (value : α)
    (hne : other ≠ key) : (register.put key value).get? other = register.get? other := by
  obtain ⟨entries⟩ := register
  simp only [get?, put, List.lookup_cons, beq_eq_false_iff_ne.mpr hne]
  induction entries with
  | nil => rfl
  | cons entry entries ih =>
      rcases entry with ⟨first, held⟩
      by_cases hfirst : first = key
      · simpa [hfirst, List.lookup_cons, beq_eq_false_iff_ne.mpr hne] using ih
      · simp [hfirst, List.lookup_cons, ih]

end Register

namespace Transaction

/-! ## One record -/

/-- No record begins and ends a transaction at once. -/
theorem ends_of_begins {r : Record} (h : begins r = true) : ends r = false := by
  have hevent : r.event = beginEvent := by simpa [begins, Record.isEvent] using h
  simp [ends, Record.isEvent, hevent, beginEvent, endEvent]

variable {α : Type} (fresh : α) (step : α → Record → α)

/-- What a thread holds after one of its records, from what it held before. -/
def held (before : Option α) (r : Record) : Option α :=
  if begins r then some fresh
  else if ends r then before.map fun _ => fresh
  else before.map (step · r)

/-- What a thread closes at one of its records. -/
def closed (before : Option α) (r : Record) : Option α :=
  if ends r then before else none

/-- The register after one record. -/
def advance (collected : Register Nat α) (r : Record) : Register Nat α :=
  match held fresh step (collected.get? r.threadId) r with
  | none => collected
  | some value => collected.put r.threadId value

/-- Only a thread that held nothing holds nothing after a record. -/
theorem held_eq_none {before : Option α} {r : Record} (h : held fresh step before r = none) :
    before = none := by
  cases before with
  | none => rfl
  | some value =>
      simp only [held, Option.map_some] at h
      split at h
      · simp at h
      · split at h <;> simp at h

/-- The thread of a record holds what the record makes of what it held. -/
theorem get_advance_same (collected : Register Nat α) (r : Record) :
    (advance fresh step collected r).get? r.threadId =
      held fresh step (collected.get? r.threadId) r := by
  unfold advance
  split
  · next hheld => rw [hheld, held_eq_none fresh step hheld]
  · next value hheld => rw [hheld, Register.get_put_same]

/-- A record leaves the other threads alone. -/
theorem get_advance_other (collected : Register Nat α) (r : Record) {thread : Nat}
    (hne : thread ≠ r.threadId) :
    (advance fresh step collected r).get? thread = collected.get? thread := by
  unfold advance
  split
  · rfl
  · exact Register.get_put_other _ _ _ _ hne

/-- The scan of a record and the rest is what the record closes and the scan of the rest. -/
theorem closings_cons (collected : Register Nat α) (r : Record) (rest : List Record) :
    closings fresh step collected (r :: rest) =
      (closed (collected.get? r.threadId) r).toList ++
        closings fresh step (advance fresh step collected r) rest := by
  by_cases hbegins : begins r = true
  · simp [closings, closed, advance, held, hbegins, ends_of_begins hbegins]
  · cases hget : collected.get? r.threadId with
    | none => by_cases hends : ends r = true <;>
        simp [closings, closed, advance, held, hbegins, hends, hget]
    | some value => by_cases hends : ends r = true <;>
        simp [closings, closed, advance, held, hbegins, hends, hget]

/-! ## A run of records -/

/-- The scan of two runs of records is the scan of the first and, from the register it leaves, the
scan of the second. -/
theorem closings_append (collected : Register Nat α) (first rest : List Record) :
    closings fresh step collected (first ++ rest) =
      closings fresh step collected first ++
        closings fresh step (first.foldl (advance fresh step) collected) rest := by
  induction first generalizing collected with
  | nil => rfl
  | cons r first ih =>
      rw [List.cons_append, closings_cons, closings_cons, ih, List.append_assoc, List.foldl_cons]

/-- The register after the first records of a run. -/
def registerAt (collected : Register Nat α) (records : List Record) (stop : Nat) :
    Register Nat α :=
  (records.take stop).foldl (advance fresh step) collected

/-- The register after one more record is the register advanced by it. -/
theorem register_at_succ (collected : Register Nat α) {records : List Record} {i : Nat} {r : Record}
    (hr : records[i]? = some r) :
    registerAt fresh step collected records (i + 1) =
      advance fresh step (registerAt fresh step collected records i) r := by
  simp [registerAt, List.take_add_one, hr]

/-- What the record at a position closes, from the register before it. -/
def closedAt (collected : Register Nat α) (records : List Record) (i : Nat) : Option α :=
  records[i]?.bind fun r =>
    closed ((registerAt fresh step collected records i).get? r.threadId) r

/-- A scan lists what the records close, position by position. -/
theorem closings_eq_filter_map (collected : Register Nat α) (records : List Record) :
    closings fresh step collected records =
      (List.range records.length).filterMap (closedAt fresh step collected records) := by
  have htake : ∀ stop ≤ records.length,
      closings fresh step collected (records.take stop) =
        (List.range stop).filterMap (closedAt fresh step collected records) := by
    intro stop hstop
    induction stop with
    | zero => simp [closings]
    | succ stop ih =>
        have hr : records[stop]? = some records[stop] := List.getElem?_eq_getElem hstop
        have hlast :
            (closed ((registerAt fresh step collected records stop).get? records[stop].threadId)
                records[stop]).toList =
              [stop].filterMap (closedAt fresh step collected records) := by
          simp only [List.filterMap_cons, List.filterMap_nil, closedAt, hr, Option.bind_some]
          cases closed _ records[stop] <;> rfl
        rw [List.take_add_one, hr, Option.toList_some, closings_append, closings_cons, closings,
          List.append_nil, ih (Nat.le_of_succ_le hstop), List.range_succ, List.filterMap_append]
        exact congrArg _ hlast
  simpa using htake records.length (Nat.le_refl _)

/-- Two registers that agree on the threads of the records give the same scan. -/
theorem closings_congr {left right : Register Nat α} {records : List Record}
    (h : ∀ r ∈ records, left.get? r.threadId = right.get? r.threadId) :
    closings fresh step left records = closings fresh step right records := by
  induction records generalizing left right with
  | nil => rfl
  | cons r rest ih =>
      have hr : left.get? r.threadId = right.get? r.threadId := h r List.mem_cons_self
      rw [closings_cons, closings_cons, hr]
      congr 1
      -- agreement is kept: the record moves its own thread alike in both and no other in either
      refine ih fun other hother => ?_
      by_cases hthread : other.threadId = r.threadId
      · rw [hthread, get_advance_same, get_advance_same, hr]
      · rw [get_advance_other _ _ _ _ hthread, get_advance_other _ _ _ _ hthread]
        exact h other (List.mem_cons_of_mem r hother)

/-! ## The scan of calls -/

/-- The counts after a record between `TXBegin` and `TXEnd`: those of another table count
nothing. -/
def countCall (accessOps mutateOps : List String) (table : Option String)
    (counts : CallCounts) (r : Record) : CallCounts :=
  if table.all r.namesTable then counts.add accessOps mutateOps r else counts

/-- Writing back what a thread holds does not change the scan. -/
theorem closings_put_held (collected : Register Nat α) {thread : Nat} {value : α}
    (hget : collected.get? thread = some value) (records : List Record) :
    closings fresh step (collected.put thread value) records =
      closings fresh step collected records := by
  refine closings_congr fresh step fun r _ => ?_
  by_cases hthread : r.threadId = thread
  · rw [hthread, Register.get_put_same, hget]
  · exact Register.get_put_other _ _ _ _ hthread

/-- Looking at the table before looking up the thread makes no difference: the scan of calls is the
scan that looks up the thread first. -/
theorem call_closings_eq (accessOps mutateOps : List String) (table : Option String)
    (collected : Register Nat CallCounts) (records : List Record) :
    callClosings accessOps mutateOps table collected records =
      closings ⟨0, 0⟩ (countCall accessOps mutateOps table) collected records := by
  induction records generalizing collected with
  | nil => rfl
  | cons r rest ih =>
      by_cases hbegins : begins r = true
      · simp [callClosings, closings, hbegins, ih]
      · cases hget : collected.get? r.threadId with
        | none => simp [callClosings, closings, hbegins, hget, ih]
        | some counts =>
            by_cases htable : table.all r.namesTable = true
            · simp [callClosings, closings, countCall, hbegins, hget, htable, ih]
            · simp [callClosings, closings, countCall, hbegins, hget, htable, ih,
                closings_put_held _ _ _ hget]

end Transaction

end CallProfile

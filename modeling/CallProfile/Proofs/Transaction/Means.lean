import CallProfile.Proofs.Collecting
import CallProfile.Proofs.Transaction.Inside

/-!
# Mean times inside transactions

The mean times of a trace are about the records inside transactions. `Contributes` says by position
which these are: a record that begins one, and a record whose thread last began one and has not
ended it since. `AveragesInside` says what the means of these records are, in which order the events
come, and over how many records each mean is taken. The main result is `mean_times_average`. It also
says that one pass over the records, which keeps the running threads and the sums side by side,
comes to the same.
-/

namespace CallProfile.Transaction

open Number (Scalar)

/-! ## Which records contribute -/

/-- A thread has begun a transaction before a position, and has neither begun nor ended one
since. -/
def IsOpen (records : List Record) (thread stop : Nat) : Prop :=
  ∃ k b, k < stop ∧ records[k]? = some b ∧ b.threadId = thread ∧ begins b = true ∧
    ∀ j c, k < j → j < stop → records[j]? = some c → c.threadId = thread → bounds c = false

/-- The record at a position begins a transaction, or its thread has one open. -/
def Contributes (records : List Record) (i : Nat) : Prop :=
  ∃ r, records[i]? = some r ∧ (begins r = true ∨ IsOpen records r.threadId i)

/-- A thread holds a record with a property at a position exactly if the record there is its own and
has the property. -/
theorem holds_at_iff {property : Record → Bool} {records : List Record} {thread k : Nat} :
    holdsAt property records thread k = true ↔
      ∃ r, records[k]? = some r ∧ r.threadId = thread ∧ property r = true := by
  cases hr : records[k]? with
  | none => simp [holdsAt, hr]
  | some r => simp [holdsAt, hr]

/-- A thread is running a transaction exactly if it has one open. -/
theorem runs_at_iff {records : List Record} {thread stop : Nat} :
    runsAt records thread stop = true ↔ IsOpen records thread stop := by
  rw [runsAt, Option.any_eq_true]
  constructor
  · rintro ⟨k, hlatest, hbegins⟩
    obtain ⟨hk, hlater⟩ := latest_bound_eq_some hlatest
    obtain ⟨hlt, hholds⟩ := mem_positions.mp hk
    obtain ⟨b, hb, hthread, -⟩ := holds_at_iff.mp hholds
    refine ⟨k, b, hlt, hb, hthread, by simpa [hb] using hbegins, fun j c hkj hj hc hown => ?_⟩
    by_contra hbounds
    have hmem : j ∈ positions bounds records thread stop :=
      mem_positions.mpr ⟨hj, holds_at_iff.mpr ⟨c, hc, hown, by simpa using hbounds⟩⟩
    exact Nat.not_le_of_lt hkj (hlater j hmem)
  · rintro ⟨k, b, hlt, hb, hthread, hbegins, hlater⟩
    have hmem : k ∈ positions bounds records thread stop :=
      mem_positions.mpr ⟨hlt, holds_at_iff.mpr ⟨b, hb, hthread, by simp [bounds, hbegins]⟩⟩
    obtain ⟨latest, hlatest⟩ := Option.ne_none_iff_exists'.mp
      (mt List.getLast?_eq_none_iff.mp (List.ne_nil_of_mem hmem))
    obtain ⟨hlast, hle⟩ := latest_bound_eq_some hlatest
    obtain ⟨hltLast, hholds⟩ := mem_positions.mp hlast
    obtain ⟨c, hc, hown, hbounds⟩ := holds_at_iff.mp hholds
    -- the latest bound is not after the begin, since no bound is
    have hsame : latest = k := by
      refine Nat.le_antisymm (Nat.le_of_not_lt fun hkl => ?_) (hle k hmem)
      simp [hlater latest c hkl hltLast hc hown] at hbounds
    exact ⟨k, hsame ▸ hlatest, by simp [hb, hbegins]⟩

/-- A record is inside a transaction exactly if it contributes. -/
theorem inside_at_iff {records : List Record} {i : Nat} :
    insideAt records i = true ↔ Contributes records i := by
  cases hr : records[i]? with
  | none => simp [insideAt, Contributes, hr]
  | some r => simp [insideAt, Contributes, hr, runs_at_iff]

/-- The event of the record at a position. -/
def eventAt? (records : List Record) (i : Nat) : Option String :=
  records[i]?.map (·.event)

/-- The positions of the records that contribute, ascending. -/
def insidePositions (records : List Record) : List Nat :=
  (List.range records.length).filter (insideAt records)

/-- The positions of the records of an event that contribute, ascending. -/
def contributions (records : List Record) (event : String) : List Nat :=
  (insidePositions records).filter fun i => eventAt? records i = some event

/-- The records of an event that contribute, in their order. -/
def contributed (records : List Record) (event : String) : List Record :=
  (contributions records event).filterMap (records[·]?)

/-- The positions of an event are those where a record of it contributes. -/
theorem mem_contributions {records : List Record} {event : String} {i : Nat} :
    i ∈ contributions records event ↔
      ∃ r, records[i]? = some r ∧ r.event = event ∧ Contributes records i := by
  simp only [contributions, insidePositions, eventAt?, List.mem_filter, List.mem_range,
    inside_at_iff, decide_eq_true_eq, Option.map_eq_some_iff]
  constructor
  · rintro ⟨⟨-, hinside⟩, r, hr, hevent⟩
    exact ⟨r, hr, hevent, hinside⟩
  · rintro ⟨r, hr, hevent, hinside⟩
    exact ⟨⟨(List.getElem?_eq_some_iff.mp hr).1, hinside⟩, r, hr, hevent⟩

/-- The records of an event that contribute are those of the event inside transactions. -/
theorem contributed_eq (records : List Record) (event : String) :
    contributed records event = (inside .empty records).filter (·.isEvent event) := by
  rw [contributed, contributions, insidePositions, inside_eq_positions, List.filter_filterMap,
    List.filterMap_filter]
  refine List.filterMap_congr fun i _ => ?_
  cases hr : records[i]? with
  | none => simp
  | some r =>
      by_cases hevent : r.event = event <;>
        simp [eventAt?, Record.isEvent, Option.filter, hr, hevent]

/-! ## The order of the events -/

/-- If one value comes up before another at ascending positions, it comes up before every position
of the other. -/
theorem exists_before_of_idx_of_lt {κ : Type} [DecidableEq κ] {at? : Nat → Option κ} {a b : κ}
    {places : List Nat} (hplaces : places.Pairwise (· < ·))
    (h : (places.filterMap at?).idxOf a < (places.filterMap at?).idxOf b) :
    ∃ i ∈ places, at? i = some a ∧ ∀ j ∈ places, at? j = some b → i < j := by
  induction places with
  | nil => simp at h
  | cons place rest ih =>
      obtain ⟨hlater, hrest⟩ := List.pairwise_cons.mp hplaces
      -- a position without the other value can be passed over
      have hpass : at? place ≠ some b →
          (rest.filterMap at?).idxOf a < (rest.filterMap at?).idxOf b →
            ∃ i ∈ place :: rest, at? i = some a ∧ ∀ j ∈ place :: rest, at? j = some b → i < j := by
        intro hplace hlt
        obtain ⟨i, hi, ha, hb⟩ := ih hrest hlt
        refine ⟨i, List.mem_cons_of_mem _ hi, ha, fun j hj hbj => ?_⟩
        rcases List.mem_cons.mp hj with rfl | hj
        · exact absurd hbj hplace
        · exact hb j hj hbj
      cases hplace : at? place with
      | none =>
          rw [List.filterMap_cons_none hplace] at h
          exact hpass (by simp [hplace]) h
      | some c =>
          rw [List.filterMap_cons_some hplace] at h
          have hcb : c ≠ b := by
            rintro rfl
            simp at h
          by_cases hca : c = a
          · refine ⟨place, List.mem_cons_self, hca ▸ hplace, fun j hj hbj => ?_⟩
            rcases List.mem_cons.mp hj with rfl | hj
            · exact absurd (Option.some.inj (hplace.symm.trans hbj)) hcb
            · exact hlater j hj
          · rw [List.idxOf_cons_ne _ hca, List.idxOf_cons_ne _ hcb] at h
            exact hpass (by simpa [hplace] using hcb) (Nat.lt_of_succ_lt_succ h)

/-- An event that is among those inside before another has a record that contributes before every
contributing record of the other. -/
theorem contributes_first {records : List Record} {a b : String}
    (h : ((inside .empty records).map (·.event)).idxOf a <
      ((inside .empty records).map (·.event)).idxOf b) :
    ∃ i ∈ contributions records a, ∀ j ∈ contributions records b, i < j := by
  have hevents : (inside .empty records).map (·.event) =
      (insidePositions records).filterMap (eventAt? records) := by
    rw [inside_eq_positions, List.map_filterMap]
    rfl
  rw [hevents] at h
  obtain ⟨i, hi, ha, hb⟩ := exists_before_of_idx_of_lt (List.pairwise_lt_range.filter _) h
  refine ⟨i, List.mem_filter.mpr ⟨hi, decide_eq_true ha⟩, fun j hj => ?_⟩
  obtain ⟨hplace, hevent⟩ := List.mem_filter.mp hj
  exact hb j hplace (of_decide_eq_true hevent)

/-! ## The means -/

/-- Times are the means of the durations inside transactions. -/
structure AveragesInside (α : Type) [Scalar α] (records : List Record) (times : List (String × α)) :
    Prop where
  /-- No event is listed twice. -/
  nodup : (times.map (·.1)).Nodup
  /-- An event is listed exactly if a record of it contributes. -/
  mem_events : ∀ event, event ∈ times.map (·.1) ↔
    ∃ i r, records[i]? = some r ∧ r.event = event ∧ Contributes records i
  /-- An event that is listed before another has a record that contributes before every
  contributing record of the other. -/
  in_turn : (times.map (·.1)).Pairwise fun a b =>
    ∃ i ∈ contributions records a, ∀ j ∈ contributions records b, i < j
  /-- Some record contributes to the mean of an event. -/
  contributed_ne_nil : ∀ entry ∈ times, contributed records entry.1 ≠ []
  /-- The mean is the sum of the durations, from left to right, by the number of the records that
  contribute. -/
  mean : ∀ entry ∈ times, entry.2 =
    ((contributed records entry.1).map (·.durationMs α)).foldl (· + ·) 0.0 /
      Scalar.ofNat (contributed records entry.1).length

/-- The mean times are the means of the durations inside transactions. -/
theorem averages_mean_times (α : Type) [Scalar α] (records : List Record) :
    AveragesInside α records (meanTimes α records) := by
  have hkeys : (meanTimes α records).map (·.1) =
      ((inside .empty records).map (·.event)).eraseDups := by
    simp only [meanTimes, List.map_map]
    exact List.map_id' _
  have hlisted : ∀ event, event ∈ (meanTimes α records).map (·.1) ↔
      ∃ r ∈ inside .empty records, r.event = event := by
    intro event
    rw [hkeys, List.mem_eraseDups, List.mem_map]
  constructor
  case nodup =>
    rw [hkeys]
    exact nodup_erase_dups _
  case mem_events =>
    intro event
    simp only [hlisted, mem_inside, inside_at_iff]
    constructor
    · rintro ⟨r, ⟨i, hr, hinside⟩, hevent⟩
      exact ⟨i, r, hr, hevent, hinside⟩
    · rintro ⟨i, r, hr, hevent, hinside⟩
      exact ⟨r, ⟨i, hr, hinside⟩, hevent⟩
  case in_turn =>
    rw [hkeys]
    exact (pairwise_idx_of_erase_dups _).imp contributes_first
  case contributed_ne_nil =>
    intro entry hentry
    obtain ⟨r, hr, hevent⟩ := (hlisted entry.1).mp (List.mem_map_of_mem hentry)
    rw [contributed_eq]
    exact List.ne_nil_of_mem (List.mem_filter.mpr ⟨hr, by simp [Record.isEvent, hevent]⟩)
  case mean =>
    intro entry hentry
    obtain ⟨event, -, rfl⟩ := List.mem_map.mp hentry
    rw [contributed_eq]

/-! ## One pass -/

/-- What one pass over the records keeps: which threads are running a transaction, and the sum and
the number of the durations of every event so far. -/
structure Pass (α : Type) where
  running : Register Nat Bool
  totals : List (String × α × Nat)

variable {α : Type} [Scalar α]

/-- One more duration. -/
def addDuration (total : α × Nat) (duration : α) : α × Nat :=
  (total.1 + duration, total.2 + 1)

/-- The pass after one more record. A record inside a transaction adds its duration to its event,
and a new event comes last. -/
def Pass.take (pass : Pass α) (r : Record) : Pass α where
  running := mark pass.running r
  totals :=
    if isInside (pass.running.get? r.threadId) r then
      changeAt (fun _ _ => false) (0.0, 0) (addDuration · (r.durationMs α)) r.event pass.totals
    else pass.totals

/-- The means that one pass over the records leaves. -/
def passMeans (α : Type) [Scalar α] (records : List Record) : List (String × α) :=
  (records.foldl Pass.take (⟨.empty, []⟩ : Pass α)).totals.map fun entry =>
    (entry.1, entry.2.1 / Scalar.ofNat entry.2.2)

/-- A pass keeps the totals of the records inside transactions. -/
theorem totals_pass (running : Register Nat Bool) (totals : List (String × α × Nat))
    (records : List Record) :
    (records.foldl Pass.take ⟨running, totals⟩).totals =
      (inside running records).foldl (fun totals r =>
        changeAt (fun _ _ => false) (0.0, 0) (addDuration · (r.durationMs α)) r.event totals)
        totals := by
  induction records generalizing running totals with
  | nil => rfl
  | cons r rest ih =>
      rw [List.foldl_cons, Pass.take, ih, inside_cons, List.foldl_append]
      by_cases hinside : isInside (running.get? r.threadId) r = true <;> simp [hinside]

/-- Adding durations one after another sums them up from left to right and counts them. -/
theorem foldl_add_duration (durations : List α) (total : α × Nat) :
    durations.foldl addDuration total =
      (durations.foldl (· + ·) total.1, total.2 + durations.length) := by
  induction durations generalizing total with
  | nil => rfl
  | cons duration durations ih =>
      rw [List.foldl_cons, ih, addDuration, List.foldl_cons, List.length_cons, Nat.add_assoc,
        Nat.add_comm 1]

/-- One pass leaves the mean times. -/
theorem mean_times_eq_pass (records : List Record) :
    meanTimes α records = passMeans α records := by
  have hcollect : (records.foldl Pass.take (⟨.empty, []⟩ : Pass α)).totals =
      collect (fun _ _ => false) (0.0, 0) addDuration
        ((inside .empty records).map fun r => (r.event, r.durationMs α)) := by
    rw [totals_pass, collect, List.foldl_map]
  have hevents : ((inside .empty records).map fun r => (r.event, r.durationMs α)).map (·.1) =
      (inside .empty records).map (·.event) := by
    rw [List.map_map]
    rfl
  rw [passMeans, hcollect, collect_eq first_come, hevents, meanTimes, List.map_map]
  refine List.map_congr_left fun event _ => ?_
  have hvalues : valuesOf ((inside .empty records).map fun r => (r.event, r.durationMs α)) event =
      ((inside .empty records).filter (·.isEvent event)).map (·.durationMs α) := by
    rw [values_of_map]
    rfl
  rw [Function.comp_apply, hvalues, foldl_add_duration, List.length_map, Nat.zero_add]

/-- The mean times of a trace average the durations of the records that contribute, event by event
in the order in which the events first contribute, and one pass over the records computes them. -/
theorem mean_times_average (α : Type) [Scalar α] (records : List Record) :
    (∀ event i, i ∈ contributions records event ↔
        ∃ r, records[i]? = some r ∧ r.event = event ∧ Contributes records i) ∧
      AveragesInside α records (meanTimes α records) ∧
      meanTimes α records = passMeans α records :=
  ⟨fun _ _ => mem_contributions, averages_mean_times α records, mean_times_eq_pass records⟩

end CallProfile.Transaction

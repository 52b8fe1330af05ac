import CallProfile.Series
import CallProfile.Proofs.Collecting
import CallProfile.Proofs.Summary
import Mathlib.Data.Finset.Card

/-!
# Series per millisecond

A series is made of counts by ascending millisecond, into which the records are counted one after
another, and shows them on a clock of its own. The clock starts at the first millisecond counted,
which is the least one whatever the order of the records, so no time falls before its start.
`CountsPerMs` says what such a series is, and `series_count_per_ms` that the series of events, of
threads and of reads are such series.
-/

namespace CallProfile.Series

/-! ## The clock of a series -/

/-- The first of ascending milliseconds is not after any of them. -/
theorem first_le_of_pairwise {first time : Nat} {rest : List Nat}
    (h : (first :: rest).Pairwise (· < ·)) (htime : time ∈ first :: rest) : first ≤ time := by
  rcases List.mem_cons.mp htime with rfl | hrest
  · exact Nat.le_refl _
  · exact Nat.le_of_lt (List.rel_of_pairwise_cons h hrest)

/-- A series shows for each millisecond how long after the first one it is, and what was read of
it. -/
theorem of_counts_map (read : Nat → Nat) (first : Nat) (rest : List Nat) :
    ofCounts ((first :: rest).map fun time => (time, read time)) =
      (first :: rest).map fun time => ⟨time - first, read time⟩ := by
  rw [List.map_cons, ofCounts, ← List.map_cons (f := fun time => (time, read time)), List.map_map]
  rfl

/-- Moving the clock to the first millisecond keeps the order of the times. -/
theorem pairwise_elapsed (read : Nat → Nat) {first : Nat} {rest : List Nat}
    (h : (first :: rest).Pairwise (· < ·)) :
    ((first :: rest).map fun time => (⟨time - first, read time⟩ : SeriesPoint)).Pairwise
      fun a b => a.elapsedMs < b.elapsedMs := by
  refine List.pairwise_map.mpr (h.imp_of_mem fun {a b} ha _ hab => ?_)
  have hfirst := first_le_of_pairwise h ha
  show a - first < b - first
  omega

/-- There is a point at a time after the first millisecond exactly if that millisecond is listed,
with what was read of it. -/
theorem mem_elapsed (read : Nat → Nat) {first : Nat} {rest : List Nat}
    (h : (first :: rest).Pairwise (· < ·)) (point : SeriesPoint) :
    point ∈ (first :: rest).map (fun time => (⟨time - first, read time⟩ : SeriesPoint)) ↔
      first + point.elapsedMs ∈ first :: rest ∧ point.count = read (first + point.elapsedMs) := by
  constructor
  · intro hpoint
    obtain ⟨time, htime, rfl⟩ := List.mem_map.mp hpoint
    have hback : first + (time - first) = time := Nat.add_sub_of_le (first_le_of_pairwise h htime)
    rw [hback]
    exact ⟨htime, rfl⟩
  · rintro ⟨htime, hcount⟩
    refine List.mem_map.mpr ⟨_, htime, ?_⟩
    rw [← hcount, Nat.add_sub_cancel_left]

/-! ## What a series counts -/

/-- The numbers of records of an event by ascending millisecond, counted one after another. -/
def eventCounts (records : List Record) (event : String) : List (Nat × Nat) :=
  collect (fun a b => a ≤ b) 0 (fun count _ => count + 1)
    (((records.filter (·.isEvent event)).map (·.timestampNs / 1000000)).map (·, ()))

/-- The sets of threads by ascending millisecond, filled one thread after another. -/
def threadSets (records : List Record) : List (Nat × Finset Nat) :=
  collect (fun a b => a ≤ b) ∅ (fun ids id => insert id ids)
    (records.map fun r => (r.timestampNs / 1000000, r.threadId))

/-- The numbers of threads by ascending millisecond. -/
def threadCounts (records : List Record) : List (Nat × Nat) :=
  (threadSets records).map fun entry => (entry.1, entry.2.card)

/-- How many threads the records are on. -/
def threadsOf (records : List Record) : Nat :=
  (records.map (·.threadId)).toFinset.card

/-- The records that began in a millisecond, which is a million nanoseconds. -/
def startedIn (records : List Record) (time : Nat) : List Record :=
  records.filter (·.timestampNs / 1000000 = time)

/-- A series made of counts shows the `measure` of the records of each millisecond, on a clock that
starts at the first of them. -/
structure CountsPerMs (records : List Record) (measure : List Record → Nat)
    (counts : List (Nat × Nat)) (series : List SeriesPoint) : Prop where
  /-- The series shows the counts. -/
  made : series = ofCounts counts
  /-- No millisecond that is counted lies before the first one, from which the time is taken. -/
  first_le : ∀ first ∈ counts.head?, ∀ entry ∈ counts, first.1 ≤ entry.1
  /-- Time goes forward from point to point. -/
  forward : series.Pairwise fun a b => a.elapsedMs < b.elapsedMs
  /-- The first point stands at zero. -/
  from_zero : ∀ point ∈ series.head?, point.elapsedMs = 0
  /-- There is a point as soon as there is a record. -/
  eq_nil_iff : series = [] ↔ records = []
  /-- With the earliest record at zero, there is a point for each millisecond in which a record
  began, and for no other, and it has the measure of the records that began there. -/
  points : ∀ earliest ∈ records,
    (∀ r ∈ records, earliest.timestampNs / 1000000 ≤ r.timestampNs / 1000000) →
    ∀ point, point ∈ series ↔
      (∃ r ∈ records,
        r.timestampNs / 1000000 = earliest.timestampNs / 1000000 + point.elapsedMs) ∧
      point.count =
        measure (startedIn records (earliest.timestampNs / 1000000 + point.elapsedMs))

/-- A series of counts that list the measure of every millisecond in which a record began. -/
theorem counts_per_ms_of_eq {records : List Record} {measure : List Record → Nat}
    {counts : List (Nat × Nat)}
    (h : counts = (ascending (records.map (·.timestampNs / 1000000))).map fun time =>
      (time, measure (startedIn records time))) :
    CountsPerMs records measure counts (ofCounts counts) := by
  subst h
  have hmem : ∀ time, time ∈ ascending (records.map (·.timestampNs / 1000000)) ↔
      ∃ r ∈ records, r.timestampNs / 1000000 = time := fun time => by simp [mem_ascending]
  have hforward := pairwise_lt_ascending (records.map (·.timestampNs / 1000000))
  cases htimes : ascending (records.map (·.timestampNs / 1000000)) with
  | nil =>
      have hnone : records = [] := List.eq_nil_iff_forall_not_mem.mpr fun r hr =>
        List.ne_nil_of_mem ((hmem (r.timestampNs / 1000000)).mpr ⟨r, hr, rfl⟩) htimes
      subst hnone
      exact ⟨rfl, by simp, .nil, by simp [ofCounts], by simp [ofCounts], by simp⟩
  | cons first rest =>
      rw [htimes] at hmem hforward
      obtain ⟨r, hr, hfirst⟩ := (hmem first).mp List.mem_cons_self
      constructor
      case made => rfl
      case first_le =>
        intro entry hentry other hother
        obtain ⟨time, htime, rfl⟩ := List.mem_map.mp hother
        cases hentry
        exact first_le_of_pairwise hforward htime
      case forward =>
        rw [of_counts_map]
        exact pairwise_elapsed _ hforward
      case from_zero =>
        rw [of_counts_map]
        simp
      case eq_nil_iff =>
        rw [of_counts_map]
        simpa using List.ne_nil_of_mem hr
      case points =>
        intro earliest hearliest hleast point
        -- the earliest record began in the first millisecond that is counted
        have hstart : earliest.timestampNs / 1000000 = first :=
          Nat.le_antisymm (hfirst ▸ hleast r hr)
            (first_le_of_pairwise hforward ((hmem _).mpr ⟨earliest, hearliest, rfl⟩))
        rw [of_counts_map, mem_elapsed _ hforward, hstart, hmem]

/-- The rate of an event counts the records of the event per millisecond. -/
theorem event_counts_per_ms (records : List Record) (event : String) :
    CountsPerMs (records.filter (·.isEvent event)) List.length
      (eventCounts records event) (ofEvent records event) := by
  have hcounts : eventCounts records event =
      (ascending ((records.filter (·.isEvent event)).map (·.timestampNs / 1000000))).map fun time =>
        (time, (startedIn (records.filter (·.isEvent event)) time).length) := by
    rw [eventCounts, ← tally_eq_collect, tally_eq]
    refine List.map_congr_left fun time _ => ?_
    rw [List.count_eq_countP, List.countP_map, startedIn, ← List.countP_eq_length_filter]
    congr 1
  have hseries : ofEvent records event = ofCounts (eventCounts records event) := by
    rw [ofEvent, tally_eq_collect, eventCounts]
    rfl
  rw [hseries]
  exact counts_per_ms_of_eq hcounts

/-- Putting values into a set one after another leaves the set of all of them. -/
theorem foldl_insert (ids : List Nat) (set : Finset Nat) :
    ids.foldl (fun set id => insert id set) set = set ∪ ids.toFinset := by
  induction ids generalizing set with
  | nil => simp
  | cons id ids ih => rw [List.foldl_cons, ih, List.toFinset_cons, Finset.insert_union_comm]

/-- The activity counts the distinct threads per millisecond. -/
theorem thread_counts_per_ms (records : List Record) :
    CountsPerMs records threadsOf (threadCounts records) (ofThreads records) := by
  have htimes : (records.map fun r => (r.timestampNs / 1000000, r.threadId)).map (·.1) =
      records.map (·.timestampNs / 1000000) := by
    rw [List.map_map]
    rfl
  have hids : ∀ time, valuesOf (records.map fun r => (r.timestampNs / 1000000, r.threadId)) time =
      (startedIn records time).map (·.threadId) := by
    intro time
    rw [values_of_map, startedIn]
  have hcounts : threadCounts records =
      (ascending (records.map (·.timestampNs / 1000000))).map fun time =>
        (time, threadsOf (startedIn records time)) := by
    rw [threadCounts, threadSets, collect_eq in_order, htimes, List.map_map]
    refine List.map_congr_left fun time _ => ?_
    rw [Function.comp_apply, hids, foldl_insert, Finset.empty_union]
    rfl
  have hdistinct : ∀ ids : List Nat, ids.eraseDups.length = ids.toFinset.card := by
    intro ids
    rw [← List.toFinset_card_of_nodup (nodup_erase_dups ids)]
    congr 1
    ext id
    simp
  have hseries : ofThreads records = ofCounts (threadCounts records) := by
    have hpairs : (records.map fun r => (r.startMs, r.threadId)) =
        records.map fun r => (r.timestampNs / 1000000, r.threadId) := rfl
    rw [ofThreads, hcounts, hpairs, grouped_eq, htimes, List.map_map]
    simp only [Function.comp_def, hids, hdistinct]
    rfl
  rw [hseries]
  exact counts_per_ms_of_eq hcounts

/-- The rate of every event counts the records of the event per millisecond, and all of them
together. The activity of threads counts the distinct threads per millisecond among all records.
Both series of reads are rates, each on the clock of its own first read. -/
theorem series_count_per_ms (records : List Record) :
    (∀ event, CountsPerMs (records.filter (·.isEvent event)) List.length
        (eventCounts records event) (ofEvent records event) ∧
      Number.total ((ofEvent records event).map (·.count)) =
        records.countP (·.isEvent event)) ∧
      CountsPerMs records threadsOf (threadCounts records) (ofThreads records) ∧
      CountsPerMs (records.filter (·.isEvent "access(tx)")) List.length
        (eventCounts records "access(tx)") (ReadSeries.ofRecords records).tx ∧
      CountsPerMs (records.filter (·.isEvent "access(nonTx)")) List.length
        (eventCounts records "access(nonTx)") (ReadSeries.ofRecords records).nonTx :=
  ⟨fun event => ⟨event_counts_per_ms records event, total_of_event records event⟩,
    thread_counts_per_ms records, event_counts_per_ms records transactionalRead,
    event_counts_per_ms records plainRead⟩

end CallProfile.Series

import CallProfile.Chart.Files
import CallProfile.Proofs.Grouping
import CallProfile.Proofs.Transaction.Inside

/-!
# Traces moved in time and to other threads

A trace can be moved by whole milliseconds, and its threads can be given other numbers. Nothing that
is read off it changes: a series has its clock at its own first millisecond, so the groups by
millisecond move as a whole (`Movable.series_moved`), and a register keeps for a renamed thread what
it kept for the thread (`closings_moved`, `inside_moved`). The main result is `analyses_moved`, up
to the pictures of all charts.
-/

namespace CallProfile

open Number (Scalar)

/-- A time some milliseconds later, or earlier if there are less than zero of them. -/
def laterMs (ms : Int) (bucket : Nat) : Nat :=
  (bucket + ms).toNat

/-- The record some milliseconds later, on a renamed thread. -/
def Record.moved (ms : Int) (rename : Nat → Nat) (r : Record) : Record :=
  { r with
    timestampNs := (r.timestampNs + ms * Record.nanosPerMs).toNat
    threadId := rename r.threadId }

/-- The records can be moved: no time is below zero, and different threads get different names. -/
structure Movable (ms : Int) (rename : Nat → Nat) (records : List Record) : Prop where
  not_below : ∀ r ∈ records, 0 ≤ r.timestampNs + ms * Record.nanosPerMs
  apart : ∀ r ∈ records, ∀ s ∈ records,
    rename r.threadId = rename s.threadId → r.threadId = s.threadId

variable {ms : Int} {rename : Nat → Nat} {records : List Record}

/-- What can be moved can be moved in part. -/
theorem Movable.subset {part : List Record} (h : Movable ms rename records)
    (hpart : ∀ r ∈ part, r ∈ records) : Movable ms rename part where
  not_below r hr := h.not_below r (hpart r hr)
  apart r hr s hs := h.apart r (hpart r hr) s (hpart s hs)

/-- What can be moved can be moved without its first record. -/
theorem Movable.tail {r : Record} {rest : List Record} (h : Movable ms rename (r :: rest)) :
    Movable ms rename rest :=
  h.subset fun _ => List.mem_cons_of_mem r

/-! ## Series -/

/-- The millisecond of a record moves by the milliseconds it is moved. -/
theorem Movable.start_ms (h : Movable ms rename records) {r : Record} (hr : r ∈ records) :
    (r.moved ms rename).startMs = laterMs ms r.startMs ∧ 0 ≤ r.startMs + ms := by
  have hbelow := h.not_below r hr
  simp only [Record.moved, Record.startMs, Record.nanosPerMs, laterMs] at hbelow ⊢
  omega

/-- Counts at later times give the same series: its clock moves with them. -/
theorem Series.of_counts_later {counts : List (Nat × Nat)}
    (h : ∀ entry ∈ counts, 0 ≤ (entry.1 : Int) + ms) :
    ofCounts (counts.map (Prod.map (laterMs ms) id)) = ofCounts counts := by
  cases counts with
  | nil => rfl
  | cons first rest =>
      have hfirst := h first List.mem_cons_self
      rw [List.map_cons, Prod.map, ofCounts, ofCounts]
      rw [← Prod.map, ← List.map_cons, List.map_map]
      refine List.map_congr_left fun entry hentry => ?_
      have hentry := h entry hentry
      have helapsed : laterMs ms entry.1 - laterMs ms first.1 = entry.1 - first.1 := by
        unfold laterMs
        omega
      exact congrArg (SeriesPoint.mk · entry.2) helapsed

section Series

variable {β : Type} (own : Record → β) (value : β → β)

/-- Grouping by millisecond moves with the milliseconds. -/
theorem Movable.grouped_moved (h : Movable ms rename records)
    (hvalue : ∀ r, own (r.moved ms rename) = value (own r)) :
    grouped ((records.map (Record.moved ms rename)).map fun r => (r.startMs, own r)) =
      (grouped (records.map fun r => (r.startMs, own r))).map
        (Prod.map (laterMs ms) (List.map value)) := by
  have hpairs : (records.map (Record.moved ms rename)).map (fun r => (r.startMs, own r)) =
      (records.map fun r => (r.startMs, own r)).map (Prod.map (laterMs ms) value) := by
    rw [List.map_map, List.map_map]
    exact List.map_congr_left fun r hr => Prod.ext (h.start_ms hr).1 (hvalue r)
  rw [hpairs]
  refine grouped_map value fun a ha b hb => ?_
  obtain ⟨r, hr, rfl⟩ := List.mem_map.mp ha
  obtain ⟨s, hs, rfl⟩ := List.mem_map.mp hb
  have hrBelow := (h.start_ms hr).2
  have hsBelow := (h.start_ms hs).2
  show r.startMs ≤ s.startMs ↔ laterMs ms r.startMs ≤ laterMs ms s.startMs
  unfold laterMs
  omega

/-- A series that counts something in each millisecond does not change when the records are moved,
if the count does not. -/
theorem Movable.series_moved (h : Movable ms rename records)
    (hvalue : ∀ r, own (r.moved ms rename) = value (own r)) (count : List β → Nat)
    (hcount : ∀ values, (∀ v ∈ values, ∃ r ∈ records, own r = v) →
      count (values.map value) = count values) :
    Series.ofCounts ((grouped ((records.map (Record.moved ms rename)).map
        fun r => (r.startMs, own r))).map fun group => (group.1, count group.2)) =
      Series.ofCounts ((grouped (records.map fun r => (r.startMs, own r))).map
        fun group => (group.1, count group.2)) := by
  have hcounts : (grouped (records.map fun r => (r.startMs, own r))).map
        ((fun group => (group.1, count group.2)) ∘ Prod.map (laterMs ms) (List.map value)) =
      ((grouped (records.map fun r => (r.startMs, own r))).map
        fun group => (group.1, count group.2)).map (Prod.map (laterMs ms) id) := by
    rw [List.map_map]
    refine List.map_congr_left fun group hgroup => Prod.ext rfl (hcount group.2 fun v hv => ?_)
    obtain ⟨r, hr, hpair⟩ := List.mem_map.mp (mem_of_mem_grouped hgroup hv)
    exact ⟨r, hr, congrArg Prod.snd hpair⟩
  rw [h.grouped_moved own value hvalue, List.map_map, hcounts]
  refine Series.of_counts_later fun entry hentry => ?_
  obtain ⟨group, hgroup, rfl⟩ := List.mem_map.mp hentry
  have hkey := mem_keys_grouped.mp (List.mem_map_of_mem hgroup)
  rw [List.map_map, List.mem_map] at hkey
  obtain ⟨r, hr, hbucket⟩ := hkey
  show 0 ≤ (group.1 : Int) + ms
  rw [← hbucket]
  exact (h.start_ms hr).2

end Series

/-- The activity of threads does not change when the records are moved: renaming keeps threads
apart. -/
theorem Movable.of_threads_moved (h : Movable ms rename records) :
    Series.ofThreads (records.map (Record.moved ms rename)) = Series.ofThreads records := by
  refine h.series_moved Record.threadId rename (fun _ => rfl) (fun ids => ids.eraseDups.length)
    fun ids hids => length_erase_dups_map fun a ha b hb => ?_
  obtain ⟨r, hr, rfl⟩ := hids a ha
  obtain ⟨s, hs, rfl⟩ := hids b hb
  exact h.apart r hr s hs

/-- The rate of an event does not change when the records are moved. -/
theorem Movable.of_event_moved (h : Movable ms rename records) (event : String) :
    Series.ofEvent (records.map (Record.moved ms rename)) event =
      Series.ofEvent records event := by
  have hkept : Movable ms rename (records.filter (·.isEvent event)) :=
    h.subset fun r hr => (List.mem_filter.mp hr).1
  have hseries := hkept.series_moved (fun _ => ()) id (fun _ => rfl) List.length
    fun values _ => by rw [List.length_map]
  have hfilter : (records.map (Record.moved ms rename)).filter (·.isEvent event) =
      (records.filter (·.isEvent event)).map (Record.moved ms rename) :=
    List.filter_map
  simpa only [Series.ofEvent, tally, hfilter, List.map_map, Function.comp_def] using hseries

/-! ## Transactions -/

namespace Transaction

variable {α : Type} {fresh : α} {step : α → Record → α}

/-- Whether one register holds for the renamed threads of the records what another holds for the
threads. -/
def HoldsRenamed (rename : Nat → Nat) (records : List Record) (left right : Register Nat α) :
    Prop :=
  ∀ r ∈ records, left.get? (rename r.threadId) = right.get? r.threadId

/-- Registers hold alike after a record if they do for its thread, and leave the other threads
alone: no other thread has the name of its thread. -/
theorem HoldsRenamed.tail {r : Record} {rest : List Record} (h : Movable ms rename (r :: rest))
    {left right left' right' : Register Nat α} (hsame : HoldsRenamed rename (r :: rest) left right)
    (hown : left'.get? (rename r.threadId) = right'.get? r.threadId)
    (hleft : ∀ thread ≠ rename r.threadId, left'.get? thread = left.get? thread)
    (hright : ∀ thread ≠ r.threadId, right'.get? thread = right.get? thread) :
    HoldsRenamed rename rest left' right' := by
  intro s hs
  have hlater := List.mem_cons_of_mem r hs
  by_cases hthread : s.threadId = r.threadId
  · rw [hthread]
    exact hown
  · have hapart : rename s.threadId ≠ rename r.threadId := fun heq =>
      hthread (h.apart s hlater r List.mem_cons_self heq)
    rw [hleft _ hapart, hright _ hthread]
    exact hsame s hlater

/-- A scan of moved records from a register that holds for the renamed threads what another holds
for the threads. -/
theorem closings_moved (h : Movable ms rename records)
    (hstep : ∀ value r, step value (r.moved ms rename) = step value r) {left right : Register Nat α}
    (hsame : HoldsRenamed rename records left right) :
    closings fresh step left (records.map (Record.moved ms rename)) =
      closings fresh step right records := by
  induction records generalizing left right with
  | nil => rfl
  | cons r rest ih =>
      have hr : left.get? (r.moved ms rename).threadId = right.get? r.threadId :=
        hsame r List.mem_cons_self
      have hheld : ∀ before, held fresh step before (r.moved ms rename) =
          held fresh step before r := by
        intro before
        simp only [held, hstep]
        rfl
      have hown : (advance fresh step left (r.moved ms rename)).get? (rename r.threadId) =
          (advance fresh step right r).get? r.threadId := by
        rw [get_advance_same, ← hr, ← hheld]
        exact get_advance_same fresh step left (r.moved ms rename)
      have hrest := ih h.tail (hsame.tail h hown
        (fun _ => get_advance_other fresh step left (r.moved ms rename))
        (fun _ => get_advance_other fresh step right r))
      rw [List.map_cons, closings_cons, closings_cons, hr, hrest]
      rfl

/-- The sizes of transactions do not change when the records are moved. -/
theorem sizes_moved (h : Movable ms rename records) :
    sizes (records.map (Record.moved ms rename)) = sizes records :=
  closings_moved h (fun _ _ => rfl) fun _ _ => rfl

/-- The calls of transactions do not change when the records are moved. -/
theorem calls_moved (h : Movable ms rename records) (accessOps mutateOps : List String)
    (table : Option String) :
    calls (records.map (Record.moved ms rename)) accessOps mutateOps table =
      calls records accessOps mutateOps table := by
  rw [calls, calls, call_closings_eq, call_closings_eq]
  exact closings_moved h (fun _ _ => rfl) fun _ _ => rfl

/-- The records inside transactions are moved with the trace. -/
theorem inside_moved (h : Movable ms rename records) {left right : Register Nat Bool}
    (hsame : HoldsRenamed rename records left right) :
    inside left (records.map (Record.moved ms rename)) =
      (inside right records).map (Record.moved ms rename) := by
  induction records generalizing left right with
  | nil => rfl
  | cons r rest ih =>
      have hr : left.get? (r.moved ms rename).threadId = right.get? r.threadId :=
        hsame r List.mem_cons_self
      have hinside : ∀ before, isInside before (r.moved ms rename) = isInside before r :=
        fun _ => rfl
      have hown : (mark left (r.moved ms rename)).get? (rename r.threadId) =
          (mark right r).get? r.threadId := by
        rw [get_mark_same, ← hr, ← hinside]
        exact get_mark_same left (r.moved ms rename)
      have hrest := ih h.tail (hsame.tail h hown
        (fun _ => get_mark_other left (r.moved ms rename)) (fun _ => get_mark_other right r))
      rw [List.map_cons, inside_cons, inside_cons, hr, hinside, hrest, List.map_append]
      split <;> rfl

/-- The mean times inside transactions do not change when the records are moved. -/
theorem mean_times_moved (α : Type) [Scalar α] (h : Movable ms rename records) :
    meanTimes α (records.map (Record.moved ms rename)) = meanTimes α records := by
  have hinside : inside .empty (records.map (Record.moved ms rename)) =
      (inside .empty records).map (Record.moved ms rename) :=
    inside_moved h fun _ _ => rfl
  simp only [meanTimes, hinside, List.map_map, List.filter_map, List.length_map]
  rfl

end Transaction

/-! ## All analyses -/

/-- The use of tables does not change when the records are moved. -/
theorem TableUse.of_records_moved (ms : Int) (rename : Nat → Nat) (records : List Record) :
    ofRecords (records.map (Record.moved ms rename)) = ofRecords records := by
  rw [ofRecords, List.flatMap_map]
  rfl

/-- The shares of events do not change when the records are moved. -/
theorem Share.of_events_moved (ms : Int) (rename : Nat → Nat) (records : List Record) :
    ofEvents (records.map (Record.moved ms rename)) = ofEvents records := by
  rw [ofEvents, List.map_map]
  rfl

/-- The shares of methods do not change when the records are moved. -/
theorem Share.of_methods_moved (ms : Int) (rename : Nat → Nat) (records : List Record)
    (filter : CallFilter) :
    ofMethods (records.map (Record.moved ms rename)) filter = ofMethods records filter := by
  have hkeeps : filter.keeps ∘ Record.moved ms rename = filter.keeps := by
    funext r
    cases filter <;> rfl
  rw [ofMethods, List.filter_map, List.filterMap_map, hkeeps]
  rfl

/-- The latencies do not change when the records are moved. -/
theorem Latency.of_records_moved (α : Type) [Scalar α] (ms : Int) (rename : Nat → Nat)
    (records : List Record) :
    ofRecords α (records.map (Record.moved ms rename)) = ofRecords α records := by
  rw [ofRecords, List.map_map]
  rfl

/-- Nothing that is read off two traces differs, and every chart of them ends alike. -/
structure SameAnalyses (records other : List Record) : Prop where
  threads : Series.ofThreads records = Series.ofThreads other
  rates : ∀ event, Series.ofEvent records event = Series.ofEvent other event
  reads : ReadSeries.ofRecords records = ReadSeries.ofRecords other
  sizes : Transaction.sizes records = Transaction.sizes other
  calls : ∀ accessOps mutateOps table,
    Transaction.calls records accessOps mutateOps table =
      Transaction.calls other accessOps mutateOps table
  times : Transaction.meanTimes Float records = Transaction.meanTimes Float other
  tables : TableUse.ofRecords records = TableUse.ofRecords other
  events : Share.ofEvents records = Share.ofEvents other
  methods : ∀ filter, Share.ofMethods records filter = Share.ofMethods other filter
  latencies : Latency.ofRecords Float records = Latency.ofRecords Float other
  pictures : ∀ (kind : ChartKind) options,
    kind.pictures records options = kind.pictures other options
  drawings : ∀ {m : Type → Type} [Monad m] [Host m] (console : Console) options kind,
    (ChartKind.draw console records options kind : m ChartResult) =
      ChartKind.draw console other options kind

/-- The pictures of moved records are those of the records: each kind reads off them an analysis
that does not change. -/
theorem Movable.pictures_moved (h : Movable ms rename records) (kind : ChartKind)
    (options : PlotOptions) :
    kind.pictures (records.map (Record.moved ms rename)) options =
      kind.pictures records options := by
  cases kind <;>
    simp only [ChartKind.pictures, ChartKind.charts, ChartKind.callCharts, ReadSeries.ofRecords,
      h.of_threads_moved, h.of_event_moved, Transaction.sizes_moved h, Transaction.calls_moved h,
      Transaction.mean_times_moved Float h, TableUse.of_records_moved, Share.of_events_moved,
      Share.of_methods_moved, Latency.of_records_moved]

/-- Moving a trace by whole milliseconds, and giving its threads other names, changes nothing that
is read off it and no chart of it. -/
theorem analyses_moved (h : Movable ms rename records) :
    SameAnalyses (records.map (Record.moved ms rename)) records where
  threads := h.of_threads_moved
  rates := h.of_event_moved
  reads := by rw [ReadSeries.ofRecords, h.of_event_moved, h.of_event_moved, ReadSeries.ofRecords]
  sizes := Transaction.sizes_moved h
  calls := Transaction.calls_moved h
  times := Transaction.mean_times_moved Float h
  tables := TableUse.of_records_moved ms rename records
  events := Share.of_events_moved ms rename records
  methods := Share.of_methods_moved ms rename records
  latencies := Latency.of_records_moved Float ms rename records
  pictures := h.pictures_moved
  drawings console options kind := by
    rw [ChartKind.draw, ChartKind.draw, h.pictures_moved]

/-- A call on a thread at a time. -/
def callAt (timestampNs thread : Nat) (event : String) : Record :=
  ⟨timestampNs, thread, event, some 1500, some "get", ["t1"], true⟩

/-- Two threads, the second one within the transaction of the first. -/
def twoThreads : List Record :=
  [callAt 3999999 1 "TXBegin", callAt 4000000 2 "access(tx)", callAt 5000001 1 "access(tx)",
    callAt 5000002 1 "TXEnd"]

/-- The calls of two threads can be put on an earlier clock, the threads exchanged. -/
theorem exchanged_threads_agree :
    Movable (-3) (3 - ·) twoThreads ∧
      SameAnalyses (twoThreads.map (Record.moved (-3) (3 - ·))) twoThreads ∧
      (twoThreads.map (Record.moved (-3) (3 - ·))).map (·.timestampNs) =
        [999999, 1000000, 2000001, 2000002] ∧
      (twoThreads.map (Record.moved (-3) (3 - ·))).map (·.threadId) = [2, 1, 2, 2] := by
  have hmovable : Movable (-3) (3 - ·) twoThreads := ⟨by decide, by decide⟩
  exact ⟨hmovable, analyses_moved hmovable, by decide, by decide⟩

end CallProfile

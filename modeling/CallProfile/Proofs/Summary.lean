import CallProfile.Series
import CallProfile.Summary
import CallProfile.Proofs.Tally
import CallProfile.Proofs.Trace.Order

/-!
# Counts that agree

The same records are counted by several analyses: by event for the shares, by event and millisecond
for the rates, by event once more for the latencies, and by method with different filters. Each
analysis keeps the numbers of occurrences of its keys, so all of them can be compared with these
numbers, and through them with each other. `CountsAgree` says how the counts fit together, and
`Summary.RowsAgree` says the same of the numbers that a summary prints side by side. The main result
is `counts_agree`.
-/

namespace CallProfile

/-- How many records are of the event. -/
def occurrences (records : List Record) (event : String) : Nat :=
  records.countP (·.isEvent event)

/-- An event is named as often as there are records of it. -/
theorem count_events (records : List Record) (event : String) :
    (records.map (·.event)).count event = occurrences records event := by
  rw [List.count_eq_countP, List.countP_map]
  rfl

/-! ## Shares -/

namespace Share

/-- The share of an event is how many records are of it. -/
theorem count_of_events (records : List Record) (event : String) :
    countOf (ofEvents records) event = occurrences records event := by
  rw [ofEvents, count_of_tally, count_events]

/-- The shares of the events add up to the records. -/
theorem total_of_events (records : List Record) :
    Number.total ((ofEvents records).map (·.2)) = records.length := by
  rw [ofEvents, total_tally, List.length_map]

/-- The calls of the methods add up to the records that have a method. -/
theorem total_of_methods (records : List Record) :
    Number.total ((ofMethods records .all).map (·.2)) = records.countP (·.method.isSome) := by
  have hall : records.filter CallFilter.all.keeps = records :=
    List.filter_eq_self.mpr fun _ _ => rfl
  rw [ofMethods, total_tally, hall, List.length_filterMap_eq_countP]

/-- A filter takes calls away from a method and adds none. -/
theorem count_of_methods_le (records : List Record) (filter : CallFilter) (method : String) :
    countOf (ofMethods records filter) method ≤ countOf (ofMethods records .all) method := by
  have hsub : (records.filter filter.keeps).Sublist (records.filter CallFilter.all.keeps) :=
    List.monotone_filter_right records fun _ _ => rfl
  rw [ofMethods, ofMethods, count_of_tally, count_of_tally]
  exact (hsub.filterMap _).count_le method

end Share

/-! ## Rates -/

namespace Series

/-- A series keeps the counts it is made of. -/
theorem counts_of_counts (counts : List (Nat × Nat)) :
    (ofCounts counts).map (·.count) = counts.map (·.2) := by
  cases counts with
  | nil => rfl
  | cons first rest => simp [ofCounts, Function.comp_def]

/-- The rate of an event adds up to how many records are of it. -/
theorem total_of_event (records : List Record) (event : String) :
    Number.total ((ofEvent records event).map (·.count)) = occurrences records event := by
  rw [ofEvent, counts_of_counts, total_tally, List.length_map, ← List.countP_eq_length_filter]
  rfl

end Series

/-! ## Latencies -/

namespace Latency

variable {α : Type} [Number.Scalar α]

/-- Samples have statistics that name the event and how many samples there are. -/
theorem count_of_samples (event : String) {samples : List α} (h : samples ≠ []) :
    (ofSamples? event samples).map (fun s => (s.event, s.count)) =
      some (event, samples.length) := by
  have hlength : (sortedSamples samples).length = samples.length :=
    (List.mergeSort_perm samples _).length_eq
  have hne : sortedSamples samples ≠ [] := by
    rw [← List.length_pos_iff, hlength]
    exact List.length_pos_iff.mpr h
  rw [ofSamples?, List.head?_eq_some_head hne, List.getLast?_eq_some_getLast hne]
  simp [hlength]

/-- An event has as many samples as records. -/
theorem length_samples (records : List Record) (event : String) :
    (valuesOf (records.map fun r => (r.event, r.durationMs α)) event).length =
      (records.map (·.event)).count event := by
  rw [values_of_map, List.length_map, ← List.countP_eq_length_filter, count_events]
  exact List.countP_congr fun r _ => by simp [Record.isEvent]

/-- The latencies list the same events as the shares, with the same counts. -/
theorem counts_perm_shares (records : List Record) :
    ((ofRecords α records).map fun s => (s.event, s.count)).Perm (Share.ofEvents records) := by
  refine ((List.mergeSort_perm _ slower).map _).trans (List.Perm.of_eq ?_)
  have hevents : (records.map fun r => (r.event, r.durationMs α)).map (·.1) =
      records.map (·.event) := by
    simp
  rw [grouped_eq, hevents, Share.ofEvents, tally_eq, List.map_filterMap, List.filterMap_map]
  refine (List.filterMap_congr fun event hevent => ?_).trans (congrFun List.filterMap_eq_map' _)
  have hlength := length_samples (α := α) records event
  have hne : valuesOf (records.map fun r => (r.event, r.durationMs α)) event ≠ [] := by
    rw [← List.length_pos_iff, hlength, List.count_pos_iff]
    exact mem_ascending.mp hevent
  rw [Function.comp_apply, count_of_samples event hne, hlength]

/-- An event of the records has one entry, with their number as the count, and no other event has
one. -/
theorem counts_of_event (records : List Record) (event : String) :
    ((ofRecords α records).filter (·.event = event)).map (·.count) =
      if event ∈ records.map (·.event) then [occurrences records event] else [] := by
  have hperm := ((counts_perm_shares (α := α) records).filter (·.1 = event)).map (·.2)
  rw [Share.ofEvents, filter_tally, List.filter_map, List.map_map, count_events] at hperm
  by_cases hevent : event ∈ records.map (·.event)
  · rw [if_pos hevent] at hperm ⊢
    exact List.perm_singleton.mp hperm
  · rw [if_neg hevent] at hperm ⊢
    exact List.perm_nil.mp hperm

end Latency

/-! ## Counts of a trace -/

/-- The counts of the analyses of a trace fit together. -/
structure CountsAgree (trace : Trace) : Prop where
  /-- The share of an event is how many records are of it. -/
  shares : ∀ event, countOf (Share.ofEvents trace.records) event =
    occurrences trace.records event
  /-- The shares of the events add up to the records. -/
  shares_total : Number.total ((Share.ofEvents trace.records).map (·.2)) = trace.records.length
  /-- The events that have a share are those of the trace. -/
  shares_events : ((Share.ofEvents trace.records).map (·.1)).Perm trace.events
  /-- The rate of an event adds up to its share. -/
  rates : ∀ event, Number.total ((Series.ofEvent trace.records event).map (·.count)) =
    countOf (Share.ofEvents trace.records) event
  /-- An event of the trace has one entry among the latencies, with its share as the count. Any
  other event has none. -/
  latencies : ∀ event,
    ((Latency.ofRecords Float trace.records).filter (·.event = event)).map (·.count) =
      if event ∈ trace.events then [countOf (Share.ofEvents trace.records) event] else []
  /-- The calls of the methods add up to the records that have a method. -/
  methods_total : Number.total ((Share.ofMethods trace.records .all).map (·.2)) =
    trace.records.countP (·.method.isSome)
  /-- A method is called in transactions at most as often as it is called. -/
  methods_transactional : ∀ method,
    countOf (Share.ofMethods trace.records .transactional) method ≤
      countOf (Share.ofMethods trace.records .all) method

/-- The events of a trace are the events of its records. -/
theorem Trace.mem_events_of_texts {texts : List (String × String)} {event : String} :
    event ∈ (ofTexts texts).events ↔ event ∈ (ofTexts texts).records.map (·.event) := by
  rw [(of_texts_eq texts).2, List.mem_eraseDups]
  exact ((in_time_order_of_texts texts).perm.map _).mem_iff.symm

/-- The counts of a trace agree. -/
theorem counts_agree_of_texts (texts : List (String × String)) :
    CountsAgree (Trace.ofTexts texts) where
  shares event := Share.count_of_events _ event
  shares_total := Share.total_of_events _
  shares_events := by
    have hnodup : (Trace.ofTexts texts).events.Nodup := by
      rw [(Trace.of_texts_eq texts).2]
      exact nodup_erase_dups _
    refine (List.perm_ext_iff_of_nodup (nodup_keys_tally _) hnodup).mpr fun event => ?_
    rw [Trace.mem_events_of_texts]
    exact mem_keys_tally
  rates event := by rw [Series.total_of_event, Share.count_of_events]
  latencies event := by
    simp only [Latency.counts_of_event, Trace.mem_events_of_texts, Share.count_of_events]
  methods_total := Share.total_of_methods _
  methods_transactional method := Share.count_of_methods_le _ _ method

/-! ## Counts of a summary -/

namespace Summary

/-- The rows of the tables of a summary, with their counts as numbers. -/
structure Rows where
  /-- Every event with its count and its share. -/
  events : List (String × Nat × String)
  /-- Every method with its calls and those of them in transactions. -/
  methods : List (String × Nat × Nat)
  /-- Every event with its count and its mean, median and longest time. -/
  latencies : List (String × Nat × List String)

/-- The text of the tables between two lines. A table of methods without rows is left out. -/
def Rows.text (rows : Rows) (first last : String) : String :=
  let events := Columns.table ["Event", "Count", "Share"]
    (rows.events.map fun row => [row.1, toString row.2.1, row.2.2])
  let methods := Columns.table ["Method", "Calls", "In tx"]
    (rows.methods.map fun row => [row.1, toString row.2.1, toString row.2.2])
  let latencies := Columns.table ["Latency (ms)", "Count", "Mean", "Median", "Max"]
    (rows.latencies.map fun row => row.1 :: toString row.2.1 :: row.2.2)
  "\n".intercalate
    ([first, events] ++ (if rows.methods.isEmpty then [] else [methods]) ++ [latencies, last])

/-- The rows for the records of a trace. -/
def rowsOf (records : List Record) : Rows where
  events := ((Share.ofEvents records).mergeSort moreOften).map fun entry =>
    (entry.1, entry.2, percentage entry.2 (max records.length 1))
  methods := ((Share.ofMethods records .all).mergeSort moreOften).map fun entry =>
    (entry.1, entry.2, countOf (Share.ofMethods records .transactional) entry.1)
  latencies := (Latency.ofRecords Float records).map fun s =>
    (s.event, s.count,
      [Number.Scalar.fixed 3 s.mean, Number.Scalar.fixed 3 s.median, Number.Scalar.fixed 3 s.max])

/-- A summary is the text of its rows. -/
theorem text_eq_rows (trace : Trace) :
    text trace = (rowsOf trace.records).text (opening trace) (transactionLine trace.records) := by
  have hmethods : (rowsOf trace.records).methods.isEmpty =
      (Share.ofMethods trace.records .all).isEmpty := by
    rw [rowsOf, List.isEmpty_map]
    exact (List.mergeSort_perm _ _).isEmpty_eq
  rw [Rows.text, hmethods]
  simp only [rowsOf, List.map_map, text, eventTable, methodTable, latencyTable]
  rfl

/-- The counts in the rows fit together, and with the first line. -/
structure RowsAgree (trace : Trace) (rows : Rows) : Prop where
  /-- The counts of the events add up to the records of the first line. -/
  first_line : opening trace =
    amount (Number.total (rows.events.map (·.2.1))) "record" ++ " from " ++
      amount trace.sources.length "source" ++ ", " ++ toString trace.skipped ++ " skipped\n"
  /-- The tables of events and of latencies list the same events with the same counts. -/
  same_counts : (rows.events.map fun row => (row.1, row.2.1)).Perm
    (rows.latencies.map fun row => (row.1, row.2.1))
  /-- No method has more calls in transactions than calls. -/
  transactional_le : rows.methods.all fun row => row.2.2 ≤ row.2.1

/-- The events in the rows are those of the shares, with their counts. -/
theorem events_perm_shares (records : List Record) :
    ((rowsOf records).events.map fun row => (row.1, row.2.1)).Perm (Share.ofEvents records) := by
  rw [rowsOf, List.map_map]
  simpa [Function.comp_def] using List.mergeSort_perm (Share.ofEvents records) moreOften

/-- A method in the rows has the counts that the shares keep for it. -/
theorem row_of_method {records : List Record} {row : String × Nat × Nat}
    (h : row ∈ (rowsOf records).methods) :
    row.2.1 = countOf (Share.ofMethods records .all) row.1 ∧
      row.2.2 = countOf (Share.ofMethods records .transactional) row.1 := by
  obtain ⟨entry, hentry, rfl⟩ := List.mem_map.mp h
  exact ⟨count_of_mem_tally (List.mem_mergeSort.mp hentry), rfl⟩

/-- The rows of a summary agree. -/
theorem rows_agree (trace : Trace) : RowsAgree trace (rowsOf trace.records) where
  first_line := by
    have htotal := Number.total_of_perm ((events_perm_shares trace.records).map (·.2))
    rw [List.map_map, Share.total_of_events] at htotal
    rw [opening, ← htotal]
    rfl
  same_counts := by
    refine (events_perm_shares trace.records).trans ?_
    rw [rowsOf, List.map_map]
    exact (Latency.counts_perm_shares trace.records).symm
  transactional_le := by
    rw [List.all_eq_true]
    intro row hrow
    obtain ⟨hcalls, hinTx⟩ := row_of_method hrow
    rw [hcalls, hinTx]
    exact decide_eq_true (Share.count_of_methods_le trace.records .transactional row.1)

end Summary

/-- The counts of the analyses agree on the trace of any text, and a summary of the trace shows
counts that agree. -/
theorem counts_agree (name log : String) :
    CountsAgree (Trace.ofText name log) ∧
      Summary.text (Trace.ofText name log) =
        (Summary.rowsOf (Trace.ofText name log).records).text
          (Summary.opening (Trace.ofText name log))
          (Summary.transactionLine (Trace.ofText name log).records) ∧
      Summary.RowsAgree (Trace.ofText name log)
        (Summary.rowsOf (Trace.ofText name log).records) :=
  ⟨counts_agree_of_texts _, Summary.text_eq_rows _, Summary.rows_agree _⟩

end CallProfile

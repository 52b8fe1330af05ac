import CallProfile.Latency
import CallProfile.Series
import CallProfile.Share
import CallProfile.TableUse
import CallProfile.Proofs.Grouping
import CallProfile.Proofs.Number.Binary64
import Mathlib.Data.List.Perm.Basic

/-!
# The order of records

Counts and latencies do not depend on the order of the records. Each of them reads off groups what
does not depend on the order of the values in a group: their number, how many are distinct, or
their statistics. The statistics are those of the sorted samples, and since no two binary64 numbers
tie in the order of sorting, the same samples are summed up in the same order, with the same
roundings. The main result is `analyses_of_perm`.
-/

namespace CallProfile

variable {records other : List Record}

/-- The activity of threads does not depend on the order of the records. -/
theorem Series.of_threads_of_perm (h : records.Perm other) :
    ofThreads records = ofThreads other := by
  have hcounts := map_grouped_of_perm
    (fun group : Nat × List Nat => (group.1, group.2.eraseDups.length))
    (fun key _ _ hids => congrArg (key, ·) (length_erase_dups_of_perm hids))
    (h.map fun r => (r.startMs, r.threadId))
  exact congrArg ofCounts hcounts

/-- The rate of an event does not depend on the order of the records. -/
theorem Series.of_event_of_perm (h : records.Perm other) (event : String) :
    ofEvent records event = ofEvent other event :=
  congrArg ofCounts (tally_of_perm ((h.filter _).map _))

/-- The use of tables does not depend on the order of the records. -/
theorem TableUse.of_records_of_perm (h : records.Perm other) :
    ofRecords records = ofRecords other :=
  map_grouped_of_perm _ (fun table _ _ hevents => congrArg (table, ·) (tally_of_perm hevents))
    (h.flatMap_right _)

/-- The shares of events do not depend on the order of the records. -/
theorem Share.of_events_of_perm (h : records.Perm other) : ofEvents records = ofEvents other :=
  tally_of_perm (h.map _)

/-- The shares of methods do not depend on the order of the records. -/
theorem Share.of_methods_of_perm (h : records.Perm other) (filter : CallFilter) :
    ofMethods records filter = ofMethods other filter :=
  tally_of_perm ((h.filter _).filterMap _)

namespace Latency

/-- The statistics of binary64 samples do not depend on the order of the samples. -/
theorem of_samples_of_perm (event : String) {samples others : List Float}
    (h : samples.Perm others) : ofSamples? event samples = ofSamples? event others := by
  have hsorted : sortedSamples samples = sortedSamples others :=
    Number.Scalar.merge_sort_float_of_perm h
  rw [ofSamples?, ofSamples?, hsorted]

/-- The latencies do not depend on the order of the records. -/
theorem of_records_of_perm (h : records.Perm other) :
    ofRecords Float records = ofRecords Float other := by
  have hstats := map_grouped_of_perm
    (fun group : String × List Float => ofSamples? group.1 group.2)
    (fun event _ _ hsamples => of_samples_of_perm event hsamples)
    (h.map fun r => (r.event, r.durationMs Float))
  have hpresent := congrArg (List.filterMap id) hstats
  rw [List.filterMap_map, List.filterMap_map] at hpresent
  exact congrArg (List.mergeSort · slower) hpresent

end Latency

/-- No analysis depends on the order of the records: the activity of threads, the rates of events
and reads, the use of tables with its events, the shares of events and methods, and the latencies
with their averages are the same, bit for bit. -/
theorem analyses_of_perm (h : records.Perm other) :
    Series.ofThreads records = Series.ofThreads other ∧
      (∀ event, Series.ofEvent records event = Series.ofEvent other event) ∧
      ReadSeries.ofRecords records = ReadSeries.ofRecords other ∧
      TableUse.ofRecords records = TableUse.ofRecords other ∧
      (TableUse.ofRecords records).events = (TableUse.ofRecords other).events ∧
      Share.ofEvents records = Share.ofEvents other ∧
      (∀ filter, Share.ofMethods records filter = Share.ofMethods other filter) ∧
      Latency.ofRecords Float records = Latency.ofRecords Float other ∧
      Latency.averages (Latency.ofRecords Float records) =
        Latency.averages (Latency.ofRecords Float other) := by
  have hreads : ReadSeries.ofRecords records = ReadSeries.ofRecords other := by
    rw [ReadSeries.ofRecords, ReadSeries.ofRecords, Series.of_event_of_perm h,
      Series.of_event_of_perm h]
  have hlatencies := Latency.of_records_of_perm h
  have htables := TableUse.of_records_of_perm h
  exact ⟨Series.of_threads_of_perm h, Series.of_event_of_perm h, hreads, htables,
    congrArg TableUse.events htables, Share.of_events_of_perm h, Share.of_methods_of_perm h,
    hlatencies, congrArg Latency.averages hlatencies⟩

/-- A call of one event with a duration. -/
def timedCall (timestampNs durationNs : Nat) : Record :=
  ⟨timestampNs, 1, "Seq", some durationNs, none, ["t1"], false⟩

/-- Calls whose durations have another binary64 sum in another order. -/
def timedCalls : List Record :=
  [timedCall 1 300000, timedCall 2 200000, timedCall 3 100000]

/-- The calls from the last to the first have the same latencies, although the sum of the durations
differs from one order to the other. -/
theorem reversed_calls_agree :
    timedCalls.Perm timedCalls.reverse ∧
      Latency.ofRecords Float timedCalls = Latency.ofRecords Float timedCalls.reverse ∧
      Series.ofThreads timedCalls = Series.ofThreads timedCalls.reverse ∧
      (Number.Scalar.sum (timedCalls.map (Record.durationMs Float))).toBits ≠
        (Number.Scalar.sum (timedCalls.reverse.map (Record.durationMs Float))).toBits := by
  have hperm : timedCalls.Perm timedCalls.reverse := (List.reverse_perm _).symm
  have hagree := analyses_of_perm hperm
  exact ⟨hperm, hagree.2.2.2.2.2.2.2.1, hagree.1, by decide +kernel⟩

end CallProfile

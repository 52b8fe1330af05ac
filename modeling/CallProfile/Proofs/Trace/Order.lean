import CallProfile.Trace
import CallProfile.Proofs.Ordering
import CallProfile.Proofs.Record.Report

/-!
# The order of a trace

Two orders meet in a trace. Its records are in the order of time: `InTimeOrder` says which lists
are, given the records in the order of the input, and `of_texts_in_order` that only one list is.
Its events stand in the order in which the input, not the trace, first names them. So traces of the
same records are equal in their records however the input splits them, as long as records of equal
timestamp keep their order.
-/

namespace CallProfile.Trace

/-- The lines of texts in the order of the input. -/
def inputLines (texts : List (String × String)) : List String :=
  texts.flatMap fun text => Text.lines text.2

/-- The records of texts in the order of the input. -/
def inputRecords (texts : List (String × String)) : List Record :=
  (inputLines texts).filterMap fun line => (Record.ofLine line).toOption

/-- The records of one timestamp, in their order. -/
def ofTime (time : Nat) (records : List Record) : List Record :=
  records.filter (·.timestampNs = time)

/-- The list holds the records of the input in the order of time. -/
structure InTimeOrder (input records : List Record) : Prop where
  /-- No record is lost and none is added. -/
  perm : records.Perm input
  /-- Timestamps never decrease. -/
  ascending : records.Pairwise fun a b => a.timestampNs ≤ b.timestampNs
  /-- Records of equal timestamp keep the order of the input. -/
  stable : ∀ time, ofTime time records = ofTime time input

/-- Sorting by timestamp brings the records into the order of time. -/
theorem in_time_order_merge_sort (input : List Record) :
    InTimeOrder input (input.mergeSort notAfter) where
  perm := List.mergeSort_perm _ _
  ascending := pairwise_merge_sort_key Record.timestampNs input
  stable time := filter_merge_sort_key Record.timestampNs time input

/-- At most one list is in the order of time. Records that keep the order of equal timestamps count
as one input. -/
theorem InTimeOrder.unique {input other records sorted : List Record}
    (h : InTimeOrder input records) (hother : InTimeOrder other sorted)
    (hsame : ∀ time, ofTime time input = ofTime time other) : records = sorted :=
  eq_of_ascending Record.timestampNs h.ascending hother.ascending fun time =>
    ((h.stable time).trans (hsame time)).trans (hother.stable time).symm

/-- The records of the input are those among what its lines say. -/
theorem input_records_eq (texts : List (String × String)) :
    inputRecords texts =
      (texts.flatMap fun text => LineReport.outcomes text.2).filterMap Except.toOption := by
  rw [inputRecords, inputLines, ← LineReport.filter_map_outcomes, List.flatMap_assoc]
  rfl

/-- A trace is made of the records of the input. -/
theorem of_texts_eq (texts : List (String × String)) :
    (ofTexts texts).records = (inputRecords texts).mergeSort notAfter ∧
      (ofTexts texts).events = ((inputRecords texts).map (·.event)).eraseDups := by
  have hinput : (texts.map fun text => (text.1, LineReport.ofText text.2)).flatMap (·.2.records) =
      inputRecords texts := by
    rw [input_records_eq, List.flatMap_map, List.filterMap_flatMap]
    simp only [LineReport.records_of_text]
  rw [← hinput]
  exact ⟨rfl, rfl⟩

/-- The records of a trace are in the order of time. -/
theorem in_time_order_of_texts (texts : List (String × String)) :
    InTimeOrder (inputRecords texts) (ofTexts texts).records := by
  rw [(of_texts_eq texts).1]
  exact in_time_order_merge_sort _

/-- Among records of distinct timestamps, those of one timestamp are at most one, so that their
order says nothing. -/
theorem of_time_eq_of_perm {input other : List Record} (h : input.Perm other)
    (hdistinct : (input.map (·.timestampNs)).Nodup) (time : Nat) :
    ofTime time input = ofTime time other := by
  have hfiltered : (ofTime time input).Perm (ofTime time other) := h.filter _
  have hshort : (ofTime time input).length ≤ 1 := by
    have hnodup : ((ofTime time input).map (·.timestampNs)).Nodup :=
      hdistinct.sublist (List.filter_sublist.map _)
    have hall : ∀ t ∈ (ofTime time input).map (·.timestampNs), t = time := by
      intro t ht
      obtain ⟨r, hr, rfl⟩ := List.mem_map.mp ht
      simpa using (List.mem_filter.mp hr).2
    -- Equal timestamps without a repetition are at most one.
    rw [List.eq_replicate_iff.mpr ⟨rfl, hall⟩, List.nodup_replicate] at hnodup
    simpa using hnodup
  cases hrecords : ofTime time input with
  | nil =>
      rw [hrecords] at hfiltered
      exact hfiltered.nil_eq
  | cons r rest =>
      have hrest : rest = [] := by simpa [hrecords] using hshort
      rw [hrecords, hrest] at hfiltered
      rw [hrest, List.singleton_perm.mp hfiltered]

/-- The records of a trace are the one list of all records of the input in the order of time, and
its events are the names of these records, each once, in the order in which the input first has
them. Any other texts give the same records if theirs are the same but for the order of different
timestamps, and so do the same lines of distinct timestamps, however split and ordered. -/
theorem of_texts_in_order (texts : List (String × String)) :
    (∀ records, InTimeOrder (inputRecords texts) records ↔ records = (ofTexts texts).records) ∧
      (ofTexts texts).events.Nodup ∧
      (∀ event, event ∈ (ofTexts texts).events ↔ ∃ r ∈ (ofTexts texts).records, r.event = event) ∧
      ((ofTexts texts).events.Pairwise fun a b =>
        ((inputRecords texts).map (·.event)).idxOf a <
          ((inputRecords texts).map (·.event)).idxOf b) ∧
      ∀ other,
        ((inputRecords texts).Perm (inputRecords other) →
            (∀ time, ofTime time (inputRecords texts) = ofTime time (inputRecords other)) →
          (ofTexts texts).records = (ofTexts other).records) ∧
        ((inputLines texts).Perm (inputLines other) →
            ((inputRecords texts).map (·.timestampNs)).Nodup →
          (ofTexts texts).records = (ofTexts other).records) := by
  have horder := in_time_order_of_texts texts
  have hevents := (of_texts_eq texts).2
  refine ⟨fun records => ⟨fun h => h.unique horder fun _ => rfl, ?_⟩, ?_, fun event => ?_, ?_,
    fun other => ⟨fun _ hsame => ?_, fun hlines hdistinct => ?_⟩⟩
  · rintro rfl
    exact horder
  · rw [hevents]
    exact nodup_erase_dups _
  · rw [hevents, List.mem_eraseDups, List.mem_map]
    simp only [horder.perm.mem_iff]
  · rw [hevents]
    exact pairwise_idx_of_erase_dups _
  · exact horder.unique (in_time_order_of_texts other) hsame
  · have hperm : (inputRecords texts).Perm (inputRecords other) := hlines.filterMap _
    exact horder.unique (in_time_order_of_texts other) (of_time_eq_of_perm hperm hdistinct)

/-- A log that is not in the order of time, with two records of one timestamp. -/
def wholeLog : List (String × String) :=
  [("run.log", "3 1 | TXEnd\n1 1 | TXBegin\n1 2 | Seq\n")]

/-- The same lines in two logs. -/
def splitLog : List (String × String) :=
  [("a.log", "1 1 | TXBegin\n1 2 | Seq"), ("b.log", "3 1 | TXEnd\n")]

/-- A log gives the records that its parts give, and the events in another order. -/
theorem whole_split_agree :
    (inputRecords wholeLog).Perm (inputRecords splitLog) ∧
      (∀ time, ofTime time (inputRecords wholeLog) = ofTime time (inputRecords splitLog)) ∧
      (ofTexts wholeLog).records = (ofTexts splitLog).records ∧
      (ofTexts wholeLog).events = ["TXEnd", "TXBegin", "Seq"] ∧
      (ofTexts splitLog).events = ["TXBegin", "Seq", "TXEnd"] := by
  have hwhole : inputRecords wholeLog = [⟨3, 1, "TXEnd", none, none, [], false⟩,
      ⟨1, 1, "TXBegin", none, none, [], false⟩, ⟨1, 2, "Seq", none, none, [], false⟩] := by
    decide +kernel
  have hsplit : inputRecords splitLog = [⟨1, 1, "TXBegin", none, none, [], false⟩,
      ⟨1, 2, "Seq", none, none, [], false⟩, ⟨3, 1, "TXEnd", none, none, [], false⟩] := by
    decide +kernel
  have hperm : (inputRecords wholeLog).Perm (inputRecords splitLog) := by
    rw [hwhole, hsplit]
    decide
  have hsame : ∀ time,
      ofTime time (inputRecords wholeLog) = ofTime time (inputRecords splitLog) := by
    intro time
    rw [hwhole, hsplit]
    by_cases htime : 1 = time
    · subst htime
      rfl
    · simp [ofTime, List.filter_cons, htime]
  refine ⟨hperm, hsame, ((of_texts_in_order wholeLog).2.2.2.2 splitLog).1 hperm hsame, ?_, ?_⟩
  · rw [(of_texts_eq wholeLog).2, hwhole]
    decide
  · rw [(of_texts_eq splitLog).2, hsplit]
    decide

end CallProfile.Trace

import CallProfile.Plotting
import CallProfile.Proofs.Summary
import CallProfile.Proofs.Transaction.Extension
import CallProfile.Proofs.Transaction.Views

/-!
# What charts have to show

Each kind of chart looks for emptiness in an aggregate of its own: a series, the bins of a
histogram, the tables used, the total of a share. `ChartKind.Shows` says of the records themselves
which of them the chart is about, and `ChartKind.Outcome` what a chart comes to. Charts with axes
come to it in every arithmetic (`charts_outcome`).
-/

namespace CallProfile

open Number (Scalar)

/-- Whether the records, with the chosen table, hold anything that a chart of the kind shows. -/
def ChartKind.Shows (records : List Record) (table : Option String) : ChartKind → Prop
  | activeThreads | allOps | opLatency => records ≠ []
  | seqCalls => ∃ r ∈ records, r.event = "Seq"
  | opsPerTx | tableOpsPerTx | tableIdOpsPerTx => ∃ i, Transaction.closesAt records i = true
  | tableOps => ∃ r ∈ records, r.tableIds ≠ []
  | allMethods => ∃ r ∈ records, r.method.isSome
  | allMethodsTx => ∃ r ∈ records, r.transactional ∧ r.method.isSome
  | allMethodsById => ∃ r ∈ records, (∃ id ∈ table, id ∈ r.tableIds) ∧ r.method.isSome
  | txOpTime =>
    ∃ i r, records[i]? = some r ∧ Transaction.insideAt records i = true ∧
      r.durationNs.getD 0 ≠ 0
  | reads => ∃ r ∈ records, r.event = "access(tx)" ∨ r.event = "access(nonTx)"

/-! ## Empty aggregates -/

namespace Series

/-- A series of counts is empty if there are none. -/
theorem of_counts_eq_nil_iff {counts : List (Nat × Nat)} : ofCounts counts = [] ↔ counts = [] := by
  cases counts <;> simp [ofCounts]

/-- The series of threads is empty exactly if there is no record. -/
theorem of_threads_eq_nil_iff {records : List Record} : ofThreads records = [] ↔ records = [] := by
  simp only [ofThreads, of_counts_eq_nil_iff, List.map_eq_nil_iff, grouped_eq_nil_iff]

/-- The series of an event is empty exactly if no record is of it. -/
theorem of_event_eq_nil_iff {records : List Record} {event : String} :
    ofEvent records event = [] ↔ ¬∃ r ∈ records, r.event = event := by
  simp only [ofEvent, of_counts_eq_nil_iff, tally_eq_nil_iff, List.map_eq_nil_iff,
    List.filter_eq_nil_iff, Record.isEvent, beq_iff_eq]
  push Not
  rfl

end Series

/-- There are no reads exactly if no record is of either event of reads. -/
theorem ReadSeries.is_empty_iff {records : List Record} :
    (ofRecords records).isEmpty = true ↔
      ¬∃ r ∈ records, r.event = "access(tx)" ∨ r.event = "access(nonTx)" := by
  simp only [isEmpty, ofRecords, Bool.and_eq_true, List.isEmpty_iff, Series.of_event_eq_nil_iff,
    Series.transactionalRead, Series.plainRead]
  grind

/-- A histogram has no bins exactly if it has no samples. -/
theorem Histogram.of_samples_eq_nil_iff {α : Type} [Scalar α] {samples : List Nat} {bins : Nat} :
    (ofSamples samples bins : List (Bin α)) = [] ↔ samples = [] := by
  cases hleast : samples.min? with
  | none => simp [ofSamples, List.min?_eq_none_iff.mp hleast]
  | some least =>
      have hne : samples ≠ [] := by
        rintro rfl
        simp at hleast
      obtain ⟨most, hmost⟩ := Option.isSome_iff_exists.mp (List.isSome_max?_of_ne_nil hne)
      simp only [ofSamples, hleast, hmost, List.map_eq_nil_iff, List.range_eq_nil, hne, iff_false]
      omega

/-- No table is used exactly if no record names one. -/
theorem TableUse.of_records_eq_nil_iff {records : List Record} :
    ofRecords records = [] ↔ ¬∃ r ∈ records, r.tableIds ≠ [] := by
  simp only [ofRecords, List.map_eq_nil_iff, grouped_eq_nil_iff, List.flatMap_eq_nil_iff]
  push Not
  rfl

namespace Transaction

/-- No size is listed exactly if no record closes a transaction. -/
theorem sizes_eq_nil_iff {records : List Record} :
    sizes records = [] ↔ ¬∃ i, closesAt records i = true := by
  have hinside : ∀ i, closesAt records i = true → i < records.length := by
    intro i hi
    obtain ⟨r, hr, -⟩ := (Option.any_eq_true _ _).mp hi
    exact (List.getElem?_eq_some_iff.mp hr).1
  rw [(sizes_eq_counted records).1, closing_positions_eq]
  simp only [List.map_eq_nil_iff, List.filter_eq_nil_iff, List.mem_range]
  push Not
  exact ⟨fun h i hi => h i (hinside i hi) hi, fun h i _ => h i⟩

/-- No calls are listed exactly if no record closes a transaction, whichever methods and table they
are counted for. -/
theorem calls_eq_nil_iff {records : List Record} {accessOps mutateOps : List String}
    {table : Option String} :
    calls records accessOps mutateOps table = [] ↔ ¬∃ i, closesAt records i = true := by
  rw [← sizes_eq_nil_iff, calls_eq_among, sizes_eq_lengths, List.map_eq_nil_iff,
    List.map_eq_nil_iff]

end Transaction

/-- There are no latencies exactly if there is no record. -/
theorem Latency.of_records_eq_nil_iff {α : Type} [Scalar α] {records : List Record} :
    ofRecords α records = [] ↔ records = [] := by
  have hevents := (counts_perm_shares (α := α) records).length_eq
  rw [← List.map_eq_nil_iff (f := fun s : Latency α => (s.event, s.count)),
    ← List.length_eq_zero_iff, hevents, List.length_eq_zero_iff, Share.ofEvents, tally_eq_nil_iff,
    List.map_eq_nil_iff]

namespace Share

/-- A share has as much in total as was counted. -/
theorem total_fold {α : Type} [Scalar α] (counts : List (String × Nat)) (threshold : α) :
    (fold counts threshold).total = Number.total (counts.map (·.2)) :=
  rfl

/-- The share of the events is empty exactly if there is no record. -/
theorem is_empty_events {α : Type} [Scalar α] {records : List Record} {threshold : α} :
    (fold (ofEvents records) threshold).isEmpty = true ↔ records = [] := by
  rw [isEmpty, decide_eq_true_iff, total_fold, total_of_events, List.length_eq_zero_iff]

/-- The share of the methods is empty exactly if no record with a method passes the filter. -/
theorem is_empty_methods {α : Type} [Scalar α] {records : List Record} {filter : CallFilter}
    {threshold : α} :
    (fold (ofMethods records filter) threshold).isEmpty = true ↔
      ¬∃ r ∈ records, filter.keeps r = true ∧ r.method.isSome := by
  rw [isEmpty, decide_eq_true_iff, total_fold, ofMethods, total_tally, List.length_eq_zero_iff,
    List.filterMap_eq_nil_iff]
  simp only [List.mem_filter, and_imp, not_exists, not_and, Option.not_isSome_iff_eq_none]

end Share

/-! ## Outcomes -/

namespace ChartKind

variable {β : Type}

/-- What a chart comes to: it fails without the table that it needs, or else without anything to
show, or else there is a picture for each of its files. -/
inductive Outcome (kind : ChartKind) (records : List Record) (options : PlotOptions) :
    Except Failure (List β) → Prop
  | missing (hlacks : PlotRequest.lacksTable options kind = true) :
      Outcome kind records options (.error (.missingTableId kind.name))
  | empty (hlacks : PlotRequest.lacksTable options kind = false)
      (hshows : ¬kind.Shows records options.tableId) :
      Outcome kind records options (.error (.emptyChart kind.name))
  | drawn (hlacks : PlotRequest.lacksTable options kind = false)
      (hshows : kind.Shows records options.tableId) {drawn : List β}
      (hlength : drawn.length = kind.files.length) :
      Outcome kind records options (.ok drawn)

variable {kind : ChartKind} {records : List Record} {options : PlotOptions}

/-- A chart that is empty when it has nothing to show comes to its outcome. -/
theorem outcome_unless_empty {isEmpty : Bool} {drawn : List β}
    (hlacks : PlotRequest.lacksTable options kind = false)
    (hempty : isEmpty = true ↔ ¬kind.Shows records options.tableId)
    (hlength : drawn.length = kind.files.length) :
    Outcome kind records options (kind.unlessEmpty isEmpty drawn) := by
  unfold unlessEmpty
  split
  · next h => exact .empty hlacks (hempty.mp h)
  · next h => exact .drawn hlacks (not_not.mp (mt hempty.mpr h)) hlength

/-- What is drawn unless there is nothing to show is drawn because there is something. -/
theorem unless_empty_eq_ok {isEmpty : Bool} {drawn result : List β}
    (h : kind.unlessEmpty isEmpty drawn = .ok result) : isEmpty = false ∧ drawn = result := by
  unfold unlessEmpty at h
  split at h
  · cases h
  · next hempty => exact ⟨Bool.not_eq_true _ ▸ hempty, Except.ok.inj h⟩

/-- A chart that has what it needs and something to show is drawn. -/
theorem Outcome.exists_drawn {result : Except Failure (List β)}
    (h : Outcome kind records options result)
    (hlacks : PlotRequest.lacksTable options kind = false)
    (hshows : kind.Shows records options.tableId) :
    ∃ drawn, result = .ok drawn ∧ drawn.length = kind.files.length := by
  cases h with
  | missing hmissing => exact absurd (hmissing.symm.trans hlacks) Bool.noConfusion
  | empty _ hempty => exact absurd hshows hempty
  | drawn _ _ hlength => exact ⟨_, rfl, hlength⟩

/-- What is drawn has what it needs and something to show. -/
theorem Outcome.shows {drawn : List β} (h : Outcome kind records options (.ok drawn)) :
    PlotRequest.lacksTable options kind = false ∧ kind.Shows records options.tableId := by
  cases h with
  | drawn hlacks hshows => exact ⟨hlacks, hshows⟩

/-- What is drawn has a picture for each file of the chart. -/
theorem Outcome.length_drawn {drawn : List β} (h : Outcome kind records options (.ok drawn)) :
    drawn.length = kind.files.length := by
  cases h with
  | drawn _ _ hlength => exact hlength

/-- A chart has one path for each of its files. -/
theorem length_paths (kind : ChartKind) (directory : String) :
    (kind.paths directory).length = kind.files.length := by
  rw [paths, List.length_map]

/-- Pictures made from those of an outcome, one from each, have the same outcome. -/
theorem Outcome.map {γ : Type} {result : Except Failure (List β)}
    (h : Outcome kind records options result) (f : β → γ) :
    Outcome kind records options (do return (← result).map f) := by
  cases h with
  | missing hlacks => exact .missing hlacks
  | empty hlacks hshows => exact .empty hlacks hshows
  | drawn hlacks hshows hlength =>
      exact .drawn hlacks hshows (by rw [List.length_map, hlength])

/-- The kinds whose charts have axes. -/
def withAxes : List ChartKind :=
  [activeThreads, seqCalls, opsPerTx, tableOps, tableOpsPerTx, tableIdOpsPerTx, opLatency, reads]

/-- Charts with axes come to their outcome in every arithmetic. -/
theorem charts_outcome (α : Type) [Scalar α] (hkind : kind ∈ withAxes) (records : List Record)
    (options : PlotOptions) : Outcome kind records options (kind.charts α records options) := by
  have hcalls : ∀ (kind : ChartKind) (table : Option String),
      PlotRequest.lacksTable options kind = false →
      (kind.Shows records options.tableId ↔ ∃ i, Transaction.closesAt records i = true) →
      kind.files.length = 1 →
      Outcome kind records options (kind.callCharts α records options table) := by
    intro kind table hlacks hshows hfiles
    refine outcome_unless_empty hlacks ?_ hfiles.symm
    rw [hshows, List.isEmpty_iff, Transaction.calls_eq_nil_iff]
  cases kind with
  | activeThreads =>
      refine outcome_unless_empty rfl ?_ rfl
      rw [List.isEmpty_iff, Series.of_threads_eq_nil_iff]
      exact not_not.symm
  | seqCalls =>
      refine outcome_unless_empty rfl ?_ rfl
      rw [List.isEmpty_iff, Series.of_event_eq_nil_iff]
      rfl
  | opsPerTx =>
      refine outcome_unless_empty rfl ?_ rfl
      rw [List.isEmpty_iff, Histogram.of_samples_eq_nil_iff, Transaction.sizes_eq_nil_iff]
      rfl
  | tableOps =>
      refine outcome_unless_empty rfl ?_ rfl
      rw [List.isEmpty_iff, TableUse.of_records_eq_nil_iff]
      rfl
  | tableOpsPerTx => exact hcalls _ none rfl Iff.rfl rfl
  | tableIdOpsPerTx =>
      cases htable : options.tableId with
      | none =>
          have hlacks : PlotRequest.lacksTable options .tableIdOpsPerTx = true := by
            simp [PlotRequest.lacksTable, needsTable, htable]
          simp only [charts, chosenTable, htable]
          exact .missing hlacks
      | some table =>
          have hlacks : PlotRequest.lacksTable options .tableIdOpsPerTx = false := by
            simp [PlotRequest.lacksTable, htable]
          simp only [charts, chosenTable, htable]
          exact hcalls _ (some table) hlacks Iff.rfl rfl
  | opLatency =>
      refine outcome_unless_empty rfl ?_ rfl
      rw [List.isEmpty_iff, Latency.of_records_eq_nil_iff]
      exact not_not.symm
  | reads => exact outcome_unless_empty rfl ReadSeries.is_empty_iff rfl
  | allOps | allMethods | allMethodsTx | allMethodsById | txOpTime =>
      simp [withAxes] at hkind

/-- The pictures of a kind with axes are its charts in binary64. -/
theorem pictures_with_axes (hkind : kind ∈ withAxes) (records : List Record)
    (options : PlotOptions) :
    kind.pictures records options =
      (do return (← kind.charts Float records options).map .chart) := by
  cases kind with
  | allOps | allMethods | allMethodsTx | allMethodsById | txOpTime => simp [withAxes] at hkind
  | _ => rfl

/-- Pictures with axes come to their outcome. -/
theorem pictures_outcome_with_axes (hkind : kind ∈ withAxes) (records : List Record)
    (options : PlotOptions) : Outcome kind records options (kind.pictures records options) := by
  rw [pictures_with_axes hkind]
  exact (charts_outcome Float hkind records options).map Picture.chart

/-- Options for small charts, with a table. -/
def smallOptions : PlotOptions :=
  ⟨"charts", ⟨640, 480⟩, some "a", ["get"], ["put"], 0.02⟩

end ChartKind

end CallProfile

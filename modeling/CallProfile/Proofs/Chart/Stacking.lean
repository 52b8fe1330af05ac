import CallProfile.Proofs.Chart.Containment
import CallProfile.Proofs.TableUse

/-!
# Stacked bars

The chart of tables is drawn event by event, and every row remembers where its last bar ended. That
is how `passes` draws it, and `passes_eq` says that the bars of a series then begin at the sum of
what the earlier events have in the row, as `stackedTo` gives it.

In exact arithmetic a row is read off all series in turn (`Stacks`): each of them has one bar in the
row, which begins where the bar before it ended, or none if its event does not name the table. The
main result is `table_use_stacked`.
-/

namespace CallProfile

open Number (Scalar)

namespace Chart

/-! ## Event by event -/

section Passes

variable {α : Type} [Scalar α]

/-- Where a row ends behind the bar of an event, if the event has one there. -/
def endBehind (counts : List (String × Nat)) (event : String) (left : α) : α :=
  ((counts.lookup event).map fun n => left + Scalar.ofNat n).getD left

/-- The bars of an event, each from the end of its row. -/
def barsFrom (use : TableUse) (ends : List α) (color : Color) (event : String) : List (Shape α) :=
  (use.zip ends).zipIdx.filterMap fun (entry, row) =>
    (entry.1.2.lookup event).map fun n =>
      .rectangle ⟨entry.2, Scalar.ofNat row - 0.4⟩
        ⟨entry.2 + Scalar.ofNat n, Scalar.ofNat row + 0.4⟩ (.filled color)

/-- The series of events that are drawn one after another in rows that have such ends. -/
def passes (use : TableUse) : List (String × Nat) → List α → List (PlotSeries α)
  | [], _ => []
  | (event, index) :: rest, ends =>
    ⟨barsFrom use ends (.categorical index) event,
        some ⟨event, barSymbol (.categorical index)⟩⟩ ::
      passes use rest (List.zipWith (fun row left => endBehind row.2 event left) use ends)

/-- A row ends at the sum of its events, with one event more at the end behind its bar. -/
theorem stacked_to_append (counts : List (String × Nat)) (before : List String) (event : String) :
    (stackedTo counts (before ++ [event]) : α) =
      endBehind counts event (stackedTo counts before) := by
  rw [stackedTo, List.filterMap_append, List.foldl_append, ← stackedTo, endBehind]
  cases hn : counts.lookup event with
  | none => simp [hn]
  | some n => simp [hn]

/-- Bars from the ends that some events leave are those that are stacked on these events. -/
theorem bars_from_eq (use : TableUse) (color : Color) (before : List String) (event : String) :
    (barsFrom use (use.map fun entry => stackedTo entry.2 before) color event : List (Shape α)) =
      stackedBars use color before event := by
  rw [barsFrom, List.zip_eq_zipWith, List.zipWith_map_right, List.zipWith_self, List.zipIdx_map,
    List.filterMap_map]
  rfl

/-- The events behind some others are drawn from the ends that those leave. -/
theorem passes_eq_from (use : TableUse) (before after : List String) :
    (passes use (after.zipIdx before.length)
        (use.map fun entry => stackedTo entry.2 before) : List (PlotSeries α)) =
      (after.zipIdx before.length).map fun entry =>
        stackedSeries use (before ++ after) entry.1 entry.2 := by
  induction after generalizing before with
  | nil => rfl
  | cons event after ih =>
      have hnext : (use.map fun entry => (stackedTo entry.2 (before ++ [event]) : α)) =
          List.zipWith (fun row left => endBehind row.2 event left) use
            (use.map fun entry => stackedTo entry.2 before) := by
        simp only [stacked_to_append, List.zipWith_map_right, List.zipWith_self]
      have hrest := ih (before ++ [event])
      rw [List.length_append, List.length_singleton, hnext, List.append_assoc,
        List.singleton_append] at hrest
      rw [List.zipIdx_cons, passes, hrest, List.map_cons, bars_from_eq, stackedSeries,
        List.take_left]

/-- The series of tables are drawn event by event from rows that end at zero. -/
theorem passes_eq (title xTitle yTitle : String) (use : TableUse) :
    passes use (TableUse.events use).zipIdx (List.replicate use.length (0.0 : α)) =
      (ofTableUse title xTitle yTitle use).series := by
  have hstart : List.replicate use.length (0.0 : α) =
      use.map fun entry => stackedTo entry.2 [] := by
    simp only [stackedTo, List.filterMap_nil, List.foldl_nil, List.map_const']
  rw [hstart]
  exact passes_eq_from use [] (TableUse.events use)

end Passes

/-! ## The bars of a row -/

/-- Whether a shape is a rectangle that lies in a row. -/
def liesIn (row : Nat) : Shape Rat → Bool
  | .rectangle corner opposite _ =>
    decide (corner.y = (row : Rat) - 0.4) && decide (opposite.y = (row : Rat) + 0.4)
  | _ => false

/-- A lying bar lies in its row, and in no other. -/
theorem lies_in_lying_bar (row other : Nat) (color : Color) (left right : Rat) :
    liesIn row (lyingBar color other left right) = decide (other = row) := by
  simp [liesIn, lyingBar]

end Chart

/-- What is read off the entry at a position is all that is read off the entries with positions, if
nothing is read off the others. -/
theorem filter_map_zip_idx {β γ : Type} (read : β → Option γ) (l : List β) (start row : Nat) :
    ((l.zipIdx start).filterMap fun entry =>
        if entry.2 = start + row then read entry.1 else none) =
      (l[row]?.bind read).toList := by
  induction l generalizing start row with
  | nil => rfl
  | cons b l ih =>
      rw [List.zipIdx_cons, List.filterMap_cons]
      cases row with
      | zero =>
          have hrest : ((l.zipIdx (start + 1)).filterMap fun entry =>
              if entry.2 = start + 0 then read entry.1 else none) = [] := by
            refine List.filterMap_eq_nil_iff.mpr fun entry hentry => if_neg ?_
            have hle := List.le_snd_of_mem_zipIdx hentry
            omega
          rw [hrest]
          cases hread : read b <;> simp [hread]
      | succ row =>
          have hbehind : start + 1 + row = start + (row + 1) := by omega
          have hhead : start ≠ start + 1 + row := by omega
          rw [← hbehind, ih (start + 1) row, if_neg hhead, List.getElem?_cons_succ]

namespace Chart

/-- An event has one bar in the row of a table that it names, and none in the row of another. -/
theorem filter_stacked_bars {use : TableUse} {row : Nat} {table : String}
    {counts : List (String × Nat)} (h : use[row]? = some (table, counts)) (color : Color)
    (before : List String) (event : String) :
    (stackedBars use color before event : List (Shape Rat)).filter (liesIn row) =
      ((counts.lookup event).map fun n =>
        let left := stackedTo counts before
        lyingBar color row left (left + (n : Rat))).toList := by
  have hrows := filter_map_zip_idx (fun entry : String × List (String × Nat) =>
    (entry.2.lookup event).map fun n =>
      let left := stackedTo entry.2 before
      lyingBar color row left (left + (n : Rat))) use 0 row
  rw [h, Nat.zero_add] at hrows
  rw [stackedBars, List.filter_filterMap]
  refine Eq.trans (List.filterMap_congr ?_) hrows
  rintro ⟨⟨-, counts⟩, other⟩ -
  by_cases hother : other = row
  · subst hother
    cases hn : counts.lookup event <;> simp [hn, lies_in_lying_bar]
  · cases hn : counts.lookup event <;> simp [hn, lies_in_lying_bar, hother]

/-- From `left` to `right`, the bars that series have in the row of a table with such counts: for
each series one bar as wide as the count of its event and in the color of its legend entry, from
where the bar before it ended, or no bar for an event without a count. -/
inductive Stacks (counts : List (String × Nat)) (row : Nat) :
    Rat → List (PlotSeries Rat) → Rat → Prop where
  | nil (left) : Stacks counts row left [] left
  | bar (left : Rat) (event : String) (color : Color) (n : Nat) (series : PlotSeries Rat)
      (rest right) :
      series.entry = some ⟨event, barSymbol color⟩ →
      counts.lookup event = some n →
      series.shapes.filter (liesIn row) =
        [.rectangle ⟨left, (row : Rat) - 0.4⟩ ⟨left + n, (row : Rat) + 0.4⟩ (.filled color)] →
      Stacks counts row (left + n) rest right →
      Stacks counts row left (series :: rest) right
  | skip (left : Rat) (event : String) (color : Color) (series : PlotSeries Rat) (rest right) :
      series.entry = some ⟨event, barSymbol color⟩ →
      counts.lookup event = none →
      series.shapes.filter (liesIn row) = [] →
      Stacks counts row left rest right →
      Stacks counts row left (series :: rest) right

/-- The bars of the events behind some others are stacked on what those leave. -/
theorem stacks_from {use : TableUse} {row : Nat} {table : String} {counts : List (String × Nat)}
    (h : use[row]? = some (table, counts)) (before after : List String) :
    Stacks counts row (stackedTo counts before)
      ((after.zipIdx before.length).map fun entry =>
        stackedSeries use (before ++ after) entry.1 entry.2)
      (stackedTo counts (before ++ after)) := by
  induction after generalizing before with
  | nil =>
      rw [List.append_nil]
      exact .nil _
  | cons event after ih =>
      have hrest := ih (before ++ [event])
      have hbars := filter_stacked_bars h (.categorical before.length) before event
      rw [List.append_assoc, List.singleton_append, List.length_append, List.length_singleton,
        stacked_to_append, endBehind] at hrest
      rw [List.zipIdx_cons, List.map_cons]
      cases hn : counts.lookup event with
      | none =>
          rw [hn] at hrest hbars
          refine .skip _ event (.categorical before.length) _ _ _ rfl hn ?_ hrest
          rw [stackedSeries, List.take_left]
          exact hbars
      | some n =>
          rw [hn] at hrest hbars
          refine .bar _ event (.categorical before.length) n _ _ _ rfl hn ?_ hrest
          rw [stackedSeries, List.take_left]
          exact hbars

end Chart

/-- Ascending keys that contain all that are counted look up all counts in order. -/
theorem lookups_tally {keys listed : List String} (hlisted : listed.Pairwise Before)
    (h : ∀ key ∈ keys, key ∈ listed) :
    (listed.filterMap fun key => (tally keys).lookup key) = (tally keys).map (·.2) := by
  have hkeys : listed.filter (· ∈ ascending keys) = ascending keys := by
    refine eq_of_before (hlisted.filter _) (pairwise_ascending keys) fun key => ?_
    rw [List.mem_filter, decide_eq_true_eq, mem_ascending, and_iff_right_iff_imp]
    exact h key
  calc
    (listed.filterMap fun key => (tally keys).lookup key) =
        listed.filterMap fun key =>
          if key ∈ ascending keys then some (keys.count key) else none := by
      simp only [tally_eq, lookup_map_key]
    _ = (listed.filter (· ∈ ascending keys)).map fun key => keys.count key := by
      rw [← List.filterMap_eq_map', List.filterMap_filter]
      simp only [decide_eq_true_eq]
    _ = (tally keys).map (·.2) := by
      rw [hkeys, tally_eq, List.map_map]
      rfl

namespace TableUse

variable {records : List Record} {table event : String}

/-- The events that name tables ascend strictly. -/
theorem pairwise_events (use : TableUse) : (events use).Pairwise Before :=
  pairwise_ascending _

/-- An event names a table exactly if a record of the event does. -/
theorem mem_events_naming :
    event ∈ eventsNaming table records ↔ ∃ r ∈ records, r.event = event ∧ table ∈ r.tableIds := by
  simp only [eventsNaming, List.mem_flatMap, List.mem_replicate, ne_eq, List.count_eq_zero,
    not_not]
  grind

/-- The tables are those that a record names. -/
theorem mem_tables : table ∈ tables records ↔ ∃ r ∈ records, table ∈ r.tableIds := by
  simp only [tables, mem_ascending, namings, List.map_flatMap, List.map_map, List.mem_flatMap]
  simp

/-- The entry of a table. -/
theorem get_of_records {row : Nat} {counts : List (String × Nat)}
    (h : (ofRecords records)[row]? = some (table, counts)) :
    table ∈ tables records ∧ counts = tally (eventsNaming table records) := by
  rw [of_records_eq] at h
  obtain ⟨own, hown, hentry⟩ := List.mem_map.mp (List.mem_of_getElem? h)
  obtain ⟨rfl, rfl⟩ := Prod.mk.inj hentry
  exact ⟨hown, rfl⟩

/-- The events are those of the records that name a table. -/
theorem mem_events :
    event ∈ events (ofRecords records) ↔ ∃ r ∈ records, r.event = event ∧ r.tableIds ≠ [] := by
  have hkeys : event ∈ events (ofRecords records) ↔
      ∃ table ∈ tables records, event ∈ eventsNaming table records := by
    rw [events, mem_ascending, of_records_eq, List.flatMap_map, List.mem_flatMap]
    exact exists_congr fun table => and_congr_right fun _ => mem_keys_tally
  simp only [hkeys, mem_tables, mem_events_naming]
  constructor
  · rintro ⟨table, -, r, hr, hevent, htable⟩
    exact ⟨r, hr, hevent, List.ne_nil_of_mem htable⟩
  · rintro ⟨r, hr, hevent, hids⟩
    obtain ⟨table, htable⟩ := List.exists_mem_of_ne_nil _ hids
    exact ⟨table, ⟨r, hr, htable⟩, r, hr, hevent, htable⟩

/-- A table has a count for an event exactly if a record of the event names it. -/
theorem lookup_of_records {row : Nat} {counts : List (String × Nat)}
    (h : (ofRecords records)[row]? = some (table, counts)) :
    (counts.lookup event).isSome = true ↔
      ∃ r ∈ records, r.event = event ∧ table ∈ r.tableIds := by
  obtain ⟨-, rfl⟩ := get_of_records h
  rw [tally_eq, lookup_map_key, ← mem_events_naming]
  by_cases hevent : event ∈ eventsNaming table records <;> simp [mem_ascending, hevent]

end TableUse

namespace Chart

/-- A chart of the tables that records name. -/
structure IsStacked (chart : Chart Rat) (records : List Record) (use : TableUse) : Prop where
  tables_ascending : (use.map (·.1)).Pairwise Before
  tables_named : ∀ table, table ∈ use.map (·.1) ↔ ∃ r ∈ records, table ∈ r.tableIds
  events_ascending : (TableUse.events use).Pairwise Before
  events_named : ∀ event, event ∈ TableUse.events use ↔
    ∃ r ∈ records, r.event = event ∧ r.tableIds ≠ []
  /-- The series are what drawing event by event leaves, with the ends of the rows kept. -/
  drawn : chart.series =
    passes use (TableUse.events use).zipIdx (List.replicate use.length 0.0)
  /-- The events have one entry each in the legend, in their order. -/
  legend : chart.series.map (·.entry) = (TableUse.events use).zipIdx.map fun entry =>
    some ⟨entry.1, barSymbol (.categorical entry.2)⟩
  /-- Nothing is drawn outside of the rows of the tables. -/
  within : ∀ series ∈ chart.series, ∀ shape ∈ series.shapes,
    ∃ row < use.length, liesIn row shape = true
  /-- A table has a count for an event, and so a bar, if a record of the event names it. -/
  named : ∀ (row : Nat) table counts, use[row]? = some (table, counts) → ∀ event,
    (counts.lookup event).isSome = true ↔ ∃ r ∈ records, r.event = event ∧ table ∈ r.tableIds
  /-- The bars of a row reach from zero to the sum of its counts, without gaps and overlaps. -/
  rows : ∀ (row : Nat) table counts, use[row]? = some (table, counts) →
    Stacks counts row 0 chart.series (Number.total (counts.map (·.2)))

/-- The bars of tables are stacked. -/
theorem of_table_use_stacked (title xTitle yTitle : String) (records : List Record) :
    (ofTableUse title xTitle yTitle (TableUse.ofRecords records)).IsStacked records
      (TableUse.ofRecords records) := by
  constructor
  case tables_ascending =>
    rw [TableUse.keys_of_records]
    exact pairwise_ascending _
  case tables_named =>
    intro table
    rw [TableUse.keys_of_records, TableUse.mem_tables]
  case events_ascending => exact TableUse.pairwise_events _
  case events_named => exact fun event => TableUse.mem_events
  case drawn => exact (passes_eq _ _ _ _).symm
  case legend => exact List.map_map
  case within =>
    intro series hseries shape hshape
    obtain ⟨⟨event, index⟩, -, rfl⟩ := List.mem_map.mp hseries
    obtain ⟨⟨⟨table, counts⟩, row⟩, hrow, hbar⟩ := List.mem_filterMap.mp hshape
    obtain ⟨n, -, rfl⟩ := Option.map_eq_some_iff.mp hbar
    have hget := List.mk_mem_zipIdx_iff_getElem?.mp hrow
    refine ⟨row, (List.getElem?_eq_some_iff.mp hget).1, ?_⟩
    rw [lies_in_lying_bar, decide_eq_true rfl]
  case named => exact fun row table counts h event => TableUse.lookup_of_records h
  case rows =>
    intro row table counts h
    have hstacks := stacks_from h [] (TableUse.events (TableUse.ofRecords records))
    obtain ⟨-, rfl⟩ := TableUse.get_of_records h
    have hlisted : ∀ event ∈ TableUse.eventsNaming table records,
        event ∈ TableUse.events (TableUse.ofRecords records) := by
      intro event hevent
      obtain ⟨r, hr, hown, htable⟩ := TableUse.mem_events_naming.mp hevent
      exact TableUse.mem_events.mpr ⟨r, hr, hown, List.ne_nil_of_mem htable⟩
    have hlookups := lookups_tally (TableUse.pairwise_events _) hlisted
    rw [List.nil_append, stacked_to_rat, stacked_to_rat, hlookups] at hstacks
    exact hstacks

end Chart

namespace ChartKind

/-- Of records that name tables, the chart of tables is drawn, and its bars are stacked. -/
theorem table_use_stacked {records : List Record} (h : ∃ r ∈ records, r.tableIds ≠ [])
    (options : PlotOptions) :
    ∃ chart, tableOps.charts Rat records options = .ok [chart] ∧
      chart.IsStacked records (TableUse.ofRecords records) := by
  have hshows : (TableUse.ofRecords records).isEmpty = false := by
    rw [List.isEmpty_eq_false_iff, Ne, TableUse.of_records_eq_nil_iff, not_not]
    exact h
  refine ⟨_, ?_, Chart.of_table_use_stacked "Operations per Table" "Num Ops" "Table" records⟩
  simp only [charts, unlessEmpty, hshows, Bool.false_eq_true, if_false]

/-- The events of the first table of a transaction with their counts. -/
def mixedCounts : List (String × Nat) :=
  [("TXBegin", 1), ("TXEnd", 1), ("access", 1), ("mutate", 1)]

/-- The first table of the transaction has these counts. -/
theorem mixed_counts_first :
    (TableUse.ofRecords Transaction.mixedCalls)[0]? = some ("a", mixedCounts) := by
  have htables : TableUse.tables Transaction.mixedCalls = ["a", "b"] := by
    refine eq_of_before (pairwise_ascending _) (by unfold Before; decide) fun table => ?_
    rw [TableUse.mem_tables]
    simp [Transaction.mixedCalls, Transaction.tableCall]
    tauto
  have hnaming : TableUse.eventsNaming "a" Transaction.mixedCalls =
      ["TXBegin", "access", "mutate", "TXEnd"] := by decide
  have hevents : ascending ["TXBegin", "access", "mutate", "TXEnd"] = mixedCounts.map (·.1) := by
    refine eq_of_before (pairwise_ascending _) (by unfold Before; decide) fun event => ?_
    rw [mem_ascending]
    simp [mixedCounts]
    tauto
  rw [TableUse.of_records_eq, htables, List.map_cons, List.getElem?_cons_zero, hnaming, tally_eq,
    hevents]
  decide

/-- The first table of a transaction has a bar for each of its four events, and they reach to the
sum of their counts. -/
theorem mixed_calls_stacked :
    (∃ r ∈ Transaction.mixedCalls, r.tableIds ≠ []) ∧
      ∃ chart, tableOps.charts Rat Transaction.mixedCalls smallOptions = .ok [chart] ∧
        chart.IsStacked Transaction.mixedCalls (TableUse.ofRecords Transaction.mixedCalls) ∧
        Chart.Stacks mixedCounts 0 0 chart.series 4 := by
  have hnames : ∃ r ∈ Transaction.mixedCalls, r.tableIds ≠ [] :=
    ⟨_, List.mem_cons_self, by decide⟩
  obtain ⟨chart, hdrawn, hstacked⟩ := table_use_stacked hnames smallOptions
  exact ⟨hnames, chart, hdrawn, hstacked, hstacked.rows 0 _ _ mixed_counts_first⟩

end ChartKind

end CallProfile

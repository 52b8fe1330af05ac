import CallProfile.Share
import CallProfile.TableUse
import CallProfile.Proofs.Tally

/-!
# Counts of tables

The use of a table counts how often records name it, so a record that names a table more than once
counts as often there, while a filter on the table keeps it once. The two differ by the repeats of
the records: `counts_eq_named_iff` says so for every event and for the table as a whole, and that
they agree exactly if there is no repeat.
-/

namespace CallProfile

namespace TableUse

/-! ## What is counted for a table -/

/-- The counts of the events of a table, none for a table that no record names. -/
def countsOf (use : TableUse) (table : String) : List (String × Nat) :=
  (use.lookup table).getD []

/-- Every naming of a table, with the event of the record that names it. -/
def namings (records : List Record) : List (String × String) :=
  records.flatMap fun r => r.tableIds.map (·, r.event)

/-- The events of the records that name a table, once for each time that it is named. -/
def eventsNaming (table : String) (records : List Record) : List String :=
  records.flatMap fun r => List.replicate (r.tableIds.count table) r.event

/-- How often the records name a table. -/
def mentions (table : String) (records : List Record) : Nat :=
  Number.total (records.map fun r => r.tableIds.count table)

/-- How often records name a table that they have named already. -/
def repeats (table : String) (records : List Record) : Nat :=
  Number.total (records.map fun r => r.tableIds.count table - 1)

/-- A record names a table with its event, once for each time that it names it. -/
theorem values_of_namings (table : String) (records : List Record) :
    valuesOf (namings records) table = eventsNaming table records := by
  rw [namings, values_of_flat_map]
  exact congrArg records.flatMap (funext fun r => values_of_map_pair r.event r.tableIds table)

/-- The tables that records name, in ascending order. -/
def tables (records : List Record) : List String :=
  ascending ((namings records).map (·.1))

/-- The use of tables lists each of them once, with the counts of the events that name it. -/
theorem of_records_eq (records : List Record) :
    ofRecords records =
      (tables records).map fun table => (table, tally (eventsNaming table records)) := by
  simp only [← values_of_namings]
  rw [ofRecords, grouped_eq, List.map_map]
  rfl

/-- The use of tables lists the tables that records name. -/
theorem keys_of_records (records : List Record) :
    (ofRecords records).map (·.1) = tables records := by
  rw [of_records_eq, List.map_map]
  exact List.map_id _

/-- No table is listed twice. -/
theorem nodup_tables (records : List Record) : (tables records).Nodup :=
  (pairwise_ascending _).imp And.right

/-- The counts of a table are those of the events that name it. -/
theorem counts_of_records (records : List Record) (table : String) :
    countsOf (ofRecords records) table = tally (eventsNaming table records) := by
  rw [countsOf, of_records_eq, lookup_map_key]
  by_cases htable : table ∈ tables records
  · rw [if_pos htable, Option.getD_some]
  · -- a table that is not listed has no events to count
    have hnone : eventsNaming table records = [] := by
      rw [← values_of_namings]
      exact values_of_eq_nil fun hmem => htable (mem_ascending.mpr hmem)
    rw [if_neg htable, hnone, Option.getD_none, tally_eq_nil_iff.mpr rfl]

/-- The events of a record come before those of the rest. -/
theorem events_naming_cons (table : String) (r : Record) (rest : List Record) :
    eventsNaming table (r :: rest) =
      List.replicate (r.tableIds.count table) r.event ++ eventsNaming table rest :=
  List.flatMap_cons

/-- The mentions of a record add to those of the rest. -/
theorem mentions_cons (table : String) (r : Record) (rest : List Record) :
    mentions table (r :: rest) = r.tableIds.count table + mentions table rest :=
  rfl

/-- An event is counted for a table as often as records of the event name the table. -/
theorem count_events_naming (table event : String) (records : List Record) :
    (eventsNaming table records).count event =
      mentions table (records.filter (·.isEvent event)) := by
  induction records with
  | nil => rfl
  | cons r rest ih =>
      rw [events_naming_cons, List.count_append, List.count_replicate, ih]
      by_cases hevent : r.event = event
      · rw [List.filter_cons_of_pos (by simp [Record.isEvent, hevent]), mentions_cons]
        simp [hevent]
      · rw [List.filter_cons_of_neg (by simp [Record.isEvent, hevent])]
        simp [hevent]

/-- All events of a table are as many as its mentions. -/
theorem length_events_naming (table : String) (records : List Record) :
    (eventsNaming table records).length = mentions table records := by
  induction records with
  | nil => rfl
  | cons r rest ih =>
      rw [events_naming_cons, List.length_append, List.length_replicate, ih, mentions_cons]

/-! ## Mentions against records -/

/-- A table is mentioned once by each record that names it, and again by its repeats. -/
theorem mentions_eq (table : String) (records : List Record) :
    mentions table records = records.countP (·.namesTable table) + repeats table records := by
  induction records with
  | nil => rfl
  | cons r rest ih =>
      have hown : r.tableIds.count table =
          (if r.namesTable table then 1 else 0) + (r.tableIds.count table - 1) := by
        by_cases hnames : r.namesTable table = true
        · have hpos : 0 < r.tableIds.count table :=
            List.count_pos_iff.mpr (by simpa [Record.namesTable] using hnames)
          rw [if_pos hnames]
          omega
        · have hzero : r.tableIds.count table = 0 :=
            List.count_eq_zero.mpr (by simpa [Record.namesTable] using hnames)
          simp [hnames, hzero]
      simp only [mentions, repeats, List.map_cons, Number.total_cons, List.countP_cons] at ih ⊢
      omega

/-- There is no repeat exactly if no record names the table more than once. -/
theorem repeats_eq_zero_iff {table : String} {records : List Record} :
    repeats table records = 0 ↔ ∀ r ∈ records, r.tableIds.count table ≤ 1 := by
  induction records with
  | nil => simp [repeats, Number.total]
  | cons r rest ih =>
      simp only [repeats, List.map_cons, Number.total_cons, List.mem_cons, forall_eq_or_imp]
        at ih ⊢
      rw [← ih]
      omega

/-- The counts of a table are the records that name it, as a filter on the table keeps them, and one
more for each time that a record names it again: for every event, and for all events together. So
counts and records agree exactly if no record names the table more than once. -/
theorem counts_eq_named_iff (records : List Record) (table : String) :
    (∀ event, countOf (countsOf (ofRecords records) table) event =
      records.countP (fun r => r.namesTable table && r.isEvent event) +
        repeats table (records.filter (·.isEvent event))) ∧
      Number.total ((countsOf (ofRecords records) table).map (·.2)) =
        (records.filter (CallFilter.onTable table).keeps).length + repeats table records ∧
      (∀ event, countOf (countsOf (ofRecords records) table) event =
          records.countP (fun r => r.namesTable table && r.isEvent event) ↔
        ∀ r ∈ records, r.isEvent event = true → r.tableIds.count table ≤ 1) ∧
      (Number.total ((countsOf (ofRecords records) table).map (·.2)) =
          (records.filter (CallFilter.onTable table).keeps).length ↔
        ∀ r ∈ records, r.tableIds.count table ≤ 1) := by
  have hevent : ∀ event, countOf (countsOf (ofRecords records) table) event =
      records.countP (fun r => r.namesTable table && r.isEvent event) +
        repeats table (records.filter (·.isEvent event)) := by
    intro event
    rw [counts_of_records, count_of_tally, count_events_naming, mentions_eq, List.countP_filter]
  have htotal : Number.total ((countsOf (ofRecords records) table).map (·.2)) =
      (records.filter (CallFilter.onTable table).keeps).length + repeats table records := by
    rw [counts_of_records, total_tally, length_events_naming, mentions_eq,
      ← List.countP_eq_length_filter]
    rfl
  refine ⟨hevent, htotal, fun event => ?_, ?_⟩
  · rw [hevent, Nat.add_eq_left, repeats_eq_zero_iff]
    simp only [List.mem_filter, and_imp]
  · rw [htotal, Nat.add_eq_left, repeats_eq_zero_iff]

/-- A call that names its table twice. -/
def namedTwice : Record :=
  ⟨1, 1, "mutate(tx)", none, some "put", ["t1", "t1"], true⟩

/-- The call is counted twice for the table, though it is one record there. -/
theorem named_twice_counted_twice :
    countOf (countsOf (ofRecords [namedTwice]) "t1") "mutate(tx)" = 2 ∧
      [namedTwice].countP (fun r => r.namesTable "t1" && r.isEvent "mutate(tx)") = 1 ∧
      Number.total ((countsOf (ofRecords [namedTwice]) "t1").map (·.2)) = 2 ∧
      ([namedTwice].filter (CallFilter.onTable "t1").keeps).length = 1 := by
  simp only [counts_of_records, count_of_tally, total_tally]
  decide

end TableUse

end CallProfile

import CallProfile.Proofs.Chart.Containment
import CallProfile.Proofs.Chart.TableNames
import CallProfile.Proofs.Number.Distance
import CallProfile.Proofs.TableUse

/-!
# Labels beside rows

Bars and boxes are drawn in rows, and the labels of the rows are looked up by number: the nearest
whole number of a value is the row, if it is no further than a millionth. Both must agree on the
row of an entry, though named values go from top to bottom, tables from bottom to top, and latencies
begin above a row that stays empty. They do (`rows_labelled`), in exact arithmetic and in binary64,
which tells 2 ^ 53 rows apart. No two tables of a trace have the same label
(`LabelsTables.label_eq_iff`).
-/

namespace CallProfile

open Number (Scalar)
open Number.Binary64 (toRat)

/-- How the numbers of an arithmetic are read. -/
structure Reading (α : Type) where
  /-- Whether a number has a value. -/
  reads : α → Rat → Prop
  /-- Whether a row is told apart from all others. -/
  tells : Nat → Prop

/-- Every exact number is its value. -/
def Reading.exact : Reading Rat :=
  ⟨Eq, fun _ => True⟩

/-- Finite numbers have a value, and rows of 53 bits are told apart. -/
def Reading.binary64 : Reading Float :=
  ⟨fun x a => x.isFinite = true ∧ toRat x = a, (· < 2 ^ 53)⟩

-- the rows behind these are no longer told apart
example : Float.ofNat (2 ^ 53 + 1) = Float.ofNat (2 ^ 53) := by
  decide +kernel

section Labels

variable {α : Type} [Scalar α]

/-- The names of rows are found at the rows and nowhere else. -/
structure Reading.FindsNames (reading : Reading α) : Prop where
  at_row : ∀ names (row : Nat), reading.tells row →
    TickLabels.nameAt names (Scalar.ofNat row : α) = names.getD row ""
  between : ∀ names x a, reading.reads x a → (∀ k : Int, 1 / 10 ^ 6 < |a - k|) →
    TickLabels.nameAt names x = ""
  at_whole : ∀ names x (k : Int), reading.reads x k →
    (∀ row : Nat, k = row → names.getD row "" = "") → TickLabels.nameAt names x = ""

/-- Rows from `first` on have labels, and no other number does that is whole or more than a
millionth away from the whole numbers. -/
structure LabelsRows (reading : Reading α) (label : α → String) (first : Nat)
    (names : List String) : Prop where
  named : ∀ (i : Nat) name, names[i]? = some name → reading.tells (first + i) →
    label (Scalar.ofNat (first + i)) = name
  between : ∀ x a, reading.reads x a → (∀ k : Int, 1 / 10 ^ 6 < |a - k|) → label x = ""
  outside : ∀ x (k : Int), reading.reads x k → k < first ∨ first + names.length ≤ k →
    label x = ""

/-- Names label the rows behind those that are left empty. -/
theorem Reading.FindsNames.labels_rows {reading : Reading α} (h : reading.FindsNames)
    (unused : List String) (hunused : ∀ name ∈ unused, name = "") (names : List String) :
    LabelsRows reading (TickLabels.nameAt (unused ++ names)) unused.length names where
  named := by
    intro i name hname htells
    rw [h.at_row _ _ htells, List.getD_eq_getElem?_getD, List.getElem?_append_right (by omega),
      Nat.add_sub_cancel_left, hname, Option.getD_some]
  between := fun x a hx hapart => h.between _ x a hx hapart
  outside := by
    intro x k hx hout
    refine h.at_whole _ x k hx ?_
    rintro row rfl
    rw [List.getD_eq_getElem?_getD]
    rcases Nat.lt_or_ge row unused.length with hless | hge
    · rw [List.getElem?_append_left hless, List.getElem?_eq_getElem hless, Option.getD_some]
      exact hunused _ (List.getElem_mem hless)
    · rw [List.getElem?_eq_none (by rw [List.length_append]; omega), Option.getD_none]

/-- Names label the rows from zero on. -/
theorem Reading.FindsNames.labels_rows_from_zero {reading : Reading α} (h : reading.FindsNames)
    (names : List String) : LabelsRows reading (TickLabels.nameAt names) 0 names :=
  h.labels_rows [] (fun _ hname => absurd hname List.not_mem_nil) names

end Labels

/-! ## Finding names -/

namespace TickLabels

variable {names : List String}

/-- Whatever row is nearest, there is no name if it is too far, or has none. -/
theorem name_at_eq_empty {α : Type} [Scalar α] {x : α}
    (h : ∀ row : Nat, Scalar.nearest? x = some (row : Int) →
      Scalar.less 1e-6 (Scalar.absolute (x - Scalar.ofNat row)) = true ∨ names.getD row "" = "") :
    nameAt names x = "" := by
  unfold nameAt
  split
  · next row hnearest =>
      rcases h row hnearest with hfar | hnone
      · rw [if_pos hfar]
      · rw [hnone, ite_self]
  · rfl

/-- The name of the nearest row is found if it is near enough. -/
theorem name_at_eq {α : Type} [Scalar α] {x : α} {row : Nat}
    (hnearest : Scalar.nearest? x = some (row : Int))
    (hnear : Scalar.less 1e-6 (Scalar.absolute (x - Scalar.ofNat row)) = false) :
    nameAt names x = names.getD row "" := by
  unfold nameAt
  rw [hnearest]
  show (if _ then _ else _) = _
  rw [hnear]
  rfl

end TickLabels

namespace Reading

/-- A whole number is nearest to itself. -/
theorem nearest_rat (k : Int) : Number.nearestRat k = k := by
  have hhalf (l : Int) : ((l : Rat) + 1 / 2).floor = l := by
    show ⌊(l : Rat) + 1 / 2⌋ = l
    rw [Int.floor_eq_iff]
    constructor <;> linarith
  unfold Number.nearestRat
  split
  · have hnegative := hhalf (-k)
    rw [Int.cast_neg] at hnegative
    rw [hnegative, neg_neg]
  · exact hhalf k

/-- Exact arithmetic finds the names of all rows. -/
theorem exact_finds_names : exact.FindsNames where
  at_row := by
    intro names row _
    refine TickLabels.name_at_eq (congrArg some (nearest_rat row)) ?_
    rw [Scalar.absolute_rat, sub_self, abs_zero]
    norm_num
  between := by
    rintro names x a rfl hapart
    refine TickLabels.name_at_eq_empty fun row _ => Or.inl ?_
    have hfar := hapart row
    rw [Scalar.less_rat, Scalar.absolute_rat, Scalar.ofNat_rat, decide_eq_true_eq]
    norm_num at hfar ⊢
    exact hfar
  at_whole := by
    rintro names x k rfl hnone
    refine TickLabels.name_at_eq_empty fun row hnearest => Or.inr ?_
    exact hnone row ((nearest_rat k).symm.trans (Option.some.inj hnearest))

open Number.Binary64

/-- Binary64 arithmetic finds the names of the rows that it tells apart. -/
theorem binary64_finds_names : binary64.FindsNames where
  at_row := by
    intro names row htells
    obtain ⟨c, hc, hnonneg, -⟩ := holds_millionth
    have hrow := holds_of_nat htells
    have hvalue : toRat (Float.ofNat row) = ((row : Int) : Rat) := to_rat_of_holds hrow
    have hnearest := nearest_of_whole hrow.finite_nonneg.1 hvalue
    have hdistance := distance_nearest hrow.finite_nonneg.1 hnearest htells
    rw [hvalue, Int.cast_natCast, sub_self, abs_zero] at hdistance
    exact TickLabels.name_at_eq hnearest
      (decide_eq_false (mt (hc.lt_iff hdistance).mp (not_lt.mpr hnonneg)))
  between := by
    rintro names x a ⟨hfinite, rfl⟩ hapart
    obtain ⟨c, hc, -, hmost⟩ := holds_millionth
    refine TickLabels.name_at_eq_empty fun row hnearest => Or.inl ?_
    have hsmall := nearest_lt hfinite hnearest fun k hk => by
      have hk' := hapart k
      rw [hk, sub_self, abs_zero] at hk'
      norm_num at hk'
    have hdistance := distance_nearest hfinite hnearest hsmall
    refine decide_eq_true ((hc.lt_iff hdistance).mpr ?_)
    exact hmost.trans_lt (hapart row)
  at_whole := by
    rintro names x k ⟨hfinite, hk⟩ hnone
    refine TickLabels.name_at_eq_empty fun row hnearest => Or.inr ?_
    refine hnone row ?_
    exact Option.some.inj ((nearest_of_whole hfinite hk).symm.trans hnearest)

end Reading

/-! ## Charts with rows -/

namespace Chart

variable {α : Type} [Scalar α]

/-- The shape at an index of a series. -/
def shapeAt (chart : Chart α) (series index : Nat) : Option (Shape α) :=
  chart.series[series]?.bind (·.shapes[index]?)

/-- The label of one of some tables. -/
def tableName (ids : List String) (id : String) : String :=
  if (ids.map shortId).Nodup then shortId id else id

/-- The labels of tables are those of each table. -/
theorem table_names_eq (ids : List String) : tableNames ids = ids.map (tableName ids) := by
  rw [table_names_eq_if_nodup]
  unfold tableName
  split
  · rfl
  · exact (List.map_id' ids).symm

/-- Named values have a bar and a text each, in the row that is labelled with their name. The first
one is in the top row. -/
structure LabelsValues (reading : Reading α) (chart : Chart α) (label : α → String)
    (values : List (String × α)) : Prop where
  formatter : chart.y.labels.label? = some label
  rows : LabelsRows reading label 0 (values.reverse.map (·.1))
  entries : ∀ (i : Nat) name v, values[i]? = some (name, v) → ∃ row, row + i + 1 = values.length ∧
    (reading.tells row → label (Scalar.ofNat row) = name) ∧
    chart.shapeAt 0 i = some (.rectangle ⟨0.0, Scalar.ofNat row - 0.4⟩
      ⟨v, Scalar.ofNat row + 0.4⟩ (.filled (.categorical i))) ∧
    chart.shapeAt 1 i = some (.text (Scalar.fixed 6 v) ⟨v, Scalar.ofNat row⟩ valueFont)

/-- Latencies have a box and a mean each, in the row that is labelled with their event. The first
one is in row 1. -/
structure LabelsLatencies (reading : Reading α) (chart : Chart α) (label : α → String)
    (stats : List (Latency α)) : Prop where
  formatter : chart.y.labels.label? = some label
  rows : LabelsRows reading label 1 (stats.map (·.event))
  entries : ∀ (i : Nat) s, stats[i]? = some s →
    (reading.tells (i + 1) → label (Scalar.ofNat (i + 1)) = s.event) ∧
    chart.shapeAt 0 i = some (.rectangle ⟨s.q1, Scalar.ofNat (i + 1) - boxHalf⟩
      ⟨s.q3, Scalar.ofNat (i + 1) + boxHalf⟩ (.outlined .black 1)) ∧
    chart.shapeAt 2 i = some (.circle ⟨s.mean, Scalar.ofNat (i + 1)⟩ 4 (.filled .pureBlue))

/-- Tables have their bars in the row that is labelled with their name. -/
structure LabelsTables (reading : Reading α) (chart : Chart α) (label : α → String)
    (use : TableUse) : Prop where
  formatter : chart.y.labels.label? = some label
  rows : LabelsRows reading label 0 (tableNames (use.map (·.1)))
  entries : ∀ (row : Nat) table counts, use[row]? = some (table, counts) → reading.tells row →
    label (Scalar.ofNat row) = tableName (use.map (·.1)) table
  /-- The bars of an event are those of the tables that have a count for it, in their rows. -/
  bars : ∀ (index : Nat) event series, (TableUse.events use)[index]? = some event →
    chart.series[index]? = some series → ∀ shape, shape ∈ series.shapes ↔
      ∃ (row : Nat) (table : String) (counts : List (String × Nat)) (n : Nat) (left : α),
        use[row]? = some (table, counts) ∧ counts.lookup event = some n ∧
        left = stackedTo counts ((TableUse.events use).take index) ∧
        shape = .rectangle ⟨left, Scalar.ofNat row - 0.4⟩
          ⟨left + Scalar.ofNat n, Scalar.ofNat row + 0.4⟩ (.filled (.categorical index))

/-- The labels of a chart of named values. -/
theorem of_values_labelled {reading : Reading α} (h : reading.FindsNames) (title xTitle : String)
    (values : List (String × α)) :
    LabelsValues reading (ofValues title xTitle values)
      (TickLabels.nameAt (values.reverse.map (·.1))) values where
  formatter := rfl
  rows := h.labels_rows_from_zero _
  entries := by
    intro i name v hentry
    obtain ⟨hi, -⟩ := List.getElem?_eq_some_iff.mp hentry
    obtain ⟨row, hrow⟩ : ∃ row, values.length - 1 - i = row := ⟨_, rfl⟩
    have hname : (values.reverse.map (·.1))[row]? = some name := by
      rw [List.getElem?_map, List.getElem?_reverse (by omega),
        show values.length - 1 - row = i by omega, hentry]
      rfl
    refine ⟨row, by omega, fun htells => ?_, ?_, ?_⟩
    · rw [h.at_row _ _ htells, List.getD_eq_getElem?_getD, hname, Option.getD_some]
    · simp [shapeAt, ofValues, lyingBar, hentry, hrow]
    · simp [shapeAt, ofValues, hentry, hrow]

/-- The labels of a box plot. -/
theorem of_latencies_labelled {reading : Reading α} (h : reading.FindsNames)
    (title xTitle : String) (stats : List (Latency α)) :
    LabelsLatencies reading (ofLatencies title xTitle stats)
      (TickLabels.nameAt ("" :: stats.map (·.event))) stats where
  formatter := rfl
  rows := h.labels_rows [""] (fun _ => List.mem_singleton.mp) _
  entries := by
    intro i s hentry
    refine ⟨fun htells => ?_, ?_, ?_⟩
    · rw [h.at_row _ _ htells]
      simp [hentry]
    · simp [shapeAt, ofLatencies, hentry]
    · simp [shapeAt, ofLatencies, hentry]

/-- The labels of a chart of tables. -/
theorem of_table_use_labelled {reading : Reading α} (h : reading.FindsNames)
    (title xTitle yTitle : String) (use : TableUse) :
    LabelsTables reading (ofTableUse title xTitle yTitle use)
      (TickLabels.nameAt (tableNames (use.map (·.1)))) use where
  formatter := rfl
  rows := h.labels_rows_from_zero _
  entries := by
    intro row table counts hentry htells
    rw [h.at_row _ _ htells, table_names_eq]
    simp [hentry]
  bars := by
    intro index event series hevent hseries shape
    have hown : series = stackedSeries use (TableUse.events use) event index := by
      simp only [ofTableUse, List.getElem?_map, List.getElem?_zipIdx, hevent, Option.map_some,
        Option.some.injEq] at hseries
      rw [← hseries, Nat.zero_add]
    rw [hown]
    simp only [stackedSeries, stackedBars, List.mem_filterMap, Option.map_eq_some_iff]
    constructor
    · rintro ⟨⟨⟨table, counts⟩, row⟩, hrow, n, hn, rfl⟩
      exact ⟨row, table, counts, n, _, List.mk_mem_zipIdx_iff_getElem?.mp hrow, hn, rfl, rfl⟩
    · rintro ⟨row, table, counts, n, _, hrow, hn, rfl, rfl⟩
      exact ⟨((table, counts), row), List.mk_mem_zipIdx_iff_getElem?.mpr hrow, n, hn, rfl⟩

/-- In the chart of a trace no two rows that are told apart have the same label. -/
theorem LabelsTables.label_eq_iff {reading : Reading α} {chart : Chart α} {label : α → String}
    {records : List Record} (h : LabelsTables reading chart label (TableUse.ofRecords records))
    {row other : Nat} (hrow : row < (TableUse.tables records).length) (htells : reading.tells row)
    (hother : other < (TableUse.tables records).length) (htellsOther : reading.tells other) :
    label (Scalar.ofNat row) = label (Scalar.ofNat other) ↔ row = other := by
  have hrows := h.rows
  rw [TableUse.keys_of_records] at hrows
  have hnodup := nodup_table_names_iff.mpr (TableUse.nodup_tables records)
  have hlabel : ∀ i, (hi : i < (tableNames (TableUse.tables records)).length) →
      reading.tells i → label (Scalar.ofNat i) = (tableNames (TableUse.tables records))[i] := by
    intro i hi hi'
    have hnamed := hrows.named i _ (List.getElem?_eq_getElem hi)
    rw [Nat.zero_add] at hnamed
    exact hnamed hi'
  rw [← length_table_names] at hrow hother
  rw [hlabel row hrow htells, hlabel other hother htellsOther, hnodup.getElem_inj_iff]

/-- Labels stand beside the bars and boxes that they name, in every chart with rows. -/
structure LabelsCharts (α : Type) [Scalar α] (reading : Reading α) : Prop where
  values : ∀ title xTitle (values : List (String × α)),
    ∃ label, LabelsValues reading (ofValues title xTitle values) label values
  latencies : ∀ title xTitle (stats : List (Latency α)),
    ∃ label, LabelsLatencies reading (ofLatencies title xTitle stats) label stats
  tables : ∀ title xTitle yTitle use,
    ∃ label, LabelsTables reading (ofTableUse title xTitle yTitle use) label use

/-- Where names are found, the charts are labelled. -/
theorem labels_charts {reading : Reading α} (h : reading.FindsNames) : LabelsCharts α reading where
  values := fun title xTitle values => ⟨_, of_values_labelled h title xTitle values⟩
  latencies := fun title xTitle stats => ⟨_, of_latencies_labelled h title xTitle stats⟩
  tables := fun title xTitle yTitle use => ⟨_, of_table_use_labelled h title xTitle yTitle use⟩

/-- Rows are labelled with the names of what is drawn in them, in both arithmetics. -/
theorem rows_labelled : LabelsCharts Rat .exact ∧ LabelsCharts Float .binary64 :=
  ⟨labels_charts Reading.exact_finds_names, labels_charts Reading.binary64_finds_names⟩

end Chart

end CallProfile

import CallProfile.Proofs.Chart.Content
import CallProfile.Proofs.Histogram
import CallProfile.Proofs.Latency.Box

/-!
# Charts contain their data

In exact arithmetic both ranges of a chart are proper, and every point that a shape is given by lies
in them (`Chart.ContainsData`). Each chart finds its ranges by one fold over the data and its shapes
by another, so there is a lemma for each of them: dots lie under the largest value, bins next to one
another between the ends of the range, stacked bars within the total of their row, and rows within
half a row of the ends of their axis. The main result is `charts_contain_data`.
-/

namespace CallProfile

open Number (Scalar)

/-- Whether a value lies in the range, both ends included. -/
def AxisRange.Contains (range : AxisRange Rat) (value : Rat) : Prop :=
  range.low ≤ value ∧ value ≤ range.high

namespace Chart

/-- Whether a point lies in the ranges of a chart. -/
def Holds (chart : Chart Rat) (p : Point Rat) : Prop :=
  chart.x.range.Contains p.x ∧ chart.y.range.Contains p.y

/-- The ranges of a chart are proper, and the points of all shapes lie in them. -/
structure ContainsData (chart : Chart Rat) : Prop where
  x_proper : chart.x.range.low < chart.x.range.high
  y_proper : chart.y.range.low < chart.y.range.high
  holds : ∀ series ∈ chart.series, ∀ shape ∈ series.shapes, ∀ p ∈ shape.points, chart.Holds p

/-- The shapes of two series are those of each. -/
theorem forall_mem_pair {property : PlotSeries Rat → Prop} {first second : PlotSeries Rat}
    (hfirst : property first) (hsecond : property second) :
    ∀ series ∈ [first, second], property series := by
  intro series hseries
  rcases List.mem_pair.mp hseries with rfl | rfl
  · exact hfirst
  · exact hsecond

/-! ## Ends of axes -/

/-- No value is above the largest of some values and a start. -/
theorem le_foldl_max {start v : Rat} {values : List Rat} (h : v = start ∨ v ∈ values) :
    v ≤ values.foldl max start := by
  induction values generalizing start v with
  | nil => exact (h.resolve_right List.not_mem_nil).le
  | cons w values ih =>
      have hstart : max start w ≤ values.foldl max (max start w) := ih (Or.inl rfl)
      rw [List.foldl_cons]
      rcases h with rfl | hmem
      · exact (le_max_left _ _).trans hstart
      · rcases List.mem_cons.mp hmem with rfl | hrest
        · exact (le_max_right _ _).trans hstart
        · exact ih (Or.inr hrest)

/-- The end of an axis is a tenth above the largest value, if that is above zero. -/
theorem axis_end_rat (values : List Rat) :
    axisEnd values =
      if 0 < values.foldl max 0 then values.foldl max 0 * (11 / 10) else 1 := by
  have hlarger : (Scalar.larger : Rat → Rat → Rat) = max := by
    funext x y
    exact Scalar.larger_rat x y
  simp only [axisEnd, hlarger, Scalar.less_rat, decide_eq_true_eq]
  norm_num

/-- An axis ends above zero. -/
theorem axis_end_pos (values : List Rat) : 0 < axisEnd values := by
  rw [axis_end_rat]
  split
  · next hpos => positivity
  · exact one_pos

/-- An axis from zero to its end is proper. -/
theorem zero_lt_axis_end (values : List Rat) : (0.0 : Rat) < axisEnd values := by
  rw [Scalar.zero_rat]
  exact axis_end_pos values

/-- An axis with a margin in front of zero begins below zero. -/
theorem margin_neg (values : List Rat) : -axisEnd values * 0.02 < 0 := by
  have hpos := axis_end_pos values
  norm_num
  exact hpos

/-- An axis of at least one row is proper. -/
theorem rows_proper {rows : Nat} (h : 0 < rows) : (-0.5 : Rat) < (rows : Rat) - 0.5 := by
  norm_num
  exact h

/-- No value is behind the end of its axis. -/
theorem le_axis_end {v : Rat} {values : List Rat} (h : v ∈ values) : v ≤ axisEnd values := by
  have hle : v ≤ values.foldl max 0 := le_foldl_max (Or.inr h)
  rw [axis_end_rat]
  split <;> linarith

/-! ## Dots -/

/-- Series over the elapsed time lie in their chart, however many points they have. -/
theorem of_dots_contains (title yTitle : String) (series : List Dots) :
    (ofDots title yTitle series : Chart Rat).ContainsData where
  x_proper := (margin_neg _).trans (axis_end_pos _)
  y_proper := zero_lt_axis_end _
  holds := by
    intro plotted hplotted shape hshape p hp
    obtain ⟨dots, hdots, rfl⟩ := List.mem_map.mp hplotted
    obtain ⟨point, hpoint, rfl⟩ := List.mem_map.mp hshape
    rw [dot, Shape.points, List.mem_singleton] at hp
    subst hp
    have hmem : point ∈ series.flatMap (·.points) := List.mem_flatMap.mpr ⟨dots, hdots, hpoint⟩
    have hright := le_axis_end (List.mem_map_of_mem (f := fun p => (p.elapsedMs : Rat)) hmem)
    have htop := le_axis_end (List.mem_map_of_mem (f := fun p => (p.count : Rat)) hmem)
    refine ⟨⟨?_, hright⟩, ?_, htop⟩
    · exact (margin_neg _).le.trans (Nat.cast_nonneg point.elapsedMs)
    · show (0.0 : Rat) ≤ (point.count : Rat)
      rw [Scalar.zero_rat]
      exact Nat.cast_nonneg _

/-! ## Bins -/

/-- The bar of a bin lies in a chart of bins that begin and end where it does. -/
theorem bin_bar_holds {title xTitle yTitle : String} {bars : List (Bin Rat)} {left right : Rat}
    (hleft : (bars.head?.map (·.start)).getD 0.0 = left)
    (hright : (bars.getLast?.map (·.stop)).getD 1.0 = right) {bar : Bin Rat} (hbar : bar ∈ bars)
    (hstart : left ≤ bar.start) (hstop : bar.start ≤ bar.stop) (hlast : bar.stop ≤ right)
    (hheight : 0 ≤ bar.fraction) (paint : Paint) :
    ∀ p ∈ (binBar paint bar).points, (ofBins title xTitle yTitle bars).Holds p := by
  intro p hp
  have htop := le_axis_end (List.mem_map_of_mem (f := (·.fraction)) hbar)
  have hbottom : 0 ≤ axisEnd (bars.map (·.fraction)) := (axis_end_pos _).le
  simp only [binBar, Shape.points, List.mem_pair] at hp
  rcases hp with rfl | rfl
  · simp only [Holds, AxisRange.Contains, ofBins, numericAxis, hleft, hright]
    simp only [Scalar.zero_rat]
    exact ⟨⟨hstart, hstop.trans hlast⟩, le_refl _, hbottom⟩
  · simp only [Holds, AxisRange.Contains, ofBins, numericAxis, hleft, hright]
    simp only [Scalar.zero_rat]
    exact ⟨⟨hstart.trans hstop, hlast⟩, hheight, htop⟩

/-- The bins of samples lie in their chart. -/
theorem of_bins_contains (title xTitle yTitle : String) {samples : List Nat} (h : samples ≠ [])
    (bins : Nat) :
    (ofBins title xTitle yTitle (Histogram.ofSamples samples bins) : Chart Rat).ContainsData := by
  obtain ⟨low, width, share, last, hwidth, hshare, heven⟩ := Histogram.of_samples_even h bins
  have hleft : ((Histogram.evenBins low width share (last + 1)).head?.map (·.start)).getD 0.0 =
      low := by
    rw [Histogram.left_even_bins, Option.getD_some]
  have hright : ((Histogram.evenBins low width share (last + 1)).getLast?.map (·.stop)).getD 1.0 =
      low + width * ((last + 1 : Nat) : Rat) := by
    rw [Histogram.right_even_bins, Option.getD_some]
  rw [heven]
  -- Both series draw bars of bins, the second one only those that are not empty.
  have hbar : ∀ bar ∈ Histogram.evenBins low width share (last + 1), ∀ paint,
      ∀ p ∈ (binBar paint bar).points,
        (ofBins title xTitle yTitle (Histogram.evenBins low width share (last + 1))).Holds p := by
    intro bar hmem paint
    have hheight : 0 ≤ bar.fraction := by
      obtain ⟨i, -, rfl⟩ := List.mem_map.mp hmem
      exact hshare i
    obtain ⟨hstart, hstop, hlast⟩ := Histogram.ends_of_mem_even_bins hwidth hmem
    exact bin_bar_holds hleft hright hmem hstart hstop hlast hheight paint
  refine ⟨?_, zero_lt_axis_end _, forall_mem_pair ?_ ?_⟩
  · have hpos : 0 < width * ((last + 1 : Nat) : Rat) := by positivity
    simp only [ofBins, numericAxis, hleft, hright]
    linarith
  · intro shape hshape
    obtain ⟨bar, hmem, rfl⟩ := List.mem_map.mp hshape
    exact hbar bar hmem _
  · intro shape hshape
    obtain ⟨bar, hmem, rfl⟩ := List.mem_map.mp hshape
    exact hbar bar (List.mem_filter.mp hmem).1 _

/-! ## Bars side by side -/

/-- A standing bar lies in a chart that holds both ends of its foot and its height. -/
theorem standing_bar_holds {chart : Chart Rat} {color : Color} {left height : Rat}
    (hleft : chart.x.range.low ≤ left) (hright : left + 0.27 ≤ chart.x.range.high)
    (hbottom : chart.y.range.low = 0) (hheight : 0 ≤ height)
    (htop : height ≤ chart.y.range.high) :
    ∀ p ∈ (standingBar color left height).points, chart.Holds p := by
  intro p hp
  have hwidth : (0 : Rat) ≤ 0.27 := by norm_num
  simp only [standingBar, barWidth, Shape.points, List.mem_pair] at hp
  rcases hp with rfl | rfl
  · simp only [Holds, AxisRange.Contains, hbottom, Scalar.zero_rat]
    exact ⟨⟨hleft, by linarith⟩, le_refl _, by linarith⟩
  · simp only [Holds, AxisRange.Contains, hbottom]
    exact ⟨⟨by linarith, hright⟩, hheight, htop⟩

/-- Frequencies lie in their chart. -/
theorem of_frequencies_contains (title xTitle yTitle : String)
    (frequencies : List Transaction.Frequency) :
    (ofFrequencies title xTitle yTitle frequencies : Chart Rat).ContainsData := by
  have hmost : ∀ f ∈ frequencies,
      (f.ops : Rat) ≤ ((((frequencies.map (·.ops)).max?).getD 0 : Nat) : Rat) := by
    intro f hf
    have hmem : f.ops ∈ frequencies.map (·.ops) := List.mem_map_of_mem hf
    exact_mod_cast List.le_max?_getD_of_mem hmem
  have hheight : ∀ f ∈ frequencies, ∀ n ∈ [f.accessTxs, f.mutateTxs],
      (n : Rat) ≤ axisEnd
        (frequencies.flatMap fun f => [(f.accessTxs : Rat), (f.mutateTxs : Rat)]) := by
    intro f hf n hn
    refine le_axis_end (List.mem_flatMap.mpr ⟨f, hf, ?_⟩)
    exact List.mem_map_of_mem (f := fun n : Nat => (n : Rat)) hn
  -- A bar begins at its number of operations or one width behind it.
  have hbar : ∀ f ∈ frequencies, ∀ n ∈ [f.accessTxs, f.mutateTxs], ∀ (color : Color) (left : Rat),
      (f.ops : Rat) ≤ left → left ≤ (f.ops : Rat) + 0.27 →
      ∀ p ∈ (standingBar color left (n : Rat)).points,
        (ofFrequencies title xTitle yTitle frequencies).Holds p := by
    intro f hf n hn color left hle hge
    have hops : (0 : Rat) ≤ f.ops := Nat.cast_nonneg _
    have hlast := hmost f hf
    refine standing_bar_holds ?_ ?_ Scalar.zero_rat (Nat.cast_nonneg n) (hheight f hf n hn)
    · show (-0.5 : Rat) ≤ left
      norm_num
      linarith
    · show left + 0.27 ≤ _ + 1.0
      norm_num at hge ⊢
      linarith
  refine ⟨?_, zero_lt_axis_end _, forall_mem_pair ?_ ?_⟩
  · show (-0.5 : Rat) < (((frequencies.map (·.ops)).max?.getD 0 : Nat) : Rat) + 1.0
    have hnonneg : (0 : Rat) ≤ (((frequencies.map (·.ops)).max?.getD 0 : Nat) : Rat) :=
      Nat.cast_nonneg _
    norm_num
    linarith
  · intro shape hshape
    obtain ⟨f, hf, rfl⟩ := List.mem_map.mp hshape
    refine hbar f hf f.accessTxs List.mem_cons_self _ _ (le_refl _) ?_
    show (f.ops : Rat) ≤ f.ops + 0.27
    norm_num
  · intro shape hshape
    obtain ⟨f, hf, rfl⟩ := List.mem_map.mp hshape
    refine hbar f hf f.mutateTxs (by simp) _ _ ?_ (le_refl _)
    show (f.ops : Rat) ≤ f.ops + 0.27
    norm_num

/-! ## Stacked bars -/

/-- A row and what lies around it within two fifths are among the rows. -/
theorem row_within {row rows : Nat} (h : row < rows) :
    (-0.5 : Rat) ≤ (row : Rat) - 0.4 ∧ (row : Rat) + 0.4 ≤ (rows : Rat) - 0.5 := by
  have hbelow : (0 : Rat) ≤ row := Nat.cast_nonneg _
  have habove : (row : Rat) + 1 ≤ rows := by exact_mod_cast h
  norm_num
  exact ⟨by linarith, by linarith⟩

/-- A lying bar lies in a chart that has its row and holds both ends of the bar. -/
theorem lying_bar_holds {chart : Chart Rat} {color : Color} {row rows : Nat} {left right : Rat}
    (hrow : row < rows) (hlow : chart.y.range.low = -0.5)
    (hhigh : chart.y.range.high = (rows : Rat) - 0.5) (hleft : chart.x.range.low ≤ left)
    (hle : left ≤ right) (hright : right ≤ chart.x.range.high) :
    ∀ p ∈ (lyingBar color row left right).points, chart.Holds p := by
  intro p hp
  have hcorners : chart.y.range.low ≤ (row : Rat) - 0.4 ∧
      (row : Rat) + 0.4 ≤ chart.y.range.high := by
    rw [hlow, hhigh]
    exact row_within hrow
  have hheight : (row : Rat) - 0.4 ≤ (row : Rat) + 0.4 := by
    norm_num
    linarith
  simp only [lyingBar, Shape.points, List.mem_pair] at hp
  rcases hp with rfl | rfl
  · exact ⟨⟨hleft, hle.trans hright⟩, hcorners.1, hheight.trans hcorners.2⟩
  · exact ⟨⟨hleft.trans hle, hright⟩, hcorners.1.trans hheight, hcorners.2⟩

/-- Bars are stacked to the total of what is below. -/
theorem stacked_to_rat (counts : List (String × Nat)) (events : List String) :
    (stackedTo counts events : Rat) =
      (Number.total (events.filterMap fun event => counts.lookup event) : Rat) := by
  have hfold : ∀ (start : Rat) (heights : List Nat),
      heights.foldl (fun (left : Rat) (n : Nat) => left + (n : Rat)) start =
        start + (Number.total heights : Rat) := by
    intro start heights
    induction heights generalizing start with
    | nil => simp [Number.total]
    | cons n heights ih =>
        rw [List.foldl_cons, ih, Number.total_cons]
        push_cast
        ring
  calc
    (stackedTo counts events : Rat) =
        0.0 + (Number.total (events.filterMap fun event => counts.lookup event) : Rat) :=
      hfold _ _
    _ = _ := by norm_num

end Chart

/-- What is looked up for different keys is no more than the total. -/
theorem total_lookups_le (counts : List (String × Nat)) {events : List String}
    (h : events.Nodup) :
    Number.total (events.filterMap fun event => counts.lookup event) ≤
      Number.total (counts.map (·.2)) := by
  induction counts generalizing events with
  | nil => simp [Number.total]
  | cons entry rest ih =>
      obtain ⟨key, n⟩ := entry
      have hother : ∀ others : List String, key ∉ others →
          (others.filterMap fun event => List.lookup event ((key, n) :: rest)) =
            others.filterMap fun event => rest.lookup event := by
        intro others hkey
        refine List.filterMap_congr fun event hevent => ?_
        have hne : event ≠ key := by
          rintro rfl
          exact hkey hevent
        rw [List.lookup_cons, beq_eq_false_iff_ne.mpr hne]
      rw [List.map_cons, Number.total_cons]
      by_cases hkey : key ∈ events
      · -- The entry is looked up once, and the rest of the keys in the rest of the entries.
        have hperm := (List.perm_cons_erase hkey).filterMap
          fun event => List.lookup event ((key, n) :: rest)
        have hfirst : List.lookup key ((key, n) :: rest) = some n := List.lookup_cons_self
        have herase : key ∉ events.erase key := h.not_mem_erase
        rw [Number.total_of_perm hperm,
          List.filterMap_cons_some (f := fun event => List.lookup event ((key, n) :: rest)) hfirst,
          Number.total_cons, hother _ herase]
        exact Nat.add_le_add_left (ih (h.erase key)) n
      · rw [hother _ hkey]
        exact Nat.le_add_left_of_le (ih h)

namespace Chart

/-- The bar of an event lies between zero and the total of its row. -/
theorem stacked_within (counts : List (String × Nat)) {events : List String} (h : events.Nodup)
    {event : String} {index n : Nat} (hevent : events[index]? = some event)
    (hn : counts.lookup event = some n) :
    (0 : Rat) ≤ stackedTo counts (events.take index) ∧
      (stackedTo counts (events.take index) : Rat) + n ≤
        (Number.total (counts.map (·.2)) : Rat) := by
  have hnext : events.take (index + 1) = events.take index ++ [event] := by
    rw [List.take_add_one, hevent, Option.toList_some]
  have hown : ([event].filterMap fun event => counts.lookup event) = [n] := by
    simp [hn]
  have hle := total_lookups_le counts (h.sublist (List.take_sublist (index + 1) events))
  rw [hnext, List.filterMap_append, Number.total_append, hown] at hle
  rw [stacked_to_rat]
  refine ⟨Nat.cast_nonneg _, ?_⟩
  exact_mod_cast hle

/-- The use of tables lies in its chart, whichever events name whichever tables. -/
theorem of_table_use_contains (title xTitle yTitle : String) {use : TableUse} (h : use ≠ []) :
    (ofTableUse title xTitle yTitle use : Chart Rat).ContainsData where
  x_proper := zero_lt_axis_end _
  y_proper := rows_proper (List.length_pos_iff.mpr h)
  holds := by
    intro series hseries shape hshape
    obtain ⟨⟨event, index⟩, hevent, rfl⟩ := List.mem_map.mp hseries
    obtain ⟨⟨⟨id, counts⟩, row⟩, hrow, hbar⟩ := List.mem_filterMap.mp hshape
    obtain ⟨n, hn, rfl⟩ := Option.map_eq_some_iff.mp hbar
    have hevents : (TableUse.events use).Nodup := (pairwise_ascending _).imp And.right
    have huse := List.mk_mem_zipIdx_iff_getElem?.mp hrow
    obtain ⟨hleft, hright⟩ :=
      stacked_within counts hevents (List.mk_mem_zipIdx_iff_getElem?.mp hevent) hn
    have hwidth : (0 : Rat) ≤ n := Nat.cast_nonneg _
    refine lying_bar_holds (List.getElem?_eq_some_iff.mp huse).1 rfl rfl ?_ ?_ ?_
    · show (0.0 : Rat) ≤ _
      rw [Scalar.zero_rat]
      exact hleft
    · show (stackedTo counts _ : Rat) ≤ stackedTo counts _ + (n : Rat)
      linarith
    · refine hright.trans (le_axis_end ?_)
      exact List.mem_map_of_mem (f := fun entry : String × List (String × Nat) =>
        (Number.total (entry.2.map (·.2)) : Rat)) (List.mem_of_getElem? huse)

/-! ## Named values -/

/-- Values that are not below zero lie in their chart, and so do their texts. -/
theorem of_values_contains (title xTitle : String) {values : List (String × Rat)}
    (h : values ≠ []) (hvalues : ∀ entry ∈ values, 0 ≤ entry.2) :
    (ofValues title xTitle values : Chart Rat).ContainsData := by
  have hend : axisEnd (values.map (·.2)) ≤ axisEnd (values.map (·.2)) * 1.15 := by
    have hpos := axis_end_pos (values.map (·.2))
    norm_num
    linarith
  have hvalue : ∀ entry ∈ values, entry.2 ≤ axisEnd (values.map (·.2)) * 1.15 :=
    fun entry hentry => (le_axis_end (List.mem_map_of_mem hentry)).trans hend
  have hrow : ∀ i, values.length - 1 - i < values.length := by
    have hpos := List.length_pos_iff.mpr h
    omega
  refine ⟨?_, ?_, forall_mem_pair ?_ ?_⟩
  · exact (zero_lt_axis_end _).trans_le hend
  · exact rows_proper (List.length_pos_iff.mpr h)
  · intro shape hshape
    obtain ⟨⟨⟨name, v⟩, i⟩, hentry, rfl⟩ := List.mem_map.mp hshape
    have hmem : (name, v) ∈ values := List.fst_mem_of_mem_zipIdx hentry
    refine lying_bar_holds (hrow i) rfl rfl (le_refl _) ?_ (hvalue _ hmem)
    rw [Scalar.zero_rat]
    exact hvalues _ hmem
  · intro shape hshape p hp
    obtain ⟨⟨⟨name, v⟩, i⟩, hentry, rfl⟩ := List.mem_map.mp hshape
    have hmem : (name, v) ∈ values := List.fst_mem_of_mem_zipIdx hentry
    rw [Shape.points, List.mem_singleton] at hp
    subst hp
    have hwithin := row_within (hrow i)
    norm_num at hwithin
    refine ⟨⟨?_, hvalue _ hmem⟩, ?_, ?_⟩
    · show (0.0 : Rat) ≤ v
      rw [Scalar.zero_rat]
      exact hvalues _ hmem
    · show (-0.5 : Rat) ≤ (values.length - 1 - i : Nat)
      norm_num
      linarith
    · show ((values.length - 1 - i : Nat) : Rat) ≤ (values.length : Rat) - 0.5
      norm_num
      linarith

end Chart

namespace Latency

/-- A duration is not below zero. -/
theorem duration_nonneg (r : Record) : 0 ≤ r.durationMs Rat := by
  show (0 : Rat) ≤ (r.durationNs.getD 0 : Rat) / (Record.nanosPerMs : Rat)
  positivity

/-- The mean of samples is not below zero if none of them is. -/
theorem mean_nonneg_of_samples {event : String} {samples : List Rat} {s : Latency Rat}
    (h : ofSamples? event samples = some s) (hsamples : ∀ v ∈ samples, 0 ≤ v) : 0 ≤ s.mean := by
  have hsum : 0 ≤ Scalar.sum (sortedSamples samples) :=
    Scalar.sum_nonneg fun v hv => hsamples v (List.mem_mergeSort.mp hv)
  rw [mean_of_samples h]
  exact div_nonneg hsum (Nat.cast_nonneg _)

/-- The mean of an event is not below zero. -/
theorem mean_nonneg {records : List Record} {s : Latency Rat} (h : s ∈ ofRecords Rat records) :
    0 ≤ s.mean := by
  obtain ⟨event, samples, hs, -, hdurations⟩ := exists_samples h
  refine mean_nonneg_of_samples hs fun v hv => ?_
  obtain ⟨r, -, rfl⟩ := hdurations v hv
  exact duration_nonneg r

/-- There is an average for each event, and none is below zero. -/
theorem averages_nonneg (records : List Record) :
    ∀ entry ∈ averages (ofRecords Rat records), 0 ≤ entry.2 := by
  intro entry hentry
  obtain ⟨s, hs, rfl⟩ := List.mem_map.mp (List.mem_mergeSort.mp hentry)
  exact mean_nonneg hs

/-- There are averages if there are latencies. -/
theorem averages_ne_nil {stats : List (Latency Rat)} (h : stats ≠ []) : averages stats ≠ [] := by
  unfold averages
  rw [← List.length_pos_iff, List.length_mergeSort, List.length_map]
  exact List.length_pos_iff.mpr h

end Latency

/-! ## The charts of a kind -/

namespace ChartKind

variable {kind : ChartKind} {records : List Record} {options : PlotOptions}

/-- The only file of a kind shows its only chart. -/
theorem forall_mem_single {property : String × Chart Rat → Prop} {file : String}
    {chart : Chart Rat} (h : property (file, chart)) :
    ∀ entry ∈ [file].zip [chart], property entry := by
  intro entry hentry
  rw [List.zip_cons_cons, List.zip_nil_left, List.mem_singleton] at hentry
  rwa [hentry]

/-- The file of the box plot. -/
def boxPlotFile : String := "count_all_ops_time_boxplot.png"

/-- The charts of a kind that are drawn contain their data, apart from the box plot. -/
theorem contains_data_of_charts {exact : List (Chart Rat)}
    (h : kind.charts Rat records options = .ok exact) :
    ∀ entry ∈ kind.files.zip exact, entry.1 ≠ boxPlotFile → entry.2.ContainsData := by
  have hcalls : ∀ {table : Option String} {file : String},
      kind.callCharts Rat records options table = .ok exact →
      ∀ entry ∈ [file].zip exact, entry.1 ≠ boxPlotFile → entry.2.ContainsData := by
    intro table file hdrawn
    obtain ⟨-, rfl⟩ := unless_empty_eq_ok hdrawn
    exact forall_mem_single fun _ => Chart.of_frequencies_contains _ _ _ _
  cases kind with
  | activeThreads | seqCalls | reads =>
      obtain ⟨-, rfl⟩ := unless_empty_eq_ok h
      exact forall_mem_single fun _ => Chart.of_dots_contains _ _ _
  | opsPerTx =>
      obtain ⟨hbins, rfl⟩ := unless_empty_eq_ok h
      have hsizes : Transaction.sizes records ≠ [] := by
        intro hnil
        rw [List.isEmpty_eq_false_iff, Ne, Histogram.of_samples_eq_nil_iff] at hbins
        exact hbins hnil
      exact forall_mem_single fun _ => Chart.of_bins_contains _ _ _ hsizes binCount
  | tableOps =>
      obtain ⟨huse, rfl⟩ := unless_empty_eq_ok h
      exact forall_mem_single fun _ =>
        Chart.of_table_use_contains _ _ _ (List.isEmpty_eq_false_iff.mp huse)
  | tableOpsPerTx => exact hcalls h
  | tableIdOpsPerTx =>
      cases htable : options.tableId with
      | none =>
          simp only [charts, chosenTable, htable] at h
          cases h
      | some table =>
          simp only [charts, chosenTable, htable] at h
          exact hcalls h
  | opLatency =>
      obtain ⟨hstats, rfl⟩ := unless_empty_eq_ok h
      have hbars := Chart.of_values_contains "Average Time per Operation" "Time (ms)"
        (Latency.averages_ne_nil (List.isEmpty_eq_false_iff.mp hstats))
        (Latency.averages_nonneg records)
      intro entry hentry hfile
      rcases List.mem_pair.mp hentry with rfl | rfl
      · exact absurd rfl hfile
      · exact hbars
  | allOps | allMethods | allMethodsTx | allMethodsById | txOpTime =>
      cases h
      simp

/-- Where a chart with axes is drawn, there is the same chart in exact arithmetic for each of its
files, and apart from the box plot each of them contains its data. -/
theorem charts_contain_data {pictures : List (Picture Float)} (hkind : kind ∈ withAxes)
    (hdrawn : kind.pictures records options = .ok pictures) :
    ∃ (drawn : List (Chart Float)) (exact : List (Chart Rat)),
      kind.charts Float records options = .ok drawn ∧ pictures = drawn.map .chart ∧
      kind.charts Rat records options = .ok exact ∧ exact.length = kind.files.length ∧
      ∀ entry ∈ kind.files.zip exact, entry.1 ≠ boxPlotFile → entry.2.ContainsData := by
  rw [pictures_with_axes hkind] at hdrawn
  have hoffered := charts_outcome Float hkind records options
  cases hcharts : kind.charts Float records options with
  | error failure =>
      rw [hcharts] at hdrawn
      cases hdrawn
  | ok drawn =>
      rw [hcharts] at hdrawn hoffered
      -- The records decide what is drawn, so that neither arithmetic draws without the other.
      obtain ⟨hlacks, hshows⟩ := hoffered.shows
      obtain ⟨exact, hexact, hlength⟩ :=
        (charts_outcome Rat hkind records options).exists_drawn hlacks hshows
      exact ⟨drawn, exact, rfl, (Except.ok.inj hdrawn).symm, hexact, hlength,
        contains_data_of_charts hexact⟩

/-- The use of the tables of a transaction is drawn, and lies in its chart. -/
theorem mixed_calls_contained :
    ∃ exact, tableOps.charts Rat Transaction.mixedCalls smallOptions = .ok exact ∧
      exact.length = 1 ∧
      ∀ entry ∈ tableOps.files.zip exact, entry.1 ≠ boxPlotFile → entry.2.ContainsData := by
  have hkind : tableOps ∈ withAxes := by decide
  have hshows : tableOps.Shows Transaction.mixedCalls smallOptions.tableId :=
    ⟨_, List.mem_cons_self, by decide⟩
  obtain ⟨pictures, hdrawn, -⟩ :=
    (pictures_outcome_with_axes hkind Transaction.mixedCalls smallOptions).exists_drawn rfl hshows
  obtain ⟨_, exact, -, -, hexact, hlength, hcontains⟩ := charts_contain_data hkind hdrawn
  exact ⟨exact, hexact, hlength, hcontains⟩

end ChartKind

end CallProfile

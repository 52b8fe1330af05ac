import CallProfile.Chart.Bars
import CallProfile.Proofs.Latency.Apart

/-!
# What a box plot draws within its axes

The horizontal axis of a box plot ends a tenth above the greatest upper whisker or mean. In binary64
nothing but an upper quartile is drawn outside of the axes (`box_plot_keeps_to_axes`): the rows are
a quarter above and below counts, and of the quartiles only the upper one can be more than a tenth
above its whisker. It can be behind the end of the axis, where most of the calls of an event are
short and the few others are too far apart for the whisker (`late_calls_leave_axis`).
-/

namespace CallProfile

open Number (Scalar)
open Number.Binary64

/-- Whether a number lies in the range, both ends included. -/
def AxisRange.Covers (range : AxisRange Float) (value : Float) : Prop :=
  range.low ≤ value ∧ value ≤ range.high

namespace Chart

/-- Whether the points of all shapes lie in both ranges of a chart. -/
def Covers (chart : Chart Float) : Prop :=
  ∀ series ∈ chart.series, ∀ shape ∈ series.shapes, ∀ p ∈ shape.points,
    chart.x.range.Covers p.x ∧ chart.y.range.Covers p.y

/-! ## The end of the axis -/

section AxisEnd

variable {values : List Float} {x y : Float} {a b c : Rat}

/-- The factor at the end of an axis is a little more than eleven tenths. -/
theorem holds_eleven_tenths : ∃ r, Holds 1.1 r ∧ 11 / 10 ≤ r := by
  have hparts : parts 1.1 = .finite .positive 4953959590107546 (-52) (by decide) := rfl
  exact ⟨_, holds_of_parts hparts (by constructor <;> norm_num) rfl, by norm_num⟩

/-- An axis ends a tenth above the largest value. -/
theorem le_axis_end_of_largest (hlargest : Holds (values.foldl Scalar.larger 0.0) c)
    (hy : Holds y b) (hle : b ≤ 11 / 10 * c) : y ≤ axisEnd values := by
  have hnonneg := hlargest.nonneg
  have hzero : Holds 0.0 0 := .zero .positive
  have hparts : parts 1.0 = .finite .positive (2 ^ 52) (-52) (by decide) := rfl
  have hone : Holds 1.0 1 := holds_of_parts hparts (by constructor <;> norm_num) (by norm_num)
  obtain ⟨r, hr, hfactor⟩ := holds_eleven_tenths
  have hless : Scalar.less 0.0 (values.foldl Scalar.larger 0.0) = true ↔ 0 < c :=
    decide_eq_true_iff.trans (hzero.lt_iff hlargest)
  simp only [axisEnd]
  by_cases hpos : 0 < c
  · rw [if_pos (hless.mpr hpos)]
    exact IsRounded.le (Stands.rounded hy) (hlargest.mul hr) (by nlinarith)
  · rw [if_neg (mt hless.mp hpos)]
    exact (hy.le_iff hone).mpr (by linarith)

/-- An axis ends at infinity if the largest value is infinite. -/
theorem axis_end_infinite
    (hlargest : parts (values.foldl Scalar.larger 0.0) = .infinity .positive) :
    Reaches (axisEnd values) ⊤ := by
  have hless : Scalar.less 0.0 (values.foldl Scalar.larger 0.0) = true := by
    refine decide_eq_true (lt_parts.mpr ?_)
    rw [hlargest]
    rfl
  simp only [axisEnd]
  rw [if_pos hless]
  unfold Reaches
  rw [parts_mul, hlargest]
  exact .infinity

/-- What is at most a tenth above a value is not behind the end of the axis. -/
theorem le_axis_end_tenth (hvalues : ∀ v ∈ values, ∃ t, Reaches v t) (hx : x ∈ values)
    (ha : Holds x a) (hb : Holds y b) (hle : b ≤ 11 / 10 * a) : y ≤ axisEnd values := by
  have hzero : Reaches 0.0 (0 : Rat) := .value (.zero .positive)
  obtain ⟨t, ht, -, hmost⟩ := reaches_foldl_larger hzero hvalues
  rcases ht.cases with ⟨c, rfl, hc⟩ | ⟨rfl, hinfinite⟩
  · have hac : a ≤ c := WithTop.coe_le_coe.mp (hmost x hx _ (.value ha))
    exact le_axis_end_of_largest hc hb (by linarith)
  · exact (Reaches.le_iff (.value hb) (axis_end_infinite hinfinite)).mpr le_top

/-- No value is behind the end of its axis. -/
theorem le_axis_end_float (hvalues : ∀ v ∈ values, ∃ t, Reaches v t) (hx : x ∈ values) :
    x ≤ axisEnd values := by
  have hzero : Reaches 0.0 (0 : Rat) := .value (.zero .positive)
  obtain ⟨t, ht, -, hmost⟩ := reaches_foldl_larger hzero hvalues
  obtain ⟨z, hz⟩ := hvalues x hx
  rcases hz.cases with ⟨a, rfl, ha⟩ | ⟨rfl, -⟩
  · have hnonneg := ha.nonneg
    exact le_axis_end_tenth hvalues hx ha ha (by linarith)
  · rcases ht.cases with ⟨c, rfl, -⟩ | ⟨rfl, hinfinite⟩
    · exact absurd (hmost x hx _ hz) (by simp)
    · exact (hz.le_iff (axis_end_infinite hinfinite)).mpr le_top

end AxisEnd

/-! ## Rows -/

/-- The heights at which the row of a box plot is drawn. -/
def rowHeights (y : Float) : List Float :=
  [y - boxHalf, y - boxHalf / 2.0, y, y + boxHalf / 2.0, y + boxHalf]

/-- The heights of a row are within half a row of it. -/
theorem row_heights_near {y : Float} {v : Rat} (hy : Holds y v) (hone : 1 ≤ v) :
    ∀ height ∈ rowHeights y, ∃ w, IsRounded height w ∧ v - 1 / 2 ≤ w ∧ w ≤ v + 1 / 2 := by
  have hparts : parts boxHalf = .finite .positive (2 ^ 52) (-54) (by decide) := rfl
  have hhalf : Holds boxHalf (1 / 4) :=
    holds_of_parts hparts (by constructor <;> norm_num) (by norm_num)
  have hparts' : parts (boxHalf / 2.0) = .finite .positive (2 ^ 52) (-55) (by decide) := rfl
  have hcap : Holds (boxHalf / 2.0) (1 / 8) :=
    holds_of_parts hparts' (by constructor <;> norm_num) (by norm_num)
  simp only [rowHeights, List.forall_mem_cons]
  exact ⟨⟨_, hy.sub hhalf (by linarith), by linarith, by linarith⟩,
    ⟨_, hy.sub hcap (by linarith), by linarith, by linarith⟩,
    ⟨_, Stands.rounded hy, by linarith, by linarith⟩,
    ⟨_, hy.add hcap, by linarith, by linarith⟩,
    ⟨_, hy.add hhalf, by linarith, by linarith⟩, List.forall_mem_nil _⟩

/-- A row is drawn between half a row below the first and half a row above the last one. -/
theorem row_heights_within {row rows : Nat} (hrow : row < rows)
    (hrows : rows < Number.powerOfTwo 64) :
    ∀ height ∈ rowHeights (Float.ofNat (row + 1)),
      0.5 ≤ height ∧ height ≤ Float.ofNat rows + 0.5 := by
  intro height hheight
  have hparts : parts 0.5 = .finite .positive (2 ^ 52) (-53) (by decide) := rfl
  have hhalf : Holds 0.5 (1 / 2) :=
    holds_of_parts hparts (by constructor <;> norm_num) (by norm_num)
  obtain ⟨v, hv, hone⟩ := exists_holds_of_count (Nat.succ_pos row) (by omega)
  obtain ⟨n, hn, -⟩ := exists_holds_of_count (show 0 < rows by omega) hrows
  have hle : v ≤ n := (hv.le_iff hn).mp
    ((is_rounded_of_nat _).le (is_rounded_of_nat _) (Nat.cast_le.mpr hrow))
  obtain ⟨w, hw, hlow, hhigh⟩ := row_heights_near hv hone height hheight
  exact ⟨IsRounded.le (Stands.rounded hhalf) hw (by linarith), hw.le (hn.add hhalf) (by linarith)⟩

/-! ## Points -/

/-- What is drawn of statistics besides the upper quartile. -/
def marks (s : Latency Float) : List Float :=
  [s.q1, s.median, s.whiskerLow, s.whiskerHigh, s.mean]

section Points

variable {title xTitle : String} {stats : List (Latency Float)} {series : PlotSeries Float}
  {shape : Shape Float} {p : Point Float}

/-- Every point of a box plot is at a number of an event and at a height of its row. -/
theorem point_of_latencies (hseries : series ∈ (ofLatencies title xTitle stats).series)
    (hshape : shape ∈ series.shapes) (hp : p ∈ shape.points) :
    ∃ row s, stats[row]? = some s ∧ p.x ∈ s.q3 :: marks s ∧
      p.y ∈ rowHeights (Float.ofNat (row + 1)) := by
  have hrow : ∀ entry ∈ stats.zipIdx.map fun (s, i) => ((Scalar.ofNat (i + 1) : Float), s),
      ∃ row : Nat, stats[row]? = some entry.2 ∧ entry.1 = Float.ofNat (row + 1) := by
    intro entry hentry
    obtain ⟨⟨s, row⟩, hmem, rfl⟩ := List.mem_map.mp hentry
    exact ⟨row, List.mk_mem_zipIdx_iff_getElem?.mp hmem, rfl⟩
  simp only [ofLatencies, List.mem_cons, List.not_mem_nil, or_false] at hseries
  rcases hseries with rfl | rfl | rfl
  case inl =>
    obtain ⟨⟨y, s⟩, hentry, rfl⟩ := List.mem_map.mp hshape
    obtain ⟨row, hs, rfl⟩ := hrow _ hentry
    refine ⟨row, s, hs, ?_⟩
    simp only [Shape.points, List.mem_pair] at hp
    rcases hp with rfl | rfl <;> simp [marks, rowHeights]
  case inr.inl =>
    obtain ⟨⟨y, s⟩, hentry, hline⟩ := List.mem_flatMap.mp hshape
    obtain ⟨row, hs, rfl⟩ := hrow _ hentry
    refine ⟨row, s, hs, ?_⟩
    simp only [boxLines, segment, List.mem_cons, List.not_mem_nil, or_false] at hline
    rcases hline with rfl | rfl | rfl | rfl | rfl
    all_goals
      simp only [Shape.points, List.mem_pair] at hp
      rcases hp with rfl | rfl <;> simp [marks, rowHeights]
  case inr.inr =>
    obtain ⟨⟨y, s⟩, hentry, rfl⟩ := List.mem_map.mp hshape
    obtain ⟨row, hs, rfl⟩ := hrow _ hentry
    refine ⟨row, s, hs, ?_⟩
    simp only [Shape.points, List.mem_singleton] at hp
    subst hp
    simp [marks, rowHeights]

/-- The upper quartile of each event is drawn. -/
theorem upper_quartile_drawn {s : Latency Float} (hs : s ∈ stats) :
    ∃ series ∈ (ofLatencies title xTitle stats).series, ∃ shape ∈ series.shapes,
      ∃ p ∈ shape.points, p.x = s.q3 := by
  obtain ⟨row, hrow⟩ := List.mem_iff_getElem?.mp hs
  have hentry := List.mem_map_of_mem (f := fun (s, i) => ((Scalar.ofNat (i + 1) : Float), s))
    (List.mk_mem_zipIdx_iff_getElem?.mpr hrow)
  exact ⟨_, List.mem_cons_self, _, List.mem_map_of_mem hentry, _,
    List.mem_cons_of_mem _ List.mem_cons_self, rfl⟩

end Points

/-! ## The whole plot -/

/-- Statistics of durations, which are fewer than there can be records. -/
def OfDurations (s : Latency Float) : Prop :=
  ∃ event samples, Latency.ofSamples? event samples = some s ∧
    samples.length < Number.powerOfTwo 64 ∧ ∀ v ∈ samples, IsDuration v

/-- The statistics of records are statistics of durations. -/
theorem of_durations {records : List Record}
    (hdurations : ∀ r ∈ records, r.durationNs.getD 0 < Number.powerOfTwo 64)
    (hcount : records.length < Number.powerOfTwo 64) :
    ∀ s ∈ Latency.ofRecords Float records, OfDurations s := by
  intro s hs
  obtain ⟨event, samples, hsamples, hlength, hrecords⟩ := Latency.exists_samples hs
  refine ⟨event, samples, hsamples, hlength.trans_lt hcount, fun v hv => ?_⟩
  obtain ⟨r, hr, rfl⟩ := hrecords v hv
  exact Record.is_duration (hdurations r hr)

/-- Nothing that is drawn of statistics is negative. -/
theorem OfDurations.reaches {s : Latency Float} (h : OfDurations s) :
    ∀ v ∈ s.q3 :: marks s, ∃ t, Reaches v t := by
  obtain ⟨event, samples, hs, hcount, hdurations⟩ := h
  obtain ⟨c, -, ⟨r, hr⟩, hvalues⟩ := Latency.exists_values hs hdurations
  have hreaches : ∀ v ∈ [s.q1, s.median, s.whiskerLow, s.whiskerHigh], ∃ t, Reaches v t :=
    fun v hv => (hvalues v hv).imp' _ fun _ hb => .value hb.1
  simp only [marks, List.forall_mem_cons] at hreaches ⊢
  obtain ⟨hq1, hmedian, hlow, hhigh, -⟩ := hreaches
  exact ⟨⟨_, .value hr⟩, hq1, hmedian, hlow, hhigh, Latency.mean_reaches hs hdurations hcount,
    List.forall_mem_nil _⟩

/-- Besides the upper quartile nothing of statistics is behind the end of an axis that goes by the
upper whisker and the mean. -/
theorem OfDurations.marks_le {s : Latency Float} (h : OfDurations s) {values : List Float}
    (hvalues : ∀ v ∈ values, ∃ t, Reaches v t) (hhigh : s.whiskerHigh ∈ values)
    (hmean : s.mean ∈ values) : ∀ v ∈ marks s, v ≤ axisEnd values := by
  obtain ⟨event, samples, hs, -, hdurations⟩ := h
  obtain ⟨c, hc, -, hnear⟩ := Latency.exists_values hs hdurations
  have hle : ∀ v ∈ [s.q1, s.median, s.whiskerLow, s.whiskerHigh], v ≤ axisEnd values := by
    intro v hv
    obtain ⟨b, hb, hclose⟩ := hnear v hv
    exact le_axis_end_tenth hvalues hhigh hc hb hclose
  simp only [marks, List.forall_mem_cons] at hle ⊢
  obtain ⟨hq1, hmedian, hlow, hhigh, -⟩ := hle
  exact ⟨hq1, hmedian, hlow, hhigh, le_axis_end_float hvalues hmean, List.forall_mem_nil _⟩

section Statistics

variable {stats : List (Latency Float)}

/-- The numbers that the axis goes by. -/
def reach (stats : List (Latency Float)) : List Float :=
  stats.flatMap fun s => [s.whiskerHigh, s.mean]

/-- The axis goes by the upper whisker and the mean of each event. -/
theorem mem_reach {s : Latency Float} (hs : s ∈ stats) :
    s.whiskerHigh ∈ reach stats ∧ s.mean ∈ reach stats :=
  ⟨List.mem_flatMap.mpr ⟨s, hs, by simp⟩, List.mem_flatMap.mpr ⟨s, hs, by simp⟩⟩

/-- The numbers that the axis goes by are not negative. -/
theorem reach_reaches (hstats : ∀ s ∈ stats, OfDurations s) :
    ∀ v ∈ reach stats, ∃ t, Reaches v t := by
  intro v hv
  obtain ⟨s, hs, hmem⟩ := List.mem_flatMap.mp hv
  rcases List.mem_pair.mp hmem with rfl | rfl
  · exact (hstats s hs).reaches _ (by simp [marks])
  · exact (hstats s hs).reaches _ (by simp [marks])

/-- A point of a box plot is within its axes, or an upper quartile behind the end. -/
theorem point_within (title xTitle : String) (hstats : ∀ s ∈ stats, OfDurations s)
    (hrows : stats.length < Number.powerOfTwo 64) :
    ∀ series ∈ (ofLatencies title xTitle stats).series, ∀ shape ∈ series.shapes,
      ∀ p ∈ shape.points, (ofLatencies title xTitle stats).x.range.low ≤ p.x ∧
        (p.x ≤ (ofLatencies title xTitle stats).x.range.high ∨ ∃ s ∈ stats, p.x = s.q3) ∧
        (ofLatencies title xTitle stats).y.range.Covers p.y := by
  intro series hseries shape hshape p hp
  obtain ⟨row, s, hrow, hx, hy⟩ := point_of_latencies hseries hshape hp
  obtain ⟨hlength, -⟩ := List.getElem?_eq_some_iff.mp hrow
  have hs := List.mem_of_getElem? hrow
  obtain ⟨t, ht⟩ := (hstats s hs).reaches _ hx
  refine ⟨ht.minus_one_le, ?_, row_heights_within hlength hrows _ hy⟩
  rcases List.mem_cons.mp hx with hquartile | hmark
  · exact Or.inr ⟨s, hs, hquartile⟩
  · obtain ⟨hhigh, hmean⟩ := mem_reach hs
    exact Or.inl ((hstats s hs).marks_le (reach_reaches hstats) hhigh hmean _ hmark)

/-- An upper quartile that its whisker leaves is not behind the end of the axis. -/
theorem OfDurations.upper_quartile_le {s : Latency Float} (h : OfDurations s)
    (hle : s.q3 ≤ s.whiskerHigh) {values : List Float} (hvalues : ∀ v ∈ values, ∃ t, Reaches v t)
    (hhigh : s.whiskerHigh ∈ values) : s.q3 ≤ axisEnd values := by
  obtain ⟨event, samples, hs, -, hdurations⟩ := h
  obtain ⟨c, hc, ⟨r, hr⟩, -⟩ := Latency.exists_values hs hdurations
  have hnonneg := hc.nonneg
  have hrc := (hr.le_iff hc).mp hle
  exact le_axis_end_tenth hvalues hhigh hc hr (by linarith)

end Statistics

/-- What a box plot draws outside of its axes. -/
structure KeepsToAxes (chart : Chart Float) (stats : List (Latency Float)) : Prop where
  /-- Nothing but an upper quartile is outside of the axes, and that only behind the end. -/
  within : ∀ series ∈ chart.series, ∀ shape ∈ series.shapes, ∀ p ∈ shape.points,
    chart.x.range.low ≤ p.x ∧ (p.x ≤ chart.x.range.high ∨ ∃ s ∈ stats, p.x = s.q3) ∧
      chart.y.range.Covers p.y
  /-- All is within the axes exactly if the upper quartiles are. -/
  covers_iff : chart.Covers ↔ ∀ s ∈ stats, s.q3 ≤ chart.x.range.high
  /-- All is within the axes if the upper whiskers leave their boxes. -/
  covers_of_whiskers : (∀ s ∈ stats, s.q3 ≤ s.whiskerHigh) → chart.Covers

/-- A box plot of records draws nothing but upper quartiles outside of its axes. -/
theorem box_plot_keeps_to_axes (title xTitle : String) {records : List Record}
    (hdurations : ∀ r ∈ records, r.durationNs.getD 0 < Number.powerOfTwo 64)
    (hcount : records.length < Number.powerOfTwo 64) :
    (ofLatencies title xTitle (Latency.ofRecords Float records)).KeepsToAxes
      (Latency.ofRecords Float records) := by
  have hstats := of_durations hdurations hcount
  have hrows := (Latency.length_of_records_le (α := Float) records).trans_lt hcount
  generalize Latency.ofRecords Float records = stats at hstats hrows
  have hwithin := point_within title xTitle hstats hrows
  have hcovers : (ofLatencies title xTitle stats).Covers ↔
      ∀ s ∈ stats, s.q3 ≤ (ofLatencies title xTitle stats).x.range.high := by
    refine ⟨fun h s hs => ?_, fun h series hseries shape hshape p hp => ?_⟩
    · obtain ⟨series, hseries, shape, hshape, p, hp, hx⟩ := upper_quartile_drawn hs
      rw [← hx]
      exact (h series hseries shape hshape p hp).1.2
    · obtain ⟨hlow, hhigh, hy⟩ := hwithin series hseries shape hshape p hp
      refine ⟨⟨hlow, hhigh.elim id ?_⟩, hy⟩
      rintro ⟨s, hs, hx⟩
      rw [hx]
      exact h s hs
  refine ⟨hwithin, hcovers, fun h => hcovers.mpr fun s hs => ?_⟩
  exact (hstats s hs).upper_quartile_le (h s hs) (reach_reaches hstats) (mem_reach hs).1

/-- All is within the axes for durations that lie apart. -/
theorem spread_calls_keep_to_axes :
    (∀ r ∈ Latency.spreadCalls, r.durationNs.getD 0 < Number.powerOfTwo 64) ∧
      Latency.spreadCalls.length < Number.powerOfTwo 64 ∧
      (ofLatencies "Time per Operation" "Time (ms)"
        (Latency.ofRecords Float Latency.spreadCalls)).Covers := by
  have hbounded : ∀ r ∈ Latency.spreadCalls, r.durationNs.getD 0 < Number.powerOfTwo 64 := by
    decide
  have hcount : Latency.spreadCalls.length < Number.powerOfTwo 64 := by decide
  have hkeeps := box_plot_keeps_to_axes "Time per Operation" "Time (ms)" hbounded hcount
  have hne : Latency.spreadCalls ≠ [] := List.cons_ne_nil _ _
  obtain ⟨s, hs, hstats⟩ := Latency.of_records_of_event (α := Float) hne
    (show ∀ r ∈ Latency.spreadCalls, r.event = "Seq" by decide)
  have hleaves : (Latency.ofSamples? "Seq" Latency.spread).all fun s =>
      decide (s.q3 ≤ s.whiskerHigh) := by
    simp only [Latency.ofSamples?, Latency.sorted_spread]
    decide +kernel
  rw [Latency.spread, hs] at hleaves
  refine ⟨hbounded, hcount, hkeeps.covers_of_whiskers fun t ht => ?_⟩
  rw [hstats, List.mem_singleton] at ht
  rw [ht]
  exact of_decide_eq_true hleaves

/-- Calls of which one takes much longer than the others. -/
def lateCalls : List Record :=
  [0, 0, 1000000, 6000000].map fun ns => ⟨0, 1, "Seq", some ns, none, [], false⟩

/-- The durations in milliseconds. -/
def late : List Float :=
  lateCalls.map (Record.durationMs Float)

/-- The samples are in order. -/
theorem sorted_late : Latency.sortedSamples late = late :=
  List.mergeSort_of_pairwise (by decide +kernel)

/-- The upper quartile of calls of which one takes much longer than the others is behind the end of
the axis. -/
theorem late_calls_leave_axis :
    lateCalls ≠ [] ∧ (∀ r ∈ lateCalls, r.durationNs.getD 0 < Number.powerOfTwo 64) ∧
      ¬(ofLatencies "Time per Operation" "Time (ms)"
        (Latency.ofRecords Float lateCalls)).Covers := by
  have hne : lateCalls ≠ [] := List.cons_ne_nil _ _
  refine ⟨hne, by decide, fun hcovers => ?_⟩
  obtain ⟨s, hs, hstats⟩ := Latency.of_records_of_event (α := Float) hne
    (show ∀ r ∈ lateCalls, r.event = "Seq" by decide)
  have hbehind : (Latency.ofSamples? "Seq" late).all fun s =>
      decide (¬s.q3 ≤ axisEnd [s.whiskerHigh, s.mean]) := by
    simp only [Latency.ofSamples?, sorted_late]
    decide +kernel
  rw [hstats] at hcovers
  rw [late, hs] at hbehind
  obtain ⟨series, hseries, shape, hshape, p, hp, hx⟩ := upper_quartile_drawn List.mem_cons_self
  have hwithin := (hcovers series hseries shape hshape p hp).1.2
  rw [hx] at hwithin
  exact of_decide_eq_true hbehind hwithin

end Chart

end CallProfile

import CallProfile.Proofs.Trace.Order
import CallProfile.Proofs.TraceEvent

/-!
# Time in the export

A viewer gets the start and the length of a call in microseconds, each rounded down by itself, and
draws a bar from the start to the sum of both. So a bar ends up to two microseconds before its call
(`Bar.lag`): rounding the sum would lose less than one, and one more is lost where the parts of
start and length below a microsecond make up a whole one together (`Record.BarShort`).

Bars never end late, which keeps the order of calls that do not overlap (`export_keeps_time_order`).
They do not end alike early, which keeps nested calls nested only up to one microsecond
(`export_nests_iff`).
-/

namespace CallProfile

/-- The nanoseconds at which a call began and ended. A call without a duration has no end. -/
def Record.spanNs? (r : Record) : Option (Nat × Nat) :=
  r.durationNs.map fun ns => (r.timestampNs, r.timestampNs + ns)

/-- The parts of start and duration below a microsecond make up a whole one together, so that the
bar of the call does not reach the microsecond in which the call ended. -/
def Record.BarShort (r : Record) : Prop :=
  ∃ ns ∈ r.durationNs, 1000 ≤ r.timestampNs % 1000 + ns % 1000

namespace TraceEvent

open Json (natural? read?)

/-! ## What a viewer reads -/

/-- The items of a list. -/
def items? : Json → Option (List Json)
  | .array items => some items
  | _ => none

/-- The events that a viewer reads from a text. -/
def readEvents? (text : String) : Option (List Json) :=
  (read? text).bind fun document => (document.field? "traceEvents").bind items?

/-- The microsecond at which an event starts. -/
def startUs? (event : Json) : Option Nat :=
  (event.field? "ts").bind natural?

/-- The microseconds from which and up to which an event is drawn as a bar. -/
def barUs? (event : Json) : Option (Nat × Nat) :=
  (startUs? event).bind fun start =>
    ((event.field? "dur").bind natural?).map fun length => (start, start + length)

/-- A span contains another one. -/
def Contains (outer inner : Nat × Nat) : Prop :=
  outer.1 ≤ inner.1 ∧ inner.2 ≤ outer.2

/-- The export is read as one event for each record, which shows the record. -/
theorem exists_shown (records : List Record) :
    ∃ events, readEvents? (exportText records) = some events ∧
      List.Forall₂ Shows records events := by
  refine ⟨(records.map ofRecord).map toJson, ?_, ?_⟩
  · have hspelled := numbers_spelled_document (records.map ofRecord)
    rw [readEvents?, exportText, Json.read_pretty hspelled]
    rfl
  · rw [List.map_map, List.forall₂_map_right_iff, List.forall₂_same]
    exact fun r _ => shows_of_record r

/-- An event starts at the timestamp in whole microseconds. -/
theorem Shows.start_us {r : Record} {event : Json} (h : Shows r event) :
    startUs? event = some (r.timestampNs / 1000) :=
  h.start

/-! ## Bars -/

/-- How the bar of a call lies in the span of the call. -/
structure Bar (r : Record) (span bar : Nat × Nat) : Prop where
  starts : bar.1 = span.1 / 1000
  /-- A bar ends in the microsecond in which the call ended, or in the one before if it is short. -/
  ends : ¬ r.BarShort ∧ bar.2 = span.2 / 1000 ∨ r.BarShort ∧ bar.2 + 1 = span.2 / 1000

/-- An event with a duration is a bar of start and duration in whole microseconds. -/
theorem Shows.bar_of_duration {r : Record} {event : Json} (h : Shows r event) {ns : Nat}
    (hns : r.durationNs = some ns) :
    barUs? event = some (r.timestampNs / 1000, r.timestampNs / 1000 + ns / 1000) := by
  rw [barUs?, h.start_us, (h.bar ns hns).2.1]
  rfl

/-- The event of a call with an end is a bar. -/
theorem Shows.bar_us {r : Record} {event : Json} (h : Shows r event) {span : Nat × Nat}
    (hspan : r.spanNs? = some span) : ∃ bar, barUs? event = some bar ∧ Bar r span bar := by
  obtain ⟨ns, hns, rfl⟩ := Option.map_eq_some_iff.mp hspan
  have hshort : r.BarShort ↔ 1000 ≤ r.timestampNs % 1000 + ns % 1000 := by
    simp [Record.BarShort, hns]
  refine ⟨_, h.bar_of_duration hns, rfl, ?_⟩
  rw [hshort]
  dsimp only
  omega

/-- A bar ends no later than its call and less than two microseconds before it. -/
theorem Bar.lag {r : Record} {span bar : Nat × Nat} (h : Bar r span bar) :
    1000 * bar.2 ≤ span.2 ∧ span.2 < 1000 * bar.2 + 2000 := by
  have hends := h.ends
  omega

/-! ## Order -/

/-- The events keep the order of the records in time. -/
structure KeepsTimeOrder (records : List Record) (events : List Json) : Prop where
  /-- There is one event for each record, in the order of the records. -/
  length_eq : events.length = records.length
  /-- If timestamps never decrease, neither do the starts of events. -/
  ascending : records.Pairwise (fun a b => a.timestampNs ≤ b.timestampNs) →
    ∃ starts : List Nat, events.map startUs? = starts.map some ∧ starts.Pairwise (· ≤ ·)
  /-- If a call ends before another one begins, its bar ends before the other event starts. -/
  apart {a b : Record} {first second : Json} {span : Nat × Nat} :
    (a, first) ∈ records.zip events → (b, second) ∈ records.zip events →
    a.spanNs? = some span → span.2 ≤ b.timestampNs →
    ∃ bar start, barUs? first = some bar ∧ startUs? second = some start ∧ bar.2 ≤ start
  /-- A bar ends no later than its call and less than two microseconds before it. -/
  lag {r : Record} {event : Json} {span : Nat × Nat} :
    (r, event) ∈ records.zip events → r.spanNs? = some span →
    ∃ bar, barUs? event = some bar ∧ 1000 * bar.2 ≤ span.2 ∧ span.2 < 1000 * bar.2 + 2000

/-- Events that show the records start at their timestamps in whole microseconds. -/
theorem starts_of_shown {records : List Record} {events : List Json}
    (h : List.Forall₂ Shows records events) :
    events.map startUs? = (records.map (·.timestampNs / 1000)).map some := by
  induction h with
  | nil => rfl
  | cons hshows _ ih => rw [List.map_cons, List.map_cons, List.map_cons, hshows.start_us, ih]

/-- Events that show the records keep their order in time. -/
theorem keeps_time_order_of_shown {records : List Record} {events : List Json}
    (h : List.Forall₂ Shows records events) : KeepsTimeOrder records events where
  length_eq := h.length_eq.symm
  ascending hsorted := by
    refine ⟨_, starts_of_shown h, List.pairwise_map.mpr (hsorted.imp fun hle => ?_)⟩
    exact Nat.div_le_div_right hle
  apart hfirst hsecond hspan hle := by
    obtain ⟨-, hshows⟩ := List.forall₂_iff_zip.mp h
    obtain ⟨bar, hbar, hlies⟩ := (hshows hfirst).bar_us hspan
    have hlag := hlies.lag.1
    exact ⟨bar, _, hbar, (hshows hsecond).start_us, by omega⟩
  lag hevent hspan := by
    obtain ⟨bar, hbar, hlies⟩ := ((List.forall₂_iff_zip.mp h).2 hevent).bar_us hspan
    exact ⟨bar, hbar, hlies.lag⟩

/-- The events that a viewer reads from an export keep the order of the records in time. The events
of a trace never go back in time. -/
theorem export_keeps_time_order :
    (∀ records, ∃ events, readEvents? (exportText records) = some events ∧
      KeepsTimeOrder records events) ∧
    ∀ texts, ∃ events, ∃ starts : List Nat,
      readEvents? (exportText (Trace.ofTexts texts).records) = some events ∧
      events.map startUs? = starts.map some ∧ starts.Pairwise (· ≤ ·) := by
  refine ⟨fun records => ?_, fun texts => ?_⟩
  · obtain ⟨events, hread, hshown⟩ := exists_shown records
    exact ⟨events, hread, keeps_time_order_of_shown hshown⟩
  · obtain ⟨events, hread, hshown⟩ := exists_shown (Trace.ofTexts texts).records
    obtain ⟨starts, hstarts, hsorted⟩ := (keeps_time_order_of_shown hshown).ascending
      (Trace.in_time_order_of_texts texts).ascending
    exact ⟨events, starts, hread, hstarts, hsorted⟩

/-- A call that ends shortly before the last timestamp of 64 bits. -/
def lastCall : Record :=
  ⟨18446744073709549615, 1, "Seq", some 1385, none, [], false⟩

/-- A mark at the end of the call. -/
def lastMark : Record :=
  ⟨18446744073709551000, 1, "TXEnd", none, none, [], false⟩

/-- The bar of the call ends before the mark. -/
theorem last_call_apart :
    [lastCall, lastMark].Pairwise (fun a b => a.timestampNs ≤ b.timestampNs) ∧
      ∃ first second, readEvents? (exportText [lastCall, lastMark]) = some [first, second] ∧
        ∃ bar start, barUs? first = some bar ∧ startUs? second = some start ∧ bar.2 ≤ start := by
  obtain ⟨events, hread, hkeeps⟩ := export_keeps_time_order.1 [lastCall, lastMark]
  obtain ⟨first, second, rfl⟩ := List.length_eq_two.mp hkeeps.length_eq
  have hsecond : (lastMark, second) ∈ [lastCall, lastMark].zip [first, second] :=
    List.mem_cons_of_mem _ List.mem_cons_self
  exact ⟨by decide, first, second, hread,
    hkeeps.apart (a := lastCall) List.mem_cons_self hsecond rfl (by decide)⟩

/-! ## Nesting -/

/-- How the bars of two calls lie if the call of one holds the other. -/
structure Nests (outer inner : Record) (outerSpan innerSpan outerBar innerBar : Nat × Nat) :
    Prop where
  /-- The inner bar does not start before the outer one. -/
  starts : outerBar.1 ≤ innerBar.1
  /-- It ends one microsecond after it at most. -/
  ends : innerBar.2 ≤ outerBar.2 + 1
  /-- It ends after it exactly if both calls end in the same microsecond, which the outer bar does
  not reach and the inner one does. -/
  contains_iff : Contains outerBar innerBar ↔
    ¬ (outerSpan.2 / 1000 = innerSpan.2 / 1000 ∧ outer.BarShort ∧ ¬ inner.BarShort)

/-- The bars of nested calls. -/
theorem Bar.nests {outer inner : Record} {outerSpan innerSpan outerBar innerBar : Nat × Nat}
    (houter : Bar outer outerSpan outerBar) (hinner : Bar inner innerSpan innerBar)
    (h : Contains outerSpan innerSpan) :
    Nests outer inner outerSpan innerSpan outerBar innerBar := by
  obtain ⟨hstart, hstop⟩ := h
  have hfirst : outerBar.1 ≤ innerBar.1 := by
    rw [houter.starts, hinner.starts]
    exact Nat.div_le_div_right hstart
  have hends : innerSpan.2 / 1000 ≤ outerSpan.2 / 1000 := Nat.div_le_div_right hstop
  have hcontains : Contains outerBar innerBar ↔ innerBar.2 ≤ outerBar.2 := and_iff_right hfirst
  rcases houter.ends with ⟨hlong, hout⟩ | ⟨hshort, hout⟩
  · -- The outer bar reaches the microsecond in which its call ended, and no inner bar leaves it.
    have hle : innerBar.2 ≤ outerBar.2 := by
      have hlag := hinner.lag.1
      omega
    exact ⟨hfirst, by omega, by simp [hcontains, hlong, hle]⟩
  · rcases hinner.ends with ⟨hlong, hin⟩ | ⟨hshort', hin⟩
    · refine ⟨hfirst, by omega, ?_⟩
      simp only [hcontains, hshort, hlong, not_false_eq_true, and_true]
      omega
    · exact ⟨hfirst, by omega, iff_of_true (hcontains.mpr (by omega)) fun h => h.2.2 hshort'⟩

/-- The bars that a viewer reads from an export for two calls, one of which holds the other, start
in the right order and end so up to one microsecond. The outer bar holds the inner one except where
both calls end in the same microsecond, which the outer bar does not reach and the inner one
does. -/
theorem export_nests_iff (records : List Record) :
    ∃ events, readEvents? (exportText records) = some events ∧ events.length = records.length ∧
      ∀ outer outerEvent, (outer, outerEvent) ∈ records.zip events →
      ∀ inner innerEvent, (inner, innerEvent) ∈ records.zip events →
      ∀ outerSpan, outer.spanNs? = some outerSpan → ∀ innerSpan, inner.spanNs? = some innerSpan →
      Contains outerSpan innerSpan →
      ∃ outerBar innerBar, barUs? outerEvent = some outerBar ∧ barUs? innerEvent = some innerBar ∧
        Nests outer inner outerSpan innerSpan outerBar innerBar := by
  obtain ⟨events, hread, hshown⟩ := exists_shown records
  obtain ⟨hlength, hshows⟩ := List.forall₂_iff_zip.mp hshown
  refine ⟨events, hread, hlength.symm, ?_⟩
  intro outer outerEvent houter inner innerEvent hinner outerSpan houterSpan innerSpan hinnerSpan h
  obtain ⟨outerBar, houterBar, houterLies⟩ := (hshows houter).bar_us houterSpan
  obtain ⟨innerBar, hinnerBar, hinnerLies⟩ := (hshows hinner).bar_us hinnerSpan
  exact ⟨outerBar, innerBar, houterBar, hinnerBar, houterLies.nests hinnerLies h⟩

/-- A call and one within it that ends in the same microsecond. -/
def shortCalls : Record × Record :=
  (⟨500, 1, "access(tx)", some 2700, none, [], true⟩, ⟨900, 1, "Seq", some 2200, none, [], false⟩)

/-- Neither bar reaches that microsecond, so the bar of the one contains that of the other. -/
theorem short_calls_nest :
    Contains (500, 3200) (900, 3100) ∧
      ∃ outer inner, readEvents? (exportText [shortCalls.1, shortCalls.2]) = some [outer, inner] ∧
        ∃ outerBar innerBar, barUs? outer = some outerBar ∧ barUs? inner = some innerBar ∧
          Contains outerBar innerBar := by
  have hspans : Contains (500, 3200) (900, 3100) := ⟨by decide, by decide⟩
  have hinner : shortCalls.2.BarShort := ⟨2200, rfl, by decide⟩
  obtain ⟨events, hread, hlength, hnests⟩ := export_nests_iff [shortCalls.1, shortCalls.2]
  obtain ⟨first, second, rfl⟩ := List.length_eq_two.mp hlength
  obtain ⟨outerBar, innerBar, houterBar, hinnerBar, h⟩ :=
    hnests shortCalls.1 first List.mem_cons_self shortCalls.2 second
      (List.mem_cons_of_mem _ List.mem_cons_self) (500, 3200) rfl (900, 3100) rfl hspans
  exact ⟨hspans, first, second, hread, outerBar, innerBar, houterBar, hinnerBar,
    h.contains_iff.mpr fun hlost => hlost.2.2 hinner⟩

/-- The lines of a call and of one within it that begins a nanosecond later and ends with it. -/
def joinedLines : String :=
  "999 1 | access(tx) [dur] 1001\n1000 1 | Seq [dur] 1000\n"

/-- The calls of the lines. -/
def joinedCalls : Record × Record :=
  (⟨999, 1, "access(tx)", some 1001, none, [], true⟩, ⟨1000, 1, "Seq", some 1000, none, [], false⟩)

/-- The bar of the inner call ends a microsecond after that of the outer one. -/
theorem joined_calls_not_nested :
    (LineReport.ofText joinedLines).records = [joinedCalls.1, joinedCalls.2] ∧
      joinedCalls.1.threadId = joinedCalls.2.threadId ∧
      joinedCalls.1.spanNs? = some (999, 2000) ∧ joinedCalls.2.spanNs? = some (1000, 2000) ∧
      Contains (999, 2000) (1000, 2000) ∧
      ∃ outer inner, readEvents? (exportText [joinedCalls.1, joinedCalls.2]) = some [outer, inner] ∧
        barUs? outer = some (0, 1) ∧ barUs? inner = some (1, 2) ∧ ¬ Contains (0, 1) (1, 2) := by
  refine ⟨by decide +kernel, rfl, rfl, rfl, ⟨by decide, by decide⟩, ?_⟩
  obtain ⟨events, hread, hshown⟩ := exists_shown [joinedCalls.1, joinedCalls.2]
  obtain ⟨outer, inner, rfl⟩ := List.length_eq_two.mp hshown.length_eq.symm
  obtain ⟨houter, hrest⟩ := List.forall₂_cons.mp hshown
  obtain ⟨hinner, -⟩ := List.forall₂_cons.mp hrest
  exact ⟨outer, inner, hread, houter.bar_of_duration rfl, hinner.bar_of_duration rfl,
    fun h => absurd h.2 (by decide)⟩

end TraceEvent

end CallProfile

import CallProfile.Proofs.Chart.Drawing
import CallProfile.Proofs.Number.Positive

/-!
# What becomes of a chart

The records and the options decide what a chart comes to, for every kind (`pictures_outcome`). The
mean times are the ones that need an argument about rounding: they are told from zero by a
comparison in binary64. What a run leaves behind follows from the plotter: a chart without pictures
touches nothing, and one with pictures has each of its files drawn once. The main result is
`draw_decided`.
-/

namespace CallProfile

open Number (Scalar)
open Number.Binary64 (IsZero Large parts)

/-! ## Mean times -/

/-- A duration is zero, or large enough to stay above zero in means. -/
theorem Record.duration_parts (r : Record) :
    r.durationNs.getD 0 = 0 ∧ IsZero (r.durationMs Float) ∨
      r.durationNs.getD 0 ≠ 0 ∧ Large (-74) (parts (r.durationMs Float)) := by
  have hmillion : nanosPerMs.log2 = 19 := by decide
  have hnanos := Number.Binary64.normal_of_nat (show 0 < nanosPerMs by decide) (by decide)
  rw [hmillion] at hnanos
  have hparts : parts (r.durationMs Float) =
      parts (Float.ofNat (r.durationNs.getD 0) / Float.ofNat nanosPerMs) := rfl
  unfold IsZero
  rw [hparts, Number.Binary64.parts_div]
  by_cases hzero : r.durationNs.getD 0 = 0
  · have hnone : parts (Float.ofNat 0) = .zero .positive := rfl
    rw [hzero, hnone, hnanos.zero_div]
    exact Or.inl ⟨rfl, rfl⟩
  · have hlarge := Number.Binary64.large_of_nat (Nat.pos_of_ne_zero hzero)
    exact Or.inr ⟨hzero, (hlarge.div hnanos (by decide) (by decide)).stored (by decide)⟩

/-- A duration is zero exactly if its nanoseconds are. -/
theorem Record.is_zero_duration {r : Record} :
    IsZero (r.durationMs Float) ↔ r.durationNs.getD 0 = 0 := by
  rcases r.duration_parts with ⟨hnone, hzero⟩ | ⟨hsome, hlarge⟩
  · exact ⟨fun _ => hnone, fun _ => hzero⟩
  · exact ⟨fun hzero => absurd hzero hlarge.not_is_zero, fun hnone => absurd hnone hsome⟩

namespace Transaction

/-- At most all records are inside. -/
theorem length_inside_le (records : List Record) :
    (inside .empty records).length ≤ records.length := by
  rw [inside_eq_positions]
  calc
    _ ≤ ((List.range records.length).filter (insideAt records)).length :=
      List.length_filterMap_le _ _
    _ ≤ (List.range records.length).length := List.length_filter_le _ _
    _ = records.length := List.length_range

/-- No mean time is above zero exactly if no record inside has a duration. A list has a length of 64
bits, which is what the rounding leaves room for. -/
theorem mean_times_at_most_zero {records : List Record}
    (hsize : records.length < Number.powerOfTwo 64) :
    ((meanTimes Float records).all fun (_, ms) => Scalar.atMost ms 0.0) = true ↔
      ∀ r ∈ inside .empty records, r.durationNs.getD 0 = 0 := by
  have hmean : ∀ event ∈ ((inside .empty records).map (·.event)).eraseDups,
      (Scalar.atMost ((((inside .empty records).filter (·.isEvent event)).map
          (·.durationMs Float)).foldl (· + ·) 0.0 /
        Scalar.ofNat ((inside .empty records).filter (·.isEvent event)).length) 0.0 = true ↔
        ∀ r ∈ (inside .empty records).filter (·.isEvent event), r.durationNs.getD 0 = 0) := by
    intro event hevent
    obtain ⟨r, hr, hname⟩ := List.mem_map.mp (List.mem_eraseDups.mp hevent)
    have hown : r ∈ (inside .empty records).filter (·.isEvent event) :=
      List.mem_filter.mpr ⟨hr, by simp [Record.isEvent, hname]⟩
    have hcount := (List.length_filter_le (·.isEvent event) (inside .empty records)).trans
      (length_inside_le records)
    rw [Number.Binary64.mean_at_most_zero (-74) (by decide) ?_ (List.length_pos_of_mem hown)
      (Nat.lt_of_le_of_lt hcount hsize), List.forall_mem_map]
    · exact forall₂_congr fun r _ => r.is_zero_duration
    · intro v hv
      obtain ⟨r, -, rfl⟩ := List.mem_map.mp hv
      exact r.duration_parts.imp And.right And.right
  unfold meanTimes
  rw [List.all_map, List.all_eq_true]
  constructor
  · intro hall r hr
    have hevent : r.event ∈ ((inside .empty records).map (·.event)).eraseDups :=
      List.mem_eraseDups.mpr (List.mem_map_of_mem hr)
    exact (hmean r.event hevent).mp (hall r.event hevent) r
      (List.mem_filter.mpr ⟨hr, by simp [Record.isEvent]⟩)
  · intro hall event hevent
    exact (hmean event hevent).mpr fun r hr => hall r (List.mem_filter.mp hr).1

end Transaction

/-! ## Pictures -/

namespace ChartKind

variable {kind : ChartKind} {records : List Record} {options : PlotOptions}

/-- A pie of call counts comes to its outcome. -/
theorem share_outcome {title : String} {counts : List (String × Nat)}
    (hlacks : PlotRequest.lacksTable options kind = false)
    (hempty : (Share.fold counts options.otherThreshold).isEmpty = true ↔
      ¬kind.Shows records options.tableId)
    (hfiles : kind.files.length = 1) :
    Outcome kind records options (kind.sharePictures options title counts) :=
  outcome_unless_empty hlacks hempty hfiles.symm

/-- The records and the options decide what a chart comes to. -/
theorem pictures_outcome (kind : ChartKind) (options : PlotOptions)
    (hsize : records.length < Number.powerOfTwo 64) :
    Outcome kind records options (kind.pictures records options) := by
  by_cases hkind : kind ∈ withAxes
  · exact pictures_outcome_with_axes hkind records options
  cases kind with
  | allOps =>
      refine share_outcome rfl ?_ rfl
      rw [Share.is_empty_events]
      exact not_not.symm
  | allMethods =>
      refine share_outcome rfl ?_ rfl
      rw [Share.is_empty_methods]
      simp [Shows, CallFilter.keeps]
  | allMethodsTx =>
      refine share_outcome rfl ?_ rfl
      rw [Share.is_empty_methods]
      rfl
  | allMethodsById =>
      cases htable : options.tableId with
      | none =>
          have hlacks : PlotRequest.lacksTable options .allMethodsById = true := by
            simp [PlotRequest.lacksTable, needsTable, htable]
          simp only [pictures, chosenTable, htable]
          exact .missing hlacks
      | some table =>
          have hlacks : PlotRequest.lacksTable options .allMethodsById = false := by
            simp [PlotRequest.lacksTable, htable]
          simp only [pictures, chosenTable, htable]
          refine share_outcome hlacks ?_ rfl
          rw [Share.is_empty_methods]
          simp [Shows, CallFilter.keeps, Record.namesTable, htable]
  | txOpTime =>
      refine outcome_unless_empty rfl ?_ rfl
      rw [Transaction.mean_times_at_most_zero hsize]
      simp only [Transaction.mem_inside, Shows]
      grind
  | activeThreads | seqCalls | opsPerTx | tableOps | tableOpsPerTx | tableIdOpsPerTx | opLatency
  | reads => simp [withAxes] at hkind

end ChartKind

/-! ## Actions in a session -/

section Actions

variable {α β : Type}

/-- Whatever the session, what the action gives has the property. -/
def Gives (property : α → Prop) (action : StateM Session α) : Prop :=
  ∀ s, property (action s).1

/-- An action that does nothing gives its result. -/
theorem Gives.pure {property : α → Prop} {result : α} (h : property result) :
    Gives property (pure result) :=
  fun _ => h

/-- What the second of two actions gives may rest on what the first one gave. -/
theorem Gives.bind {property : α → Prop} {outcome : β → Prop} {action : StateM Session α}
    {next : α → StateM Session β} (h : Gives property action)
    (hnext : ∀ a, property a → Gives outcome (next a)) : Gives outcome (action >>= next) :=
  fun s => hnext _ (h s) _

/-- What the second of two actions gives, whatever the first one gave. -/
theorem Gives.after {outcome : β → Prop} {action : StateM Session α}
    {next : α → StateM Session β} (h : ∀ a, Gives outcome (next a)) :
    Gives outcome (action >>= next) :=
  fun _ => h _ _

/-- Actions for all members of a list give what each of them gives. -/
theorem Gives.mapM {property : β → Prop} {act : α → StateM Session β} {items : List α}
    (h : ∀ item ∈ items, Gives property (act item)) :
    Gives (fun results => ∀ result ∈ results, property result) (items.mapM act) := by
  induction items with
  | nil =>
      intro s result hresult
      cases hresult
  | cons item items ih =>
      rw [List.mapM_cons]
      refine (h item List.mem_cons_self).bind fun first hfirst => ?_
      refine (ih fun other hother => h other (List.mem_cons_of_mem item hother)).bind
        fun rest hrest => ?_
      intro s result hresult
      rcases List.mem_cons.mp hresult with rfl | hlater
      · exact hfirst
      · exact hrest result hlater

end Actions

/-! ## Files -/

/-- A name that is not absolute is the end of its path. -/
theorem Path.join_injective {directory name other : String} (hname : isAbsolute name = false)
    (hother : isAbsolute other = false) (h : join directory name = join directory other) :
    name = other := by
  unfold join at h
  rw [hname, hother, if_neg Bool.false_ne_true, if_neg Bool.false_ne_true] at h
  split at h
  · exact (String.append_right_inj directory).mp h
  · exact (String.append_right_inj (directory ++ "/")).mp h

namespace ChartKind

variable {kind : ChartKind} {records : List Record} {options : PlotOptions} {s : Session}

/-- The files of a kind are different ones, in every directory. -/
theorem nodup_paths (kind : ChartKind) (directory : String) : (kind.paths directory).Nodup := by
  have hfiles : kind.files.Nodup ∧ ∀ file ∈ kind.files, Path.isAbsolute file = false := by
    cases kind <;> decide +kernel
  refine hfiles.1.map_on fun file hfile other hother h => ?_
  exact Path.join_injective (hfiles.2 file hfile) (hfiles.2 other hother) h

/-! ## Charts -/

/-- What becomes of a chart in a session, decided by its kind, the records and the options. -/
structure DrawDecided (kind : ChartKind) (records : List Record) (options : PlotOptions)
    (s : Session) (run : ChartResult × Session) : Prop where
  /-- It fails without a table exactly if it needs one and none is set. -/
  missing : ∀ name, run.1.files = .error (.missingTableId name) ↔
    name = kind.name ∧ kind.needsTable = true ∧ options.tableId = none
  /-- Otherwise it fails as empty exactly if there is nothing to show. -/
  empty : ∀ name, run.1.files = .error (.emptyChart name) ↔
    name = kind.name ∧ ¬(kind.needsTable = true ∧ options.tableId = none) ∧
      ¬kind.Shows records options.tableId
  /-- In both cases the session stays as it is. -/
  untouched : kind.needsTable = true ∧ options.tableId = none ∨
    ¬kind.Shows records options.tableId → run.2 = s
  /-- Otherwise there is a picture for each file. With a plotter that stores pictures, if the files
  can be written they are listed, in order, and the disk is the one with each of them written
  once. -/
  written : ¬(kind.needsTable = true ∧ options.tableId = none) →
    kind.Shows records options.tableId →
    ∃ pictures, kind.pictures records options = .ok pictures ∧
      pictures.length = kind.files.length ∧
      ∀ bytes, s.plotter.Stores bytes → ∀ disk, s.disk.writeAll
          ((kind.paths options.outputDir).zip (pictures.map (bytes options.size))) = .ok disk →
        run.1.files = .ok (kind.paths options.outputDir) ∧ run.2.disk = disk
  /-- No two files have the same path. -/
  distinct : (kind.paths options.outputDir).Nodup

/-- A chart lacks its table exactly if it needs one and none is set. -/
theorem lacks_table_iff :
    PlotRequest.lacksTable options kind = true ↔
      kind.needsTable = true ∧ options.tableId = none := by
  simp [PlotRequest.lacksTable]

/-- A chart without pictures fails for the same reason, and touches nothing. -/
theorem draw_of_error (console : Console) {failure : Failure}
    (h : kind.pictures records options = .error failure) (s : Session) :
    (draw console records options kind : StateM Session ChartResult) s =
      (⟨kind, .error failure⟩, s) := by
  unfold draw
  rw [h]
  rfl

/-- A chart that lacks its table, or has nothing to show, is decided. -/
theorem decided_of_failure {failure : Failure} (s : Session)
    (h : Outcome kind records options (.error failure : Except Failure (List (Picture Float)))) :
    DrawDecided kind records options s (⟨kind, .error failure⟩, s) := by
  have hdistinct := nodup_paths kind options.outputDir
  cases h with
  | missing hlacks =>
      have hneeds := lacks_table_iff.mp hlacks
      refine ⟨fun name => ⟨fun hmissing => ?_, ?_⟩, fun name => ⟨nofun, fun hno => ?_⟩,
        fun _ => rfl, fun hno => absurd hneeds hno, hdistinct⟩
      · exact ⟨(Failure.missingTableId.inj (Except.error.inj hmissing)).symm, hneeds⟩
      · rintro ⟨rfl, -⟩
        rfl
      · exact absurd hneeds hno.2.1
  | empty hlacks hshows =>
      have hneeds := lacks_table_iff.not.mp (Bool.not_eq_true _ ▸ hlacks)
      refine ⟨fun name => ⟨nofun, fun hno => absurd hno.2 hneeds⟩,
        fun name => ⟨fun hempty => ?_, ?_⟩, fun _ => rfl, fun _ hshow => absurd hshow hshows,
        hdistinct⟩
      · exact ⟨(Failure.emptyChart.inj (Except.error.inj hempty)).symm, hneeds, hshows⟩
      · rintro ⟨rfl, -⟩
        rfl

/-- A chart with pictures is decided. -/
theorem decided_of_pictures (console : Console) {pictures : List (Picture Float)} (s : Session)
    (hpictures : kind.pictures records options = .ok pictures)
    (h : Outcome kind records options (.ok pictures)) :
    DrawDecided kind records options s
      ((draw console records options kind : StateM Session ChartResult) s) := by
  obtain ⟨hlacks, hshows⟩ := h.shows
  have hneeds := lacks_table_iff.not.mp (Bool.not_eq_true _ ▸ hlacks)
  have hlength := h.length_drawn
  have hcount := (length_paths kind options.outputDir).trans hlength.symm
  have hdrawn : drawnOn records options s.plotter kind s.disk =
      (⟨kind, (writtenOn s.plotter options.size s.disk
          ((kind.paths options.outputDir).zip pictures)).1⟩,
        (writtenOn s.plotter options.size s.disk
          ((kind.paths options.outputDir).zip pictures)).2) := by
    unfold drawnOn
    rw [hpictures]
  obtain ⟨_, -, hrun⟩ := does_draw (s := s) console records options kind
  rw [hrun, hdrawn]
  refine ⟨fun name => ?_, fun name => ?_, fun hno => ?_, fun _ _ => ?_, nodup_paths _ _⟩
  · simp only [hneeds, and_false, iff_false]
    intro hmissing
    obtain ⟨_, _, hunwritten⟩ := unwritten_of_error hmissing
    cases hunwritten
  · simp only [hshows, not_true_eq_false, and_false, iff_false]
    intro hempty
    obtain ⟨_, _, hunwritten⟩ := unwritten_of_error hempty
    cases hunwritten
  · exact absurd hshows (hno.resolve_left hneeds)
  · refine ⟨pictures, hpictures, hlength, fun bytes hstores disk hdisk => ?_⟩
    rw [List.zip_map_right] at hdisk
    have hall := written_of_stores hstores hdisk
    rw [List.map_fst_zip hcount.le] at hall
    rw [hall]
    exact ⟨rfl, rfl⟩

/-- A chart in a session is decided. -/
theorem draw_decided_of_records (console : Console) (kind : ChartKind) (options : PlotOptions)
    (hsize : records.length < Number.powerOfTwo 64) (s : Session) :
    DrawDecided kind records options s
      ((draw console records options kind : StateM Session ChartResult) s) := by
  have houtcome := pictures_outcome kind options hsize
  cases hpictures : kind.pictures records options with
  | error failure =>
      rw [hpictures] at houtcome
      rw [draw_of_error console hpictures]
      exact decided_of_failure s houtcome
  | ok pictures =>
      rw [hpictures] at houtcome
      exact decided_of_pictures console s hpictures houtcome

end ChartKind

/-! ## The default selection -/

/-- A chart failed for a reason exactly if that stands in place of its files. -/
theorem ChartResult.failure_eq_some_iff {result : ChartResult} {failure : Failure} :
    result.failure? = some failure ↔ result.files = .error failure := by
  unfold failure?
  split
  · next h => simp [h]
  · next h => simp [h]

/-- A report of charts adds the number of failures to what they failed for. -/
theorem PlotReport.mem_failures_of_results {results : List ChartResult} {failure : Failure}
    (h : failure ∈ (ofResults results).failures) :
    (∃ result ∈ results, result.files = .error failure) ∨
      ∃ failed total, failure = .chartsFailed failed total := by
  have hown : failure ∈ results.filterMap (·.failure?) →
      ∃ result ∈ results, result.files = .error failure := by
    intro hmem
    obtain ⟨result, hresult, hfailure⟩ := List.mem_filterMap.mp hmem
    exact ⟨result, hresult, ChartResult.failure_eq_some_iff.mp hfailure⟩
  simp only [ofResults, counted] at h
  split at h
  · exact Or.inl (hown h)
  · rcases List.mem_append.mp h with hmem | hlast
    · exact Or.inl (hown hmem)
    · exact Or.inr ⟨_, _, List.mem_singleton.mp hlast⟩

namespace PlotRequest

variable {request : PlotRequest} {options : PlotOptions}

/-- No chart of the default selection needs a table without one being set. -/
theorem needs_of_selected (hdefault : request.charts = []) {kind : ChartKind}
    (hkind : kind ∈ request.selected options) :
    ¬(kind.needsTable = true ∧ options.tableId = none) := by
  rw [selected, hdefault] at hkind
  have hlacks := (List.mem_filter.mp hkind).2
  rw [← ChartKind.lacks_table_iff]
  simpa using hlacks

/-- The default selection never fails for want of a table. -/
theorem default_not_missing (console : Console) {records : List Record}
    (hdefault : request.charts = []) (hsize : records.length < Number.powerOfTwo 64) :
    Gives (fun report : PlotReport => ∀ name, .missingTableId name ∉ report.failures)
      (request.draw console options records) := by
  have hcharts : ∀ kind ∈ request.selected options,
      Gives (fun result : ChartResult => ∀ name, result.files ≠ .error (.missingTableId name))
        (ChartKind.draw console records options kind) := by
    intro kind hkind s name hmissing
    have hdecided := ChartKind.draw_decided_of_records console kind options hsize s
    exact needs_of_selected hdefault hkind ((hdecided.missing name).mp hmissing).2
  unfold draw
  refine Gives.after fun _ => Gives.after fun made => ?_
  cases made with
  | error fault => exact Gives.pure fun name hname => by simp at hname
  | ok _ =>
      refine Gives.after fun _ => (Gives.mapM hcharts).bind fun results hresults => Gives.pure ?_
      intro name hname
      rcases PlotReport.mem_failures_of_results hname with
        ⟨result, hresult, hfiles⟩ | ⟨_, _, hcount⟩
      · exact hresults result hresult name hfiles
      · cases hcount

end PlotRequest

/-- What becomes of a chart is decided by its kind, the records and the options, in every session. A
list has a length of 64 bits. So the default selection never fails for want of a table. -/
theorem draw_decided (console : Console) (kind : ChartKind) {records : List Record}
    (options : PlotOptions) (hsize : records.length < Number.powerOfTwo 64) (s : Session) :
    ChartKind.DrawDecided kind records options s
        ((kind.draw console records options : StateM Session ChartResult) s) ∧
      ∀ request : PlotRequest, request.charts = [] → ∀ name,
        .missingTableId name ∉
          ((request.draw console options records : StateM Session PlotReport) s).1.failures :=
  ⟨ChartKind.draw_decided_of_records console kind options hsize s, fun _ hdefault =>
    PlotRequest.default_not_missing console hdefault hsize s⟩

/-- A session whose disk has a directory for charts. -/
def chartSession : Session :=
  .start ⟨[(["charts"], .directory)]⟩ []

/-- A file can be written to the directory. -/
theorem write_chart (bytes : List UInt8) :
    chartSession.disk.write "charts/count_table_ops.png" bytes =
      .ok (chartSession.disk.put ["charts", "count_table_ops.png"] (.file bytes)) := by
  have hparts : Path.parts "charts/count_table_ops.png" = ["charts", "count_table_ops.png"] := by
    decide +kernel
  have hsizes : "charts".utf8ByteSize = 6 ∧ "count_table_ops.png".utf8ByteSize = 19 ∧
      "charts/count_table_ops.png".utf8ByteSize = 26 := by
    decide +kernel
  have hplain : Path.isAbsolute "charts/count_table_ops.png" = false ∧
      Path.endsInSlash "charts/count_table_ops.png" = false := by
    decide +kernel
  simp [Disk.write, Disk.locate, hparts, hsizes, hplain, Disk.pathLimit, Disk.nameLimit, Disk.walk,
    Disk.entry?, chartSession, Session.start, List.lookup_cons]

/-- The use of tables of a transaction with calls on two tables is drawn to its file. The trace has
no call of the sequencer, and the calls on one table are asked for without a table. -/
theorem mixed_calls_drawn :
    ((ChartKind.tableOps.draw .quiet Transaction.mixedCalls ChartKind.smallOptions :
        StateM Session ChartResult) chartSession).1.files =
        .ok ["charts/count_table_ops.png"] ∧
      ((ChartKind.seqCalls.draw .quiet Transaction.mixedCalls ChartKind.smallOptions :
        StateM Session ChartResult) chartSession).1.files = .error (.emptyChart "seq-calls") ∧
      ((ChartKind.tableIdOpsPerTx.draw .quiet Transaction.mixedCalls
          { ChartKind.smallOptions with tableId := none } :
        StateM Session ChartResult) chartSession).1.files =
        .error (.missingTableId "table-id-ops-per-tx") := by
  have hsize : Transaction.mixedCalls.length < Number.powerOfTwo 64 := by decide
  have hdecided := fun kind options => (draw_decided .quiet kind options hsize chartSession).1
  refine ⟨?_, ?_, ?_⟩
  · have hshows : ChartKind.tableOps.Shows Transaction.mixedCalls
        ChartKind.smallOptions.tableId := ⟨_, List.mem_cons_self, by decide⟩
    obtain ⟨pictures, -, hlength, hwritten⟩ := (hdecided .tableOps ChartKind.smallOptions).written
      (by decide) hshows
    obtain ⟨picture, rfl⟩ := List.length_eq_one_iff.mp hlength
    have hstores := hwritten _ Plotter.recording_stores
    have hpaths : ChartKind.tableOps.paths ChartKind.smallOptions.outputDir =
        ["charts/count_table_ops.png"] := by
      decide +kernel
    have hall : chartSession.disk.writeAll (["charts/count_table_ops.png"].zip
        ([picture].map (DrawList.bytes ChartKind.smallOptions.size))) =
          .ok (chartSession.disk.put ["charts", "count_table_ops.png"]
            (.file (DrawList.bytes ChartKind.smallOptions.size picture))) := by
      rw [List.map_singleton, List.zip_cons_cons, Disk.writeAll, write_chart]
      rfl
    rw [hpaths] at hstores
    exact (hstores _ hall).1
  · refine ((hdecided .seqCalls ChartKind.smallOptions).empty _).mpr ⟨rfl, by decide, ?_⟩
    simp [ChartKind.Shows, Transaction.mixedCalls, Transaction.tableCall]
  · exact ((hdecided .tableIdOpsPerTx _).missing _).mpr ⟨rfl, rfl, rfl⟩

end CallProfile

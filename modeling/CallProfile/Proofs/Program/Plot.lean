import CallProfile.Proofs.Chart.Drawing
import CallProfile.Proofs.Config.Variables
import CallProfile.Proofs.Ordering
import CallProfile.Proofs.Program.Loading
import CallProfile.Proofs.Wording

/-!
# What a run that draws charts reports

Every selected chart is drawn once and reported once (`plot_reports`): by its files on the standard
output (`ListsFile`) or by its failure on the error output (`TellsFailure`), and the exit code tells
whether any failed. A run whose configuration or log does not load fails and leaves the disk as it
is.
-/

namespace CallProfile

/-! ## The selection -/

/-- The charts that are drawn: those asked for, each once and in the order in which they were first
asked for, or else all but those that lack a table. -/
structure Selects (asked : List ChartKind) (options : PlotOptions) (kinds : List ChartKind) : Prop
    where
  once : kinds.Nodup
  requested : asked ≠ [] → (∀ kind, kind ∈ kinds ↔ kind ∈ asked) ∧
    kinds.Pairwise fun a b => asked.idxOf a < asked.idxOf b
  default : asked = [] → kinds =
    ChartKind.all.filter fun kind => !(kind.needsTable && options.tableId.isNone)

/-- A request selects its charts. -/
theorem selects_selected (request : PlotRequest) (options : PlotOptions) :
    Selects request.charts options (request.selected options) := by
  cases hcharts : request.charts with
  | nil =>
      have hselected : request.selected options =
          ChartKind.all.filter fun kind => !(kind.needsTable && options.tableId.isNone) := by
        rw [PlotRequest.selected, hcharts]
        rfl
      have hall : ChartKind.all.Nodup := by decide
      exact ⟨hselected ▸ hall.filter _, fun h => absurd rfl h, fun _ => hselected⟩
  | cons kind kinds =>
      have hselected : request.selected options = (kind :: kinds).eraseDups := by
        rw [PlotRequest.selected, hcharts]
        rfl
      rw [hselected]
      refine ⟨nodup_erase_dups _, fun _ => ⟨fun _ => List.mem_eraseDups, ?_⟩, fun h => by cases h⟩
      exact pairwise_idx_of_erase_dups _

/-! ## The report -/

/-- What is told of the failures among results: nothing if there are none, a lone chart's failure by
itself, and else each failure in order and then how many charts failed. -/
structure Told (results : List ChartResult) (told : List Failure) : Prop where
  nothing : results.filterMap (·.failure?) = [] → told = []
  alone : results.length = 1 → told = results.filterMap (·.failure?)
  several : results.length ≠ 1 → results.filterMap (·.failure?) ≠ [] →
    told = results.filterMap (·.failure?) ++
      [.chartsFailed (results.filterMap (·.failure?)).length results.length]

/-- The failures of a report are what is told. -/
theorem told_of_results (results : List ChartResult) :
    Told results (PlotReport.ofResults results).failures := by
  show Told results (PlotReport.counted results.length (results.filterMap (·.failure?)))
  unfold PlotReport.counted
  refine ⟨fun h => ?_, fun h => ?_, fun hlength hfailures => ?_⟩
  · rw [h]
    simp
  · simp [h]
  · rw [if_neg (by simp [hlength, hfailures])]

/-- Something is told exactly if a chart failed. -/
theorem Told.eq_nil_iff {results : List ChartResult} {told : List Failure} (h : Told results told) :
    told = [] ↔ ∀ result ∈ results, result.failure? = none := by
  rw [← List.filterMap_eq_nil_iff]
  refine ⟨fun htold => ?_, h.nothing⟩
  -- a lone failure is told by itself, and several results end with a count of failures
  by_cases hlength : results.length = 1
  · rw [← h.alone hlength, htold]
  · by_contra hfailures
    rw [h.several hlength hfailures] at htold
    exact absurd htold (List.append_ne_nil_of_right_ne_nil _ (List.cons_ne_nil _ _))

/-- A line that lists a file: the sign of what is done, and the path. Without styles it is what is
left of that as plain text, which is all of it unless the path holds controls. -/
structure ListsFile (console : Console) (path line : String) : Prop where
  styled : console.styled = true → line = "✅ " ++ path ++ "\n"
  unstyled : console.styled = false → line = Terminal.plain ("✅ " ++ path ++ "\n")
  visible : Terminal.IsVisible path → line = "✅ " ++ path ++ "\n"

/-- A line that tells of a failure: the sign of failures, and the wording with styles. Without
styles it is what is left of that as plain text, which is the wording unless that holds controls. -/
structure TellsFailure (console : Console) (failure : Failure) (line : String) : Prop where
  styled : console.styled = true → Terminal.Styled line ("❌ " ++ failure.wording ++ "\n")
  unstyled : console.styled = false →
    ∃ text, Terminal.Styled text ("❌ " ++ failure.wording ++ "\n") ∧ line = Terminal.plain text
  visible : console.styled = false → Terminal.IsVisible failure.wording →
    line = "❌ " ++ failure.wording ++ "\n"

/-- The line that is written about a file. -/
def fileLine (console : Console) (path : String) : String :=
  Console.shown console.styled (Terminal.doneSign ++ " " ++ path ++ "\n")

/-- The line that is written about a failure. -/
def failureLine (console : Console) (failure : Failure) : String :=
  Console.shown console.styled (failure.message ++ "\n")

/-- What is written about a file lists it. -/
theorem lists_file_line (console : Console) (path : String) :
    ListsFile console path (fileLine console path) := by
  have hline : fileLine console path =
      if console.styled then "✅ " ++ path ++ "\n"
      else Terminal.plain ("✅ " ++ path ++ "\n") := rfl
  have hsign : Terminal.IsVisible "✅ " := by decide
  refine ⟨fun h => ?_, fun h => ?_, fun hpath => ?_⟩
  · rw [hline, h, if_pos rfl]
  · rw [hline, h, if_neg Bool.false_ne_true]
  · rw [hline, Terminal.plain_of_visible (Terminal.is_visible_line hsign hpath), ite_self]

/-- What is written about a failure tells of it. -/
theorem tells_failure_line (console : Console) (failure : Failure) :
    TellsFailure console failure (failureLine console failure) := by
  have hline : failureLine console failure =
      if console.styled then failure.message ++ "\n"
      else Terminal.plain (failure.message ++ "\n") := rfl
  have hsign : Terminal.IsVisible "❌ " := by decide
  have hstyled : Terminal.Styled (failure.message ++ "\n") ("❌ " ++ failure.wording ++ "\n") :=
    failure.styled_message.append (.words "\n")
  refine ⟨fun h => ?_, fun h => ⟨_, hstyled, ?_⟩, fun h hwording => ?_⟩
  · rwa [hline, h, if_pos rfl]
  · rw [hline, h, if_neg Bool.false_ne_true]
  · have hall := Terminal.is_visible_line hsign hwording
    rw [hline, h, if_neg Bool.false_ne_true, Terminal.plain_of_styled hstyled hall]

/-- Lines about files go to the standard output. -/
theorem each_file_run (console : Console) (paths : List String) (s : Session) :
    (paths.forM fun path => console.write (Terminal.doneSign ++ " " ++ path ++ "\n") :
        StateM Session Unit) s =
      ((), { s with out := s.out ++ String.join (paths.map (fileLine console)) }) := by
  induction paths generalizing s with
  | nil => simp; rfl
  | cons path paths ih =>
      have hfirst : (console.write (Terminal.doneSign ++ " " ++ path ++ "\n") :
          StateM Session Unit) s = ((), { s with out := s.out ++ fileLine console path }) := rfl
      show ((paths.forM _ : StateM Session Unit) ((console.write _ : StateM Session Unit) s).2) = _
      rw [hfirst, ih]
      simp [String.append_assoc]

/-- Lines about failures go to the error output. -/
theorem each_failure_run (console : Console) (failures : List Failure) (s : Session) :
    (failures.forM fun failure => console.note failure.message : StateM Session Unit) s =
      ((), { s with error := s.error ++ String.join (failures.map (failureLine console)) }) := by
  induction failures generalizing s with
  | nil => simp; rfl
  | cons failure failures ih =>
      have hfirst : (console.note failure.message : StateM Session Unit) s =
          ((), { s with error := s.error ++ failureLine console failure }) := rfl
      show ((failures.forM _ : StateM Session Unit)
        ((console.note _ : StateM Session Unit) s).2) = _
      rw [hfirst, ih]
      simp [String.append_assoc]

/-! ## The run -/

/-- The options of a request in an environment. -/
def PlotRequest.resolved (request : PlotRequest) (env : Environment) (config : Config) :
    PlotOptions :=
  request.options config (Expansion.expandOrKeep env config.outputDir)

/-- What a run reports of the charts that it drew. -/
structure Plotted (console : Console) (records : List Record) (options : PlotOptions)
    (kinds : List ChartKind) (made : Disk) (s : Session) (results : List ChartResult)
    (told : List Failure) (final : Session) : Prop where
  /-- The charts are drawn one after the other, each once. -/
  drawn : ChartKind.DrawnInTurn console records options s.plotter made kinds results final.disk
  reported : results.map (·.kind) = kinds
  /-- The standard output lists the files of those that were drawn, in order, each on a line. -/
  out : ∃ lines, List.Forall₂ (ListsFile console) (results.flatMap (·.paths)) lines ∧
    final.out = s.out ++ String.join lines
  /-- The error output tells of the failures, each on a line, after remarks at most. -/
  failures : Told results told
  error : ∃ remarks lines, Remarks console remarks ∧
    List.Forall₂ (TellsFailure console) told lines ∧
    final.error = s.error ++ remarks ++ String.join lines
  /-- Of several charts, the last line says how many failed, if any did. -/
  count : console.styled = false → results.length ≠ 1 → results.filterMap (·.failure?) ≠ [] →
    ∃ front, final.error = front ++ "❌ " ++ toString (results.filterMap (·.failure?)).length ++
      " of " ++ toString results.length ++ " charts failed\n"

/-- The last line about several charts of which some failed. -/
theorem failure_line_count (console : Console) (hplain : console.styled = false)
    (failed total : Nat) :
    failureLine console (.chartsFailed failed total) =
      "❌ " ++ toString failed ++ " of " ++ toString total ++ " charts failed\n" := by
  have hline := (tells_failure_line console (.chartsFailed failed total)).visible hplain
    (Failure.is_visible_charts_failed failed total)
  have hwording : Failure.wording (.chartsFailed failed total) =
      toString failed ++ " of " ++ toString total ++ " charts failed" := rfl
  rw [hline, hwording]
  simp only [String.append_assoc, String.reduceAppend]

/-- Charts are plotted that are drawn in turn and whose lines are written. -/
theorem plotted_of_lines {console : Console} {records : List Record} {options : PlotOptions}
    {kinds : List ChartKind} {made : Disk} {s final : Session} {results : List ChartResult}
    {remarks : String}
    (hturn : ChartKind.DrawnInTurn console records options s.plotter made kinds results final.disk)
    (hout : final.out =
      s.out ++ String.join ((results.flatMap (·.paths)).map (fileLine console)))
    (hremarks : Remarks console remarks)
    (herror : final.error = s.error ++ remarks ++
      String.join ((PlotReport.ofResults results).failures.map (failureLine console))) :
    Plotted console records options kinds made s results (PlotReport.ofResults results).failures
      final := by
  have htold := told_of_results results
  refine ⟨hturn, hturn.kinds_eq, ⟨_, ?_, hout⟩, htold, ⟨remarks, _, hremarks, ?_, herror⟩,
    fun hplain hlength hfailures => ?_⟩
  · exact List.forall₂_map_right_iff.mpr (List.forall₂_same.mpr fun path _ =>
      lists_file_line console path)
  · exact List.forall₂_map_right_iff.mpr (List.forall₂_same.mpr fun failure _ =>
      tells_failure_line console failure)
  · refine ⟨s.error ++ remarks ++
      String.join ((results.filterMap (·.failure?)).map (failureLine console)), ?_⟩
    rw [herror, htold.several hlength hfailures, List.map_append, List.map_singleton,
      failure_line_count console hplain]
    simp [String.append_assoc]

section Runs

variable {console : Console} {records : List Record} {options : PlotOptions} {s : Session}

/-- A chart that is left out needs a table. -/
theorem needs_of_left_out {request : PlotRequest} {kind : ChartKind}
    (h : kind ∈ request.leftOut options) : kind.needsTable = true := by
  unfold PlotRequest.leftOut at h
  split at h
  · exact (Bool.and_eq_true_iff.mp (List.mem_filter.mp h).2).1
  · cases h

/-- Drawing the selected charts, once their directory is made. -/
theorem does_draw_request (console : Console) (request : PlotRequest) (records : List Record)
    {made : Disk} (hmade : s.disk.makeDirectories options.outputDir = .ok made) :
    ∃ results final, ChartKind.DrawnInTurn console records options s.plotter made
        (request.selected options) results final ∧
      Does console s (request.draw console options records) (PlotReport.ofResults results)
        final := by
  obtain ⟨results, final, hturn, hrun⟩ :=
    ChartKind.drawn_in_turn console records options s.plotter (request.selected options) made
  refine ⟨results, final, hturn, ?_⟩
  have hwarned (s : Session) : ∀ kind ∈ request.leftOut options, Does console s
      (console.note (PlotRequest.warning kind) : StateM Session Unit) () s.disk := fun kind hkind =>
    does_print_error (Remark.leftOut kind (needs_of_left_out hkind)).alone
  have hdirectories (error : String) : Does console { s with error }
      (Host.makeDirectories options.outputDir) (.ok ()) made :=
    does_change rfl hmade
  unfold PlotRequest.draw
  refine (does_each _ hwarned).bind fun error => ?_
  refine (hdirectories error).bind fun further => ?_
  refine (does_log console _ _ _).bind fun last => ?_
  exact (hrun { s with disk := made, error := last } rfl rfl).bind fun _ => .pure _

/-- The run of a request prints the files and returns the failures. -/
theorem request_run (console : Console) (env : Environment) (config : Config)
    (request : PlotRequest) (trace : Trace) {made : Disk}
    (hmade : s.disk.makeDirectories (request.resolved env config).outputDir = .ok made) :
    ∃ results final remarks,
      ChartKind.DrawnInTurn console trace.records (request.resolved env config) s.plotter made
        (request.selected (request.resolved env config)) results final ∧
      Remarks console remarks ∧
      (request.run console env config trace : StateM Session (List Failure)) s =
        ((PlotReport.ofResults results).failures,
          { s with
            disk := final
            out := s.out ++ String.join ((results.flatMap (·.paths)).map (fileLine console))
            error := s.error ++ remarks }) := by
  obtain ⟨first, hfirst, hresolve⟩ := Config.does_resolve_path (s := s) console env config.outputDir
  obtain ⟨results, final, hturn, second, hsecond, hdraw⟩ :=
    does_draw_request (s := { s with error := s.error ++ first }) console request trace.records
      hmade
  refine ⟨results, final, first ++ second, hturn, hfirst.append hsecond, ?_⟩
  unfold PlotRequest.resolved at hdraw
  unfold PlotRequest.run
  rw [bind_run, hresolve]
  dsimp only
  rw [bind_run, hdraw, bind_run, each_file_run, String.append_assoc]
  rfl

end Runs

namespace Program

open CommandLine (Invocation Action)

/-- The console of an invocation. -/
def consoleOf (env : Environment) (invocation : Invocation) : Console :=
  (Console.ofEnvironment env invocation.verbose).1

/-- A run remarks on the filter of log messages, executes its invocation, and tells of the
failures. -/
theorem run_of_execute {env : Environment} {arguments : List String} {invocation : Invocation}
    (hread : Invocation.read arguments = .ok invocation) (s : Session) :
    ∃ remarks, Remarks (consoleOf env invocation) remarks ∧
      ∀ failures t, (execute (consoleOf env invocation) env invocation :
          StateM Session (List Failure)) { s with error := s.error ++ remarks } = (failures, t) →
        (run env arguments : StateM Session Ending) s =
          (if failures.isEmpty then .done else .failed,
            { t with error := t.error ++
              String.join (failures.map (failureLine (consoleOf env invocation))) }) := by
  have htell (s : Session) : ∀ complaint ∈ (Console.ofEnvironment env invocation.verbose).2,
      Does (consoleOf env invocation) s
        (Host.printError ("warning: " ++ complaint ++ ", ignoring it\n")) () s.disk :=
    fun complaint hcomplaint =>
      does_print_error (Remark.complaint _ complaint rfl hcomplaint).alone
  obtain ⟨remarks, hremarks, hcomplain⟩ :=
    does_each (s := s) (Console.ofEnvironment env invocation.verbose).2 htell
  refine ⟨remarks, hremarks, fun failures t hexecute => ?_⟩
  unfold run
  rw [hread]
  dsimp only
  rw [bind_run, hcomplain]
  dsimp only
  unfold consoleOf at hexecute ⊢
  rw [bind_run, hexecute, bind_run, each_failure_run]
  rfl

/-- How a run that draws charts ends, told by what its loads come to. -/
structure PlotEnds (env : Environment) (invocation : Invocation) (input : Option String)
    (request : PlotRequest) (s : Session) (run : Ending × Session) : Prop where
  /-- Without a configuration the run fails and leaves the disk as it is. -/
  unconfigured : ∀ problem,
    ((Config.load (consoleOf env invocation) env invocation.configFile :
      StateM Session (Except Config.Problem Config)) s).1 = .error problem →
    run.1.code = 1 ∧ run.2.disk = s.disk
  /-- Without a log it does so too. -/
  unloaded : ∀ config failure,
    ((Config.load (consoleOf env invocation) env invocation.configFile :
      StateM Session (Except Config.Problem Config)) s).1 = .ok config →
    ((loadInput (consoleOf env invocation) env config input :
      StateM Session (Except Failure Trace)) s).1 = .error failure →
    run.1.code = 1 ∧ run.2.disk = s.disk
  /-- With both, and the directory for charts, the selected charts are drawn and reported, and the
  exit code tells whether any of them failed. -/
  plotted : ∀ config trace made,
    ((Config.load (consoleOf env invocation) env invocation.configFile :
      StateM Session (Except Config.Problem Config)) s).1 = .ok config →
    ((loadInput (consoleOf env invocation) env config input :
      StateM Session (Except Failure Trace)) s).1 = .ok trace →
    s.disk.makeDirectories (request.resolved env config).outputDir = .ok made →
    ∃ kinds results told, Selects request.charts (request.resolved env config) kinds ∧
      Plotted (consoleOf env invocation) trace.records (request.resolved env config) kinds made s
        results told run.2 ∧
      (run.1.code = 0 ↔ ∀ result ∈ results, result.failure? = none) ∧
      (run.1.code = 1 ↔ ∃ result ∈ results, result.failure? ≠ none)

section Plot

variable {env : Environment} {arguments : List String} {invocation : Invocation}
  {input : Option String} {request : PlotRequest} {s : Session}

/-- An execution that fails at once and leaves the disk makes the run fail and leave it. -/
theorem fails_of_execute (hread : Invocation.read arguments = .ok invocation) (failure : Failure)
    (h : ∀ error, Does (consoleOf env invocation) { s with error }
      (execute (consoleOf env invocation) env invocation) [failure] s.disk) :
    ((run env arguments : StateM Session Ending) s).1.code = 1 ∧
      ((run env arguments : StateM Session Ending) s).2.disk = s.disk := by
  obtain ⟨remarks, -, hrun⟩ := run_of_execute hread s
  obtain ⟨_, -, hexecute⟩ := h (s.error ++ remarks)
  rw [hrun _ _ hexecute]
  exact ⟨rfl, rfl⟩

/-- What an invocation comes to that draws charts, once everything is loaded and their directory is
made. -/
theorem execute_plot (haction : invocation.action = .plot input request) {config : Config}
    {trace : Trace} {made : Disk}
    (hload : ((Config.load (consoleOf env invocation) env invocation.configFile :
      StateM Session (Except Config.Problem Config)) s).1 = .ok config)
    (htrace : ((loadInput (consoleOf env invocation) env config input :
      StateM Session (Except Failure Trace)) s).1 = .ok trace)
    (hmade : s.disk.makeDirectories (request.resolved env config).outputDir = .ok made)
    (error : String) :
    ∃ results final remarks,
      ChartKind.DrawnInTurn (consoleOf env invocation) trace.records (request.resolved env config)
        s.plotter made (request.selected (request.resolved env config)) results final ∧
      Remarks (consoleOf env invocation) remarks ∧
      (execute (consoleOf env invocation) env invocation : StateM Session (List Failure))
          { s with error } =
        ((PlotReport.ofResults results).failures,
          { s with
            disk := final
            out := s.out ++ String.join
              ((results.flatMap (·.paths)).map (fileLine (consoleOf env invocation)))
            error := error ++ remarks }) := by
  have hconfig := (Config.inquires_load (consoleOf env invocation) env invocation.configFile).does
    s { s with error } rfl rfl
  rw [hload] at hconfig
  obtain ⟨first, hfirst, hconfig⟩ := hconfig
  obtain ⟨second, hsecond, hshown⟩ := does_log (s := { s with error := error ++ first })
    (consoleOf env invocation) .program .debug ("Effective config: " ++ config.shown)
  have hlog := (inquires_load_input (consoleOf env invocation) env config input).does s
    { s with error := error ++ first ++ second } rfl rfl
  rw [htrace] at hlog
  obtain ⟨third, hthird, hlog⟩ := hlog
  obtain ⟨results, final, fourth, hturn, hfourth, hdraw⟩ := request_run
    (s := { s with error := error ++ first ++ second ++ third }) (consoleOf env invocation) env
    config request trace hmade
  refine ⟨results, final, first ++ second ++ third ++ fourth, hturn,
    ((hfirst.append hsecond).append hthird).append hfourth, ?_⟩
  unfold execute
  rw [bind_run, hconfig]
  dsimp only
  rw [bind_run, hshown, haction]
  unfold perform withInput
  dsimp only
  rw [bind_run, hlog]
  dsimp only
  rw [hdraw]
  simp only [String.append_assoc]

/-- A run that draws charts reports each selected one, or fails before it draws any. -/
theorem plot_reports (hread : Invocation.read arguments = .ok invocation)
    (haction : invocation.action = .plot input request) (s : Session) :
    PlotEnds env invocation input request s ((run env arguments : StateM Session Ending) s) := by
  -- remarks may come before the loads, which find out the same after them
  have hconfig (error : String) := (Config.inquires_load (consoleOf env invocation) env
    invocation.configFile).does s { s with error } rfl rfl
  have hinput (config : Config) (error : String) :=
    (inquires_load_input (consoleOf env invocation) env config input).does s { s with error }
      rfl rfl
  refine ⟨fun problem hproblem => ?_, fun config failure hload hfailure => ?_,
    fun config trace made hload htrace hmade => ?_⟩
  · refine fails_of_execute hread (.invalidConfig problem.message) fun error => ?_
    rw [hproblem] at hconfig
    unfold execute
    exact (hconfig error).bind fun _ => .pure _
  · refine fails_of_execute hread failure fun error => ?_
    rw [hload] at hconfig
    have hlog := hinput config
    rw [hfailure] at hlog
    unfold execute
    refine (hconfig error).bind fun _ => (does_log _ _ _ _).bind fun _ => ?_
    rw [haction]
    unfold perform withInput
    exact (hlog _).bind fun _ => .pure _
  · obtain ⟨remarks, hremarks, hrun⟩ := run_of_execute hread s
    obtain ⟨results, final, further, hturn, hfurther, hexecute⟩ :=
      execute_plot haction hload htrace hmade (s.error ++ remarks)
    have htold := told_of_results results
    have hsome : (∃ result ∈ results, result.failure? ≠ none) ↔
        (PlotReport.ofResults results).failures ≠ [] := by
      rw [Ne, htold.eq_nil_iff]
      simp
    rw [hrun _ _ hexecute]
    refine ⟨_, results, _, selects_selected request _,
      plotted_of_lines hturn rfl (hremarks.append hfurther) ?_, ?_, ?_⟩
    · simp only [String.append_assoc]
    · rw [← htold.eq_nil_iff]
      cases (PlotReport.ofResults results).failures with
      | nil => simp [Ending.code]
      | cons failure failures => simp [Ending.code]
    · rw [hsome]
      cases (PlotReport.ofResults results).failures with
      | nil => simp [Ending.code]
      | cons failure failures => simp [Ending.code]

end Plot

/-- A request for the calls of the sequencer. -/
def sequencerRequest : PlotRequest :=
  { charts := [.seqCalls], outputDir := none, tableId := none, accessOps := [], mutateOps := [] }

/-- The arguments that make the request for a log on the standard input. -/
def sequencerArguments : List String := ["plot", "-", "--chart", "seq-calls"]

/-- A session with a log without calls of the sequencer on the standard input. -/
def querySession : Session :=
  .start .empty (Text.Utf8.encode "1 1 | Query\n")

/-- The invocation of the request. -/
def sequencerInvocation : Invocation :=
  ⟨false, none, .plot (some "-") sequencerRequest⟩

/-- The only record of the log. -/
def queryRecord : Record :=
  { timestampNs := 1, threadId := 1, event := "Query", durationNs := none, method := none
    tableIds := [], transactional := false }

/-- The directory for charts can be made. -/
theorem query_session_made : querySession.disk.makeDirectories "results" =
    .ok (querySession.disk.put ["results"] .directory) := by
  have hparts : Path.parts "results" = ["results"] := by decide +kernel
  have hsize : "results".utf8ByteSize = 7 := by decide +kernel
  have hplain : Path.isAbsolute "results" = false ∧ Path.endsInSlash "results" = false := by
    decide +kernel
  simp [Disk.makeDirectories, Disk.makeDirectoriesWithin, Disk.ensureDirectory, Disk.makeDirectory,
    Disk.locate, hparts, hsize, hplain, Disk.pathLimit, Disk.nameLimit, Disk.walk, Disk.entry?,
    Disk.empty, Session.start, querySession]

/-- The run of the request with a table configured. -/
def sequencerRun : Ending × Session :=
  (run (Config.tableVariable "t1") sequencerArguments : StateM Session Ending) querySession

/-- The configuration for the request. -/
def sequencerConfig : Config :=
  Config.TextField.tableId.setTo "t1"

/-- The configuration is loaded. -/
theorem sequencer_configured (console : Console) :
    ((Config.load console (Config.tableVariable "t1") none :
      StateM Session (Except Config.Problem Config)) querySession).1 = .ok sequencerConfig := by
  have htext : (Config.settingOfVariable Config.TextField.tableId.key "t1").asText? =
      some "t1" := by
    decide +kernel
  rw [Config.load_of_variable console (Config.table_variable_bindings "t1")
    (fun path hpath => by cases hpath) htext]
  exact Config.validated_set_to .tableId "t1" (fun h => by cases h)

/-- The log is loaded. -/
theorem query_loaded :
    ∃ trace, ((loadInput (consoleOf (Config.tableVariable "t1") sequencerInvocation)
        (Config.tableVariable "t1") sequencerConfig (some "-") :
          StateM Session (Except Failure Trace)) querySession).1 = .ok trace ∧
      trace.records = [queryRecord] := by
  have hrecords : ((loadInput (consoleOf (Config.tableVariable "t1") sequencerInvocation)
      (Config.tableVariable "t1") sequencerConfig (some "-") :
        StateM Session (Except Failure Trace)) querySession).1.toOption.map (·.records) =
      some [queryRecord] := by
    decide +kernel
  cases hload : ((loadInput (consoleOf (Config.tableVariable "t1") sequencerInvocation)
      (Config.tableVariable "t1") sequencerConfig (some "-") :
        StateM Session (Except Failure Trace)) querySession).1 with
  | error failure =>
      rw [hload] at hrecords
      cases hrecords
  | ok trace =>
      rw [hload] at hrecords
      exact ⟨trace, rfl, Option.some.inj hrecords⟩

/-- The chart of the log is empty. -/
theorem query_result {options : PlotOptions} {console : Console} {s : Session}
    {result : ChartResult} {next : Disk}
    (hdraw : Does console s (ChartKind.draw console [queryRecord] options .seqCalls) result next) :
    result = ⟨.seqCalls, .error (.emptyChart "seq-calls")⟩ := by
  have hempty : Series.ofEvent [queryRecord] Series.sequencerEvent = [] := by decide +kernel
  have hpictures : ChartKind.seqCalls.pictures [queryRecord] options =
      .error (.emptyChart "seq-calls") := by
    rw [ChartKind.pictures, ChartKind.charts, hempty]
    rfl
  obtain ⟨_, -, hrun⟩ := hdraw
  unfold ChartKind.draw at hrun
  rw [hpictures] at hrun
  exact (congrArg Prod.fst hrun).symm

/-- The chart fails alone: the run fails, prints no file, and tells of nothing but that failure. -/
theorem lone_failure_reported :
    sequencerRun.1.code = 1 ∧ sequencerRun.2.out = "" ∧
      ∃ remarks, Remarks (consoleOf (Config.tableVariable "t1") sequencerInvocation) remarks ∧
        sequencerRun.2.error = remarks ++ "❌ Nothing to plot for seq-calls\n" := by
  have hread : Invocation.read sequencerArguments = .ok sequencerInvocation := rfl
  obtain ⟨trace, htrace, hrecords⟩ := query_loaded
  have hdirectory : (sequencerRequest.resolved (Config.tableVariable "t1")
      sequencerConfig).outputDir = "results" := by
    decide +kernel
  have hmade : querySession.disk.makeDirectories (sequencerRequest.resolved
      (Config.tableVariable "t1") sequencerConfig).outputDir =
        .ok (querySession.disk.put ["results"] .directory) := by
    rw [hdirectory, query_session_made]
  have hends : PlotEnds (Config.tableVariable "t1") sequencerInvocation (some "-") sequencerRequest
      querySession sequencerRun :=
    plot_reports hread rfl querySession
  -- what is known of the run is all that the theorem says of it
  generalize sequencerRun = ended at hends ⊢
  obtain ⟨kinds, results, told, hselects, hplotted, -, hcode⟩ :=
    hends.plotted _ _ _ (sequencer_configured _) htrace hmade
  have hkinds : kinds = [.seqCalls] := by
    have hperm : kinds.Perm [.seqCalls] :=
      (List.perm_ext_iff_of_nodup hselects.once (List.nodup_singleton _)).mpr
        (hselects.requested (by decide)).1
    exact List.perm_singleton.mp hperm
  subst hkinds
  cases hplotted.drawn with
  | next _ _ hdraw hrest =>
      cases hrest
      have hone := hdraw
        { querySession with disk := querySession.disk.put ["results"] .directory } rfl rfl
      rw [hrecords] at hone
      obtain rfl := query_result hone
      have htold : told = [.emptyChart "seq-calls"] := hplotted.failures.alone rfl
      obtain ⟨lines, hlisted, hout⟩ := hplotted.out
      obtain ⟨remarks, told, hremarks, htells, herror⟩ := hplotted.error
      rw [htold] at htells
      cases hlisted
      obtain ⟨line, _, hline, hnone, rfl⟩ := List.forall₂_cons_left_iff.mp htells
      cases hnone
      have hplain : (consoleOf (Config.tableVariable "t1") sequencerInvocation).styled = false := by
        decide +kernel
      have hwritten : line = "❌ Nothing to plot for seq-calls\n" :=
        hline.visible hplain (by decide)
      refine ⟨hcode.mpr ⟨_, List.mem_cons_self, fun h => by cases h⟩, hout, remarks, hremarks, ?_⟩
      rw [herror, hwritten]
      simp [querySession, Session.start]

end Program

end CallProfile

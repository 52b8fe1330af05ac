import CallProfile.Program
import CallProfile.Proofs.Remarks

/-!
# Loading only asks

Loading a configuration and loading a log are inquiries (`inquires_load`, `inquires_load_input`):
they leave the disk as it is and print nothing, whether they succeed or not.
-/

namespace CallProfile

variable {console : Console}

/-! ## Configurations -/

namespace Config

/-- Reading the settings of a file. -/
theorem inquires_read_settings (path : String) :
    Inquires console
      (readSettings path : StateM Session (Except Problem (List (String × Setting)))) := by
  unfold readSettings
  refine (Inquires.read_file path).bind fun read => ?_
  cases read with
  | ok bytes => exact .pure _
  | error fault => exact .pure _

/-- Asking whether there is a file. -/
theorem inquires_is_file (path : String) :
    Inquires console (isFile path : StateM Session Bool) := by
  unfold isFile
  exact (Inquires.is_present path).bind fun _ =>
    (Inquires.is_directory path).bind fun _ => .pure _

/-- Reading the settings of a named file. -/
theorem inquires_read_named (path : String) :
    Inquires console
      (readNamed path : StateM Session (Except Problem (List (String × Setting)))) := by
  unfold readNamed
  refine (inquires_is_file path).bind fun isThere => ?_
  split
  · split
    · exact inquires_read_settings path
    · exact .pure _
  · split
    · exact .pure _
    · next extended _ =>
        refine (inquires_is_file extended).bind fun isThere => ?_
        split
        · exact inquires_read_settings extended
        · exact .pure _

/-- Loading the configuration. -/
theorem inquires_load (console : Console) (env : Environment) (named : Option String) :
    Inquires console (load console env named : StateM Session (Except Problem Config)) := by
  have hlayer : Inquires console (readFileLayer console env named :
      StateM Session (Except Problem (List (String × Setting)))) := by
    unfold readFileLayer
    split
    · exact inquires_read_named _
    · exact .pure _
    · next path _ =>
        refine (Inquires.is_present path).bind fun isThere => ?_
        split
        · exact (Inquires.log console _ _ _).bind fun _ => inquires_read_named path
        · exact .pure _
  unfold load
  refine hlayer.bind fun read => ?_
  cases read with
  | ok file => exact .pure _
  | error problem => exact .pure _

/-- Expanding a path. The answer is the expanded path, or the path itself. -/
theorem does_resolve_path {s : Session} (console : Console) (env : Environment) (path : String) :
    Does console s (resolvePath console env path) (Expansion.expandOrKeep env path) s.disk := by
  unfold resolvePath Expansion.expandOrKeep
  cases Expansion.expand env path with
  | ok expanded => exact .pure _
  | error name => exact (does_log console _ _ _).bind fun _ => .pure _

end Config

/-! ## Logs -/

namespace Trace

/-- Reporting on a text. -/
theorem inquires_report_on (console : Console) (source text : String) :
    Inquires console (reportOn console source text) := by
  unfold reportOn
  exact (Inquires.each _ fun _ _ _ => does_log console _ _ _).bind fun _ =>
    (Inquires.log console _ _ _).bind fun _ => .pure _

/-- Reading a log. -/
theorem inquires_read_file (console : Console) (path : String) :
    Inquires console (readFile console path : StateM Session (Except Failure LineReport)) := by
  unfold readFile
  refine (Inquires.read_file path).bind fun read => ?_
  cases read with
  | error fault => exact .pure _
  | ok bytes => exact (inquires_report_on console _ _).bind fun _ => .pure _

/-- Reading logs. -/
theorem inquires_read_files (console : Console) (paths : List String) :
    Inquires console
      (readFiles console paths : StateM Session (Except Failure (List (String × LineReport)))) := by
  induction paths with
  | nil => exact .pure _
  | cons path paths ih =>
      unfold readFiles
      refine (Inquires.log console _ _ _).bind fun _ => ?_
      refine (inquires_read_file console path).bind fun read => ?_
      cases read with
      | error failure => exact .pure _
      | ok report =>
          refine ih.bind fun read => ?_
          cases read with
          | error failure => exact .pure _
          | ok reports => exact .pure _

/-- Loading what a path stands for. -/
theorem inquires_load (console : Console) (path : String) :
    Inquires console (load console path : StateM Session (Except Failure Trace)) := by
  unfold load
  split
  · unfold loadInput
    refine Inquires.read_input.bind fun bytes => ?_
    split
    · exact .pure _
    · exact (inquires_report_on console _ _).bind fun _ => .pure _
  · refine (Inquires.is_directory path).bind fun isThere => ?_
    split
    · unfold loadDirectory
      refine (Inquires.files_under path).bind fun found => ?_
      cases found with
      | error fault => exact .pure _
      | ok files =>
          refine (inquires_read_files console _).bind fun read => ?_
          cases read with
          | error failure => exact .pure _
          | ok reports => exact .pure _
    · unfold loadFile
      refine (inquires_read_file console path).bind fun read => ?_
      cases read with
      | error failure => exact .pure _
      | ok report => exact .pure _

end Trace

namespace Program

/-- Loading the input. -/
theorem inquires_load_input (console : Console) (env : Environment) (config : Config)
    (given : Option String) :
    Inquires console
      (loadInput console env config given : StateM Session (Except Failure Trace)) := by
  have hchosen : Inquires console
      (chosenInput? console env config given : StateM Session (Option String)) := by
    unfold chosenInput?
    split
    · exact .pure _
    · next path _ =>
        have hresolve : Inquires console (Config.resolvePath console env path) :=
          ⟨fun _ _ => _, fun _ => Config.does_resolve_path console env path⟩
        exact hresolve.bind fun _ => .pure _
    · exact .pure _
  unfold loadInput
  refine hchosen.bind fun chosen => ?_
  cases chosen with
  | none => exact .pure _
  | some path =>
      refine (Trace.inquires_load console path).bind fun loaded => ?_
      cases loaded with
      | error failure => exact .pure _
      | ok trace =>
          dsimp only
          split
          · next hskipped =>
              have hwarns : Inquires console
                  (console.note (skippedWarning trace.skipped) : StateM Session Unit) :=
                ⟨fun _ _ => (), fun _ => does_print_error (Remark.skipped _ hskipped).alone⟩
              exact hwarns.bind fun _ => .pure _
          · exact .pure _

end Program

end CallProfile

import CallProfile.Proofs.Text.Utf8
import CallProfile.Proofs.Trace.Loading

/-!
# Sources of a log

A log loads alike from a file and from a directory that holds no other, whatever its bytes: what is
no text is replaced in both. From the standard input it loads alike if its bytes are those of a
text. If not, the standard input is refused as a whole, where a file loses only the bytes that are
part of no character. The main result is `load_alike`.
-/

namespace CallProfile.Trace

/-- Two loads of a log give the same trace but for the names of the logs, or fail over the same
number of lines without a record. -/
inductive Alike : Except Failure Trace → Except Failure Trace → Prop where
  | traces {a b : Trace} (records : a.records = b.records) (events : a.events = b.events)
      (skipped : a.skipped = b.skipped) : Alike (.ok a) (.ok b)
  | noRecords (source other : String) (skipped : Nat) :
      Alike (.error (.noRecords source skipped)) (.error (.noRecords other skipped))

/-- A text loads alike under every name. -/
theorem alike_of_text (text source name other name' : String) :
    Alike (orNoRecords source (ofText name text)) (orNoRecords other (ofText name' text)) := by
  have hempty : (ofText name text).isEmpty = (ofText name' text).isEmpty := rfl
  unfold orNoRecords
  rw [hempty]
  cases (ofText name' text).isEmpty with
  | true => exact .noRecords source other _
  | false => exact .traces rfl rfl rfl

/-! ## Where a path leads -/

section Paths

variable {disk : Disk} {path directory : String} {bytes : List UInt8}

/-- A path to a file does not lead to a directory. -/
theorem is_directory_of_read (h : disk.read path = .ok bytes) : disk.isDirectory path = false := by
  unfold Disk.read at h
  unfold Disk.isDirectory
  split at h <;> simp_all

/-- Only below a directory there are files. -/
theorem is_directory_of_files_under (h : disk.filesUnder directory ≠ []) :
    disk.isDirectory directory = true := by
  unfold Disk.filesUnder at h
  unfold Disk.isDirectory
  split at h <;> simp_all

end Paths

/-! ## The three ways -/

section Ways

variable {s : Session} {path directory : String} {bytes : List UInt8}

/-- Asking whether a path leads to a directory leaves the session as it is. -/
theorem only_tells_is_directory (path : String) :
    OnlyTells s (Host.isDirectory path) (s.disk.isDirectory path) :=
  ⟨s.error, rfl⟩

/-- Loading a file gives the trace of its text, with replacements for what is none. -/
theorem load_file_run (console : Console) (hpath : path ≠ standardInput)
    (hread : s.disk.read path = .ok bytes) :
    OnlyTells s (load console path)
      (orNoRecords path (ofText path (Text.Utf8.decodeLossy bytes))) := by
  unfold load
  rw [if_neg hpath]
  refine (only_tells_is_directory path).bind fun error => ?_
  rw [is_directory_of_read hread, if_neg Bool.false_ne_true]
  have hfile : OnlyTells { s with error } (readFile console path) _ :=
    only_tells_read_file console hread
  exact hfile.bind fun _ => .pure _

/-- Loading a directory with one file gives the trace of the text of the file, with replacements for
what is none. -/
theorem load_only_file_run (console : Console) {names : Place}
    (hdirectory : directory ≠ standardInput) (honly : s.disk.filesUnder directory = [names])
    (hread : s.disk.read (Path.joinAll directory names) = .ok bytes) :
    OnlyTells s (load console directory)
      (orNoRecords directory
        (ofText (Path.joinAll directory names) (Text.Utf8.decodeLossy bytes))) := by
  have hpaths : filePaths directory (s.disk.filesUnder directory) =
      [Path.joinAll directory names] := by
    rw [honly, filePaths, List.mergeSort_singleton, List.map_singleton]
  have hreads : ∀ path ∈ filePaths directory (s.disk.filesUnder directory),
      s.disk.read path = .ok bytes := by
    simpa [hpaths] using hread
  have hisdir : s.disk.isDirectory directory = true :=
    is_directory_of_files_under (by simp [honly])
  have htexts : textsOf (fun _ => bytes) (filePaths directory (s.disk.filesUnder directory)) =
      [(Path.joinAll directory names, Text.Utf8.decodeLossy bytes)] := by
    rw [hpaths]
    rfl
  unfold load
  rw [if_neg hdirectory]
  refine (only_tells_is_directory directory).bind fun error => ?_
  rw [hisdir, if_pos rfl, ofText, ← htexts]
  exact load_directory_run console hreads

/-- Reading the standard input leaves the session as it is. -/
theorem only_tells_read_input : OnlyTells s Host.readInput s.input :=
  ⟨s.error, rfl⟩

/-- Loading a text from the standard input gives its trace. -/
theorem load_input_run (console : Console) {text : String}
    (hinput : Text.Utf8.decode? s.input = some text) :
    OnlyTells s (load console standardInput)
      (orNoRecords standardInput (ofText standardInput text)) := by
  unfold load
  rw [if_pos rfl]
  unfold loadInput
  refine only_tells_read_input.bind fun _ => ?_
  rw [hinput]
  exact (only_tells_report_on console standardInput text).bind fun _ => .pure _

/-- Loading anything else from the standard input fails. -/
theorem load_input_refused (console : Console) (hinput : Text.Utf8.decode? s.input = none) :
    OnlyTells s (load console standardInput)
      (.error (.inaccessible standardInput Fault.notUtf8.message)) := by
  unfold load
  rw [if_pos rfl]
  unfold loadInput
  refine only_tells_read_input.bind fun _ => ?_
  rw [hinput]
  exact .pure _

end Ways

/-- A log in a file and the same log as the only file of a directory load alike. On the standard
input it loads alike too if its bytes are those of a text; any others are refused. -/
theorem load_alike (console : Console) {bytes : List UInt8} {s t u : Session}
    {path directory : String} {names : Place}
    (hpath : path ≠ standardInput) (hfile : s.disk.read path = .ok bytes)
    (hdirectory : directory ≠ standardInput) (honly : t.disk.filesUnder directory = [names])
    (hinside : t.disk.read (Path.joinAll directory names) = .ok bytes)
    (hinput : u.input = bytes) :
    Alike ((load console path : StateM Session _) s).1
        ((load console directory : StateM Session _) t).1 ∧
      ((∃ text, Text.Utf8.encode text = bytes) →
        Alike ((load console path : StateM Session _) s).1
          ((load console standardInput : StateM Session _) u).1) ∧
      ((¬∃ text, Text.Utf8.encode text = bytes) →
        ((load console standardInput : StateM Session _) u).1 =
          .error (.inaccessible standardInput Fault.notUtf8.message)) := by
  subst hinput
  obtain ⟨_, hfileRun⟩ := load_file_run console hpath hfile
  obtain ⟨_, honlyRun⟩ := load_only_file_run console hdirectory honly hinside
  rw [hfileRun, honlyRun]
  refine ⟨alike_of_text _ _ _ _ _, ?_, fun hnone => ?_⟩
  · -- The bytes of a text lose nothing to the replacements made in the files.
    rintro ⟨text, htext⟩
    obtain ⟨_, hinputRun⟩ := load_input_run console (Text.Utf8.decode_eq_some_iff.mpr htext)
    rw [hinputRun, ← htext, Text.Utf8.decode_lossy_encode]
    exact alike_of_text _ _ _ _ _
  · have hrefused : Text.Utf8.decode? u.input = none :=
      Option.eq_none_iff_forall_ne_some.mpr fun text hsome =>
        hnone ⟨text, Text.Utf8.decode_eq_some_iff.mp hsome⟩
    obtain ⟨_, hinputRun⟩ := load_input_refused console hrefused
    rw [hinputRun]

/-- A session with a log at all three places. -/
def logSession (bytes : List UInt8) : Session :=
  .start ⟨[(["run"], .directory), (["run", "a.log"], .file bytes)]⟩ bytes

/-- The log is in a file, which is the only one of its directory, and on the standard input. -/
theorem log_session_files (bytes : List UInt8) :
    (logSession bytes).disk.read "run/a.log" = .ok bytes ∧
      (logSession bytes).disk.filesUnder "run" = [["a.log"]] ∧
      (logSession bytes).input = bytes := by
  have hparts : Path.parts "run" = ["run"] ∧ Path.parts "run/a.log" = ["run", "a.log"] := by
    decide +kernel
  have hsizes : "run".utf8ByteSize = 3 ∧ "a.log".utf8ByteSize = 5 ∧
      "run/a.log".utf8ByteSize = 9 := by
    decide +kernel
  have hplain : ∀ path ∈ ["run", "run/a.log"],
      Path.isAbsolute path = false ∧ Path.endsInSlash path = false := by
    decide +kernel
  have hbelow : ["run"].isPrefixOf? ["run", "a.log"] = some ["a.log"] := by
    decide +kernel
  refine ⟨?_, ?_, rfl⟩
  · simp [Disk.read, Disk.locate, hparts, hsizes, hplain, Disk.pathLimit, Disk.nameLimit,
      Disk.walk, Disk.entry?, logSession, Session.start, List.lookup_cons]
  · simp [Disk.filesUnder, Disk.locate, hparts, hsizes, hplain, Disk.pathLimit, Disk.nameLimit,
      Disk.walk, Disk.entry?, logSession, Session.start, hbelow]

/-- A record of an event whose name is not ASCII. -/
def accentLog : List UInt8 := Text.Utf8.encode "1 1 | é\n"

/-- A record and, on its line, a byte that is part of no character. -/
def strayLog : List UInt8 := Text.Utf8.encode "1 1 | Seq " ++ [0xFF, 0x0A]

/-- The stray byte is no text. -/
theorem decode_stray_log : Text.Utf8.decode? strayLog = none := by
  decide +kernel

/-- The first log loads alike from all three places. The second one loads alike from the two files,
and is refused on the standard input. -/
theorem accent_stray_loads :
    Alike ((load .quiet "run/a.log" : StateM Session _) (logSession accentLog)).1
        ((load .quiet standardInput : StateM Session _) (logSession accentLog)).1 ∧
      Alike ((load .quiet "run/a.log" : StateM Session _) (logSession strayLog)).1
        ((load .quiet "run" : StateM Session _) (logSession strayLog)).1 ∧
      ((load .quiet standardInput : StateM Session _) (logSession strayLog)).1 =
        .error (.inaccessible "-" "stream did not contain valid UTF-8") := by
  have haccent := log_session_files accentLog
  have hstray := log_session_files strayLog
  have hnone : ¬∃ text, Text.Utf8.encode text = strayLog := fun ⟨text, htext⟩ => by
    have hsome := Text.Utf8.decode_eq_some_iff.mpr htext
    rw [decode_stray_log] at hsome
    cases hsome
  obtain ⟨-, hinput, -⟩ :=
    load_alike .quiet (by decide) haccent.1 (by decide) haccent.2.1 haccent.1 haccent.2.2
  obtain ⟨hfiles, -, hrefused⟩ :=
    load_alike .quiet (by decide) hstray.1 (by decide) hstray.2.1 hstray.1 hstray.2.2
  exact ⟨hinput ⟨_, rfl⟩, hfiles, hrefused hnone⟩

/-- The second log does not load alike from a file and from the standard input. -/
theorem stray_log_not_alike :
    ¬Alike ((load .quiet "run/a.log" : StateM Session _) (logSession strayLog)).1
      ((load .quiet standardInput : StateM Session _) (logSession strayLog)).1 := by
  have hinput : Text.Utf8.decode? (logSession strayLog).input = none := decode_stray_log
  obtain ⟨_, hrefused⟩ := load_input_refused .quiet hinput
  rw [hrefused]
  generalize ((load .quiet "run/a.log" : StateM Session _) (logSession strayLog)).1 = result
  rintro ⟨⟩

end CallProfile.Trace

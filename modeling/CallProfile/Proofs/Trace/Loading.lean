import CallProfile.Session
import CallProfile.Trace.Load

/-!
# Loading in a session

What the loading of files leaves behind in a session, apart from its result: log messages on the
error output, and nothing else (`OnlyTells`). So each file is read from the disk with which the
loading began, and the trace of a directory is that of the texts of its files
(`load_directory_run`).
-/

namespace CallProfile.Trace

/-- From the session, the action gives the result and adds at most to what was told. -/
def OnlyTells {α : Type} (s : Session) (action : StateM Session α) (result : α) : Prop :=
  ∃ error, action s = (result, { s with error })

variable {α β : Type} {s : Session}

/-- An action that does nothing only tells. -/
theorem OnlyTells.pure (result : α) : OnlyTells s (pure result) result :=
  ⟨s.error, rfl⟩

/-- Actions that only tell, one after the other, only tell. The second one starts on the same disk
and input. -/
theorem OnlyTells.bind {action : StateM Session α} {next : α → StateM Session β} {result : α}
    {last : β} (h : OnlyTells s action result)
    (hnext : ∀ error, OnlyTells { s with error } (next result) last) :
    OnlyTells s (action >>= next) last := by
  obtain ⟨error, haction⟩ := h
  obtain ⟨further, hrest⟩ := hnext error
  refine ⟨further, ?_⟩
  show next (action s).1 (action s).2 = _
  rw [haction]
  exact hrest

/-- Logging only tells. -/
theorem only_tells_log (console : Console) (topic : LogTopic) (level : Log.Level)
    (message : String) : OnlyTells s (console.log topic level message) () := by
  unfold Console.log
  split
  · exact ⟨_, rfl⟩
  · exact .pure ()

/-- Telling about each of several things only tells. -/
theorem only_tells_each {γ : Type} (items : List γ) {tell : γ → StateM Session Unit}
    (htell : ∀ s item, OnlyTells s (tell item) ()) : OnlyTells s (items.forM tell) () := by
  induction items generalizing s with
  | nil => exact .pure ()
  | cons item items ih => exact (htell s item).bind fun _ => ih

/-- The report on a text only tells of it. -/
theorem only_tells_report_on (console : Console) (source text : String) :
    OnlyTells s (reportOn console source text) (LineReport.ofText text) := by
  unfold reportOn
  refine (only_tells_each _ fun s item => only_tells_log _ _ _ _).bind fun _ => ?_
  exact (only_tells_log _ _ _ _).bind fun _ => .pure _

/-- Reading a file that is there gives the report on its text. -/
theorem only_tells_read_file (console : Console) {path : String} {bytes : List UInt8}
    (h : s.disk.read path = .ok bytes) :
    OnlyTells s (readFile console path)
      (.ok (LineReport.ofText (Text.Utf8.decodeLossy bytes))) := by
  unfold readFile
  have hread : OnlyTells s (Host.readFile path) (.ok bytes) := ⟨s.error, by simp [Host.readFile, h]⟩
  exact hread.bind fun _ => (only_tells_report_on _ _ _).bind fun _ => .pure _

/-- Reading files that are there gives the reports on their texts. -/
theorem only_tells_read_files (console : Console) {contents : String → List UInt8}
    {paths : List String} (h : ∀ path ∈ paths, s.disk.read path = .ok (contents path)) :
    OnlyTells s (readFiles console paths)
      (.ok (paths.map fun path =>
        (path, LineReport.ofText (Text.Utf8.decodeLossy (contents path))))) := by
  induction paths generalizing s with
  | nil => exact .pure _
  | cons path paths ih =>
      have hfirst : ∀ error, OnlyTells { s with error } (readFile console path)
          (.ok (LineReport.ofText (Text.Utf8.decodeLossy (contents path)))) := fun error =>
        only_tells_read_file console (h path List.mem_cons_self)
      have hrest : ∀ error, OnlyTells { s with error } (readFiles console paths) _ := fun error =>
        ih fun other hother => h other (List.mem_cons_of_mem path hother)
      refine (only_tells_log _ _ _ _).bind fun error => (hfirst error).bind fun further => ?_
      exact (hrest further).bind fun _ => .pure _

/-- The texts of files, with their paths. -/
def textsOf (contents : String → List UInt8) (paths : List String) : List (String × String) :=
  paths.map fun path => (path, Text.Utf8.decodeLossy (contents path))

/-- Loading a directory gives the trace of the texts of its files, unless that holds no record. -/
theorem load_directory_run (console : Console) {directory : String}
    {contents : String → List UInt8}
    (h : ∀ path ∈ filePaths directory (s.disk.filesUnder directory),
      s.disk.read path = .ok (contents path)) :
    OnlyTells s (loadDirectory console directory)
      (orNoRecords directory
        (ofTexts (textsOf contents (filePaths directory (s.disk.filesUnder directory))))) := by
  unfold loadDirectory
  have hfiles : OnlyTells s (Host.filesUnder directory) (.ok (s.disk.filesUnder directory)) :=
    ⟨s.error, rfl⟩
  have hreports : ∀ error, OnlyTells { s with error } (readFiles console _) _ := fun error =>
    only_tells_read_files console h
  refine hfiles.bind fun error => (hreports error).bind fun _ => ?_
  rw [ofTexts, textsOf, List.map_map]
  exact .pure _

end CallProfile.Trace

import CallProfile.Proofs.Chart.Outcome
import CallProfile.Proofs.Disk.Directory

/-!
# Charts are independent of each other

Where the files of charts can be written into the output directory, every chart comes to the same as
by itself, whatever was drawn before it, and leaves the files of the others alone. So the order in
which charts are drawn does not matter (`charts_independent`).
-/

namespace CallProfile

/-- Files can be written into a directory: the path of each leads to its name there. -/
def WritesInto (disk : Disk) (directory : String) (home : Place) (files : List String) : Prop :=
  ∀ file ∈ files, Disk.LeadsTo disk (Path.join directory file) (home ++ [file])

/-- Some of the files can be written into the directory. -/
theorem WritesInto.of_subset {disk : Disk} {directory : String} {home : Place}
    {files others : List String} (h : WritesInto disk directory home files)
    (hothers : ∀ file ∈ others, file ∈ files) : WritesInto disk directory home others :=
  fun file hfile => h file (hothers file hfile)

namespace ChartKind

variable {console : Console} {records : List Record} {options : PlotOptions} {s : Session}
  {plotter : Plotter} {bytes : Size → Picture Float → List UInt8} {disk : Disk}
  {directory : String} {home : Place}

/-! ## One chart -/

/-- The entries of pictures at their files in a directory. -/
def pictureEntries (bytes : Size → Picture Float → List UInt8) (size : Size) (home : Place)
    (drawn : List (String × Picture Float)) : List (Place × Entry) :=
  drawn.map fun (file, picture) => (home ++ [file], .file (bytes size picture))

/-- The entries of pictures stand at their files. -/
theorem places_of_pictures (size : Size) (home : Place) (drawn : List (String × Picture Float)) :
    (pictureEntries bytes size home drawn).map (·.1) =
      (drawn.map (·.1)).map fun file => home ++ [file] := by
  rw [pictureEntries, List.map_map, List.map_map]
  rfl

/-- Files that can be written into a directory still can after pictures were written to some. -/
theorem writes_into_put_all {files : List String} {size : Size}
    {drawn : List (String × Picture Float)} (hinto : WritesInto disk directory home files)
    (hdrawn : ∀ file ∈ drawn.map (·.1), file ∈ files) :
    WritesInto (disk.putAll (pictureEntries bytes size home drawn)) directory home files := by
  induction drawn generalizing disk with
  | nil => exact hinto
  | cons file drawn ih =>
      have htakes := (hinto file.1 (hdrawn file.1 List.mem_cons_self)).takes
      exact ih (fun other hother => (hinto other hother).put htakes (bytes size file.2))
        fun other hother => hdrawn other (List.mem_cons_of_mem _ hother)

/-- Pictures whose files can be written into a directory are all drawn to them. -/
theorem written_on_ready (hstores : plotter.Stores bytes) (size : Size)
    (drawn : List (String × Picture Float))
    (hinto : WritesInto disk directory home (drawn.map (·.1))) :
    writtenOn plotter size disk (drawn.map (Prod.map (Path.join directory) id)) =
      (.ok ((drawn.map (·.1)).map (Path.join directory)),
        disk.putAll (pictureEntries bytes size home drawn)) := by
  induction drawn generalizing disk with
  | nil => rfl
  | cons file drawn ih =>
      obtain ⟨file, picture⟩ := file
      have hfirst := hinto file List.mem_cons_self
      have hrest := @ih (disk.put (home ++ [file]) (.file (bytes size picture)))
        fun other hother => (hinto other (List.mem_cons_of_mem _ hother)).put hfirst.takes _
      rw [List.map_cons, Prod.map_apply, writtenOn, id,
        hstores.draw_eq _ _ _ _ _ (hfirst.write (bytes size picture))]
      dsimp only
      rw [hrest]
      rfl

/-- What a chart comes to where its files can be written. -/
def outcome (records : List Record) (options : PlotOptions) (kind : ChartKind) : ChartResult :=
  ⟨kind, (kind.pictures records options).map fun _ => kind.paths options.outputDir⟩

/-- The entries that a chart puts at its files. -/
def entries (records : List Record) (options : PlotOptions)
    (bytes : Size → Picture Float → List UInt8) (home : Place) (kind : ChartKind) :
    List (Place × Entry) :=
  match kind.pictures records options with
  | .error _ => []
  | .ok pictures => pictureEntries bytes options.size home (kind.files.zip pictures)

/-- A chart that is drawn puts an entry for each of its files. -/
theorem entries_of_drawn (home : Place) {kind : ChartKind} {paths : List String}
    (h : (outcome records options kind).files = .ok paths) :
    paths = kind.paths options.outputDir ∧
      ∃ pictures, kind.pictures records options = .ok pictures ∧
        pictures.length = kind.files.length ∧
        entries records options bytes home kind =
          pictureEntries bytes options.size home (kind.files.zip pictures) := by
  unfold outcome at h
  unfold entries
  cases hpictures : kind.pictures records options with
  | error failure =>
      rw [hpictures] at h
      cases h
  | ok pictures =>
      rw [hpictures] at h
      cases h
      exact ⟨rfl, pictures, rfl, length_pictures hpictures, rfl⟩

/-- The entries of a chart stand at its files if it is drawn, and there are none if it is not. -/
theorem places_of_entries (records : List Record) (options : PlotOptions)
    (bytes : Size → Picture Float → List UInt8) (home : Place) (kind : ChartKind) :
    (entries records options bytes home kind).map (·.1) = [] ∨
      ((outcome records options kind).files = .ok (kind.paths options.outputDir) ∧
        (entries records options bytes home kind).map (·.1) =
          kind.files.map fun file => home ++ [file]) := by
  cases hpictures : kind.pictures records options with
  | error failure =>
      unfold entries
      rw [hpictures]
      exact Or.inl rfl
  | ok pictures =>
      have hdrawn : (outcome records options kind).files = .ok (kind.paths options.outputDir) := by
        unfold outcome
        rw [hpictures]
        rfl
      obtain ⟨-, pictures, -, hlength, hentries⟩ := entries_of_drawn home hdrawn
      refine Or.inr ⟨hdrawn, ?_⟩
      rw [hentries, places_of_pictures, List.map_fst_zip hlength.ge]

/-- An entry of a chart stands at one of its files, and the chart is drawn. -/
theorem exists_file_of_place {kind : ChartKind} {place : Place}
    (h : place ∈ (entries records options bytes home kind).map (·.1)) :
    (outcome records options kind).files = .ok (kind.paths options.outputDir) ∧
      ∃ file ∈ kind.files, home ++ [file] = place := by
  rcases places_of_entries records options bytes home kind with hnone | ⟨hdrawn, hplaces⟩
  · rw [hnone] at h
    cases h
  · rw [hplaces] at h
    exact ⟨hdrawn, List.mem_map.mp h⟩

/-- A chart whose files can be written comes to its outcome and puts its entries. -/
theorem does_draw_ready (console : Console) (records : List Record)
    (hstores : s.plotter.Stores bytes) {kind : ChartKind}
    (hinto : WritesInto s.disk options.outputDir home kind.files) :
    Does console s (draw console records options kind) (outcome records options kind)
      (s.disk.putAll (entries records options bytes home kind)) := by
  have hdraw := does_draw (s := s) console records options kind
  unfold drawnOn at hdraw
  unfold outcome entries
  cases hpictures : kind.pictures records options with
  | error failure =>
      rw [hpictures] at hdraw
      exact hdraw
  | ok pictures =>
      rw [hpictures] at hdraw
      have hfiles : (kind.files.zip pictures).map (·.1) = kind.files :=
        List.map_fst_zip (length_pictures hpictures).ge
      have hwritten := written_on_ready hstores options.size (kind.files.zip pictures)
        (hfiles.symm ▸ hinto)
      dsimp only at hdraw
      rw [paths, List.zip_map_left, hwritten, hfiles] at hdraw
      exact hdraw

/-! ## Several charts -/

/-- Files that can be written into a directory still can after a chart was drawn to some. -/
theorem writes_into_entries (records : List Record) (options : PlotOptions)
    (bytes : Size → Picture Float → List UInt8) {files : List String} {kind : ChartKind}
    (hinto : WritesInto disk directory home files) (hkind : ∀ file ∈ kind.files, file ∈ files) :
    WritesInto (disk.putAll (entries records options bytes home kind)) directory home files := by
  unfold entries
  cases kind.pictures records options with
  | error failure => exact hinto
  | ok pictures =>
      refine writes_into_put_all hinto fun file hfile => hkind file ?_
      obtain ⟨⟨file, picture⟩, hpair, rfl⟩ := List.mem_map.mp hfile
      exact (List.of_mem_zip hpair).1

/-- Charts whose files can be written each come to their outcome and put their entries. -/
theorem does_draw_all_ready (console : Console) (records : List Record)
    (hstores : s.plotter.Stores bytes) {kinds : List ChartKind}
    (hinto : WritesInto s.disk options.outputDir home (kinds.flatMap (·.files))) :
    Does console s (drawAll console records options kinds) (kinds.map (outcome records options))
      (s.disk.putAll (kinds.flatMap (entries records options bytes home))) := by
  induction kinds generalizing s with
  | nil => exact .pure []
  | cons kind kinds ih =>
      have hkind : ∀ file ∈ kind.files, file ∈ (kind :: kinds).flatMap (·.files) :=
        fun file hfile => List.mem_append_left _ hfile
      have hfirst := does_draw_ready console records hstores (hinto.of_subset hkind)
      -- drawing the first chart changes the disk, but not what can be written to it
      have hlater := (writes_into_entries records options bytes hinto hkind).of_subset
        fun file hfile => List.mem_append_right kind.files hfile
      rw [List.flatMap_cons, Disk.put_all_append]
      unfold drawAll
      rw [List.mapM_cons]
      refine hfirst.bind fun error => ?_
      have hrest := ih (s := { s with
        disk := s.disk.putAll (entries records options bytes home kind), error }) hstores hlater
      exact hrest.bind fun _ => .pure _

/-- No two kinds have a file in common. -/
theorem eq_of_common_file {kind other : ChartKind} {file : String} (hkind : file ∈ kind.files)
    (hother : file ∈ other.files) : kind = other := by
  -- the first kind that has a file is the one that it belongs to
  have howner (kind : ChartKind) : ∀ file ∈ kind.files,
      all.find? (·.files.contains file) = some kind := by
    cases kind <;> decide +kernel
  exact Option.some.inj ((howner kind file hkind).symm.trans (howner other file hother))

/-- Different charts put their entries at different places, and each at different places. -/
theorem nodup_entries (records : List Record) (options : PlotOptions)
    (bytes : Size → Picture Float → List UInt8) (home : Place) {kinds : List ChartKind}
    (hnodup : kinds.Nodup) :
    ((kinds.flatMap (entries records options bytes home)).map (·.1)).Nodup := by
  rw [List.map_flatMap, List.nodup_flatMap]
  refine ⟨fun kind _ => ?_, hnodup.imp fun {kind other} hne place hplace hother => ?_⟩
  · have hfiles : kind.files.Nodup := (nodup_paths kind options.outputDir).of_map _
    rcases places_of_entries records options bytes home kind with hnone | ⟨-, hplaces⟩
    · rw [hnone]
      exact List.nodup_nil
    · rw [hplaces]
      exact hfiles.map fun file other hsame => by simpa using hsame
  · obtain ⟨-, file, hfile, hat⟩ := exists_file_of_place hplace
    obtain ⟨-, otherFile, hotherFile, hotherAt⟩ := exists_file_of_place hother
    have hsame : file = otherFile := by simpa using hat.trans hotherAt.symm
    exact hne (eq_of_common_file hfile (hsame ▸ hotherFile))

/-! ## Independence -/

/-- What a chart comes to when it is drawn by itself. -/
def alone (console : Console) (records : List Record) (options : PlotOptions) (s : Session)
    (kind : ChartKind) : ChartResult :=
  ((draw console records options kind : StateM Session ChartResult) s).1

/-- The results of charts that are drawn one after the other. -/
def together (console : Console) (records : List Record) (options : PlotOptions) (s : Session)
    (kinds : List ChartKind) : List ChartResult :=
  ((drawAll console records options kinds : StateM Session (List ChartResult)) s).1

/-- The disk after charts are drawn one after the other. -/
def diskAfter (console : Console) (records : List Record) (options : PlotOptions) (s : Session)
    (kinds : List ChartKind) : Disk :=
  ((drawAll console records options kinds : StateM Session (List ChartResult)) s).2.disk

/-- What drawing charts into a directory comes to when they are independent of each other: every
order gives each kind the outcome that it has by itself and leaves the same files, which are those
of the charts that were drawn and no others. -/
structure DrawnApart (console : Console) (records : List Record) (options : PlotOptions)
    (bytes : Size → Picture Float → List UInt8) (kinds : List ChartKind) (home : Place)
    (s : Session) : Prop where
  /-- Each kind comes to what it comes to by itself, in the order of the kinds. -/
  outcomes : ∀ order, order.Perm kinds →
    together console records options s order = order.map (alone console records options s)
  ownKind : ∀ kind ∈ kinds, (alone console records options s kind).kind = kind
  /-- Every order leaves the same tree. -/
  tree : ∀ order, order.Perm kinds → ∀ place,
    Disk.entry? (diskAfter console records options s order) place =
      Disk.entry? (diskAfter console records options s kinds) place
  /-- A chart that is drawn leaves its pictures in its files. -/
  written : ∀ kind ∈ kinds, ∀ paths, (alone console records options s kind).files = .ok paths →
    paths = kind.paths options.outputDir ∧
      ∃ pictures, kind.pictures records options = .ok pictures ∧
        pictures.length = kind.files.length ∧
        ∀ file picture, (file, picture) ∈ kind.files.zip pictures →
          Disk.entry? (diskAfter console records options s kinds) (home ++ [file]) =
            some (.file (bytes options.size picture))
  /-- Everything else is as it was. -/
  untouched : ∀ place,
    (∀ kind ∈ kinds, ∀ paths, (alone console records options s kind).files = .ok paths →
      ∀ file ∈ kind.files, home ++ [file] ≠ place) →
    Disk.entry? (diskAfter console records options s kinds) place = s.disk.entry? place
  /-- No file belongs to two kinds. -/
  apart : ∀ kind ∈ kinds, ∀ other ∈ kinds, ∀ file ∈ kind.files, file ∈ other.files → kind = other

/-- A chart whose files can be written comes to its outcome by itself. -/
theorem alone_eq (console : Console) (records : List Record) (hstores : s.plotter.Stores bytes)
    {kind : ChartKind}
    (hinto : WritesInto s.disk options.outputDir home kind.files) :
    alone console records options s kind = outcome records options kind := by
  obtain ⟨_, -, hrun⟩ := does_draw_ready console records hstores hinto
  exact congrArg Prod.fst hrun

/-- Charts whose files can be written come to their outcomes and put their entries. -/
theorem together_eq (console : Console) (records : List Record) (hstores : s.plotter.Stores bytes)
    {kinds : List ChartKind}
    (hinto : WritesInto s.disk options.outputDir home (kinds.flatMap (·.files))) :
    together console records options s kinds = kinds.map (outcome records options) ∧
      diskAfter console records options s kinds =
        s.disk.putAll (kinds.flatMap (entries records options bytes home)) := by
  obtain ⟨_, -, hrun⟩ := does_draw_all_ready console records hstores hinto
  exact ⟨congrArg Prod.fst hrun, congrArg (·.2.disk) hrun⟩

/-- Charts whose files can be written into the output directory are independent of each other, with
a plotter that stores pictures. -/
theorem charts_independent (console : Console) (records : List Record) {kinds : List ChartKind}
    (hstores : s.plotter.Stores bytes) (hnodup : kinds.Nodup)
    (hinto : WritesInto s.disk options.outputDir home (kinds.flatMap (·.files))) :
    DrawnApart console records options bytes kinds home s := by
  have halone (kind : ChartKind) (hkind : kind ∈ kinds) :=
    alone_eq console records hstores (hinto.of_subset fun file hfile =>
      List.mem_flatMap.mpr ⟨kind, hkind, hfile⟩)
  have htogether (order : List ChartKind) (horder : order.Perm kinds) :=
    together_eq console records hstores (hinto.of_subset fun file hfile =>
      ((horder.flatMap_right _).mem_iff).mp hfile)
  -- no place is given two entries, so the order in which they are put does not matter
  have hentries := nodup_entries records options bytes home hnodup
  have hroots : ∀ file ∈ kinds.flatMap (entries records options bytes home), file.1 ≠ [] := by
    intro file hfile
    obtain ⟨kind, -, hfile⟩ := List.mem_flatMap.mp hfile
    obtain ⟨-, name, -, hplace⟩ := exists_file_of_place (List.mem_map_of_mem hfile)
    rw [← hplace]
    exact List.append_ne_nil_of_right_ne_nil _ (List.cons_ne_nil _ _)
  refine ⟨fun order horder => ?_, fun kind hkind => ?_, fun order horder place => ?_,
    fun kind hkind paths hfiles => ?_, fun place hothers => ?_,
    fun kind _ other _ file => eq_of_common_file⟩
  · rw [(htogether order horder).1]
    exact List.map_congr_left fun kind hkind => (halone kind (horder.mem_iff.mp hkind)).symm
  · rw [halone kind hkind]
    rfl
  · rw [(htogether order horder).2, (htogether kinds (.refl _)).2]
    have hperm := (horder.flatMap_right (entries records options bytes home)).symm
    exact (Disk.entry_put_all_perm s.disk hperm hentries hroots place).symm
  · rw [halone kind hkind] at hfiles
    obtain ⟨hpaths, pictures, hpictures, hlength, hown⟩ := entries_of_drawn home hfiles
    refine ⟨hpaths, pictures, hpictures, hlength, fun file picture hpair => ?_⟩
    have hentry : (home ++ [file], Entry.file (bytes options.size picture)) ∈
        kinds.flatMap (entries records options bytes home) := by
      refine List.mem_flatMap.mpr ⟨kind, hkind, ?_⟩
      rw [hown]
      exact List.mem_map.mpr ⟨(file, picture), hpair, rfl⟩
    rw [(htogether kinds (.refl _)).2]
    exact Disk.entry_put_all_mem s.disk hentries (hroots _ hentry) hentry
  · rw [(htogether kinds (.refl _)).2]
    refine Disk.entry_put_all_other s.disk fun hplace => ?_
    obtain ⟨entry, hentry, rfl⟩ := List.mem_map.mp hplace
    obtain ⟨kind, hkind, hentry⟩ := List.mem_flatMap.mp hentry
    obtain ⟨hdrawn, file, hfile, hat⟩ := exists_file_of_place (List.mem_map_of_mem hentry)
    rw [← halone kind hkind] at hdrawn
    exact hothers kind hkind _ hdrawn file hfile hat

/-! ## The output directory -/

/-- The files of charts have names that can be given to files in a directory. -/
theorem is_file_name {kind : ChartKind} {file : String} (hfile : file ∈ kind.files) :
    Disk.IsFileName file := by
  have hchecked : ∀ file ∈ kind.files, file ≠ "." ∧ file ≠ ".." ∧
      file.utf8ByteSize ≤ Disk.nameLimit ∧ file ≠ "" ∧ file.toList.contains '/' = false ∧
        file.toList.contains (Char.ofNat 0) = false := by
    cases kind <;> decide +kernel
  obtain ⟨hhere, habove, hsize, hnamed, hplain, hnul⟩ := hchecked file hfile
  exact ⟨⟨hhere, habove, hsize⟩, hnamed, by simpa using hplain, by simpa using hnul⟩

/-- The files of charts can be written into a directory unless a directory or a link has the name of
one of them. -/
theorem writes_into_directory {kinds : List ChartKind}
    (hdirectory : disk.locate true directory = .ok (.existing home .directory))
    (hlength : ∀ kind ∈ kinds, ∀ path ∈ kind.paths directory,
      path.utf8ByteSize ≤ Disk.pathLimit)
    (hfree : ∀ kind ∈ kinds, ∀ file ∈ kind.files, Disk.Takes disk (home ++ [file])) :
    WritesInto disk directory home (kinds.flatMap (·.files)) := by
  intro file hfile
  obtain ⟨kind, hkind, hfile⟩ := List.mem_flatMap.mp hfile
  exact Disk.leads_to_join hdirectory (is_file_name hfile)
    (hlength kind hkind _ (List.mem_map_of_mem hfile)) (hfree kind hkind file hfile)

/-- All charts of a transaction with calls on two tables can be drawn in any order. -/
theorem mixed_calls_apart :
    WritesInto chartSession.disk smallOptions.outputDir ["charts"] (all.flatMap (·.files)) ∧
      DrawnApart .quiet Transaction.mixedCalls smallOptions DrawList.bytes all ["charts"]
        chartSession := by
  have hinto : WritesInto chartSession.disk smallOptions.outputDir ["charts"]
      (all.flatMap (·.files)) := by
    refine writes_into_directory ?_ (by decide +kernel) fun _ _ file _ => Or.inl ?_
    · have hparts : Path.parts "charts" = ["charts"] := by decide +kernel
      have hsize : "charts".utf8ByteSize = 6 := by decide +kernel
      have hplain : Path.isAbsolute "charts" = false ∧ Path.endsInSlash "charts" = false := by
        decide +kernel
      have houtput : smallOptions.outputDir = "charts" := rfl
      simp [Disk.locate, houtput, hparts, hsize, hplain, Disk.pathLimit, Disk.nameLimit, Disk.walk,
        Disk.entry?, chartSession, Session.start]
    · simp [chartSession, Disk.entry?, Session.start, List.lookup_cons]
  exact ⟨hinto, charts_independent .quiet Transaction.mixedCalls Plotter.recording_stores
    (by decide) hinto⟩

end ChartKind

end CallProfile

import CallProfile.Proofs.Chart.Content
import CallProfile.Proofs.Remarks

/-!
# Drawing on a disk

What drawing does follows from the plotter and the disk alone: the plotter draws one picture after
the other up to the first that it cannot draw (`writtenOn`), and a chart does nothing else
(`does_draw`). Charts are drawn one after the other, each once and on the disk that the one before
it left (`drawn_in_turn`). Of the plotter nothing is assumed until files are spoken of: then it is
one that stores pictures where files can be written (`Plotter.Stores`).
-/

namespace CallProfile

/-! ## Plotters -/

/-- The plotter stores each picture as its bytes: where a file with them can be written, drawing the
picture writes it and does nothing else. -/
structure Plotter.Stores (plotter : Plotter) (bytes : Size → Picture Float → List UInt8) : Prop
    where
  draw_eq : ∀ size picture path (disk next : Disk),
    disk.write path (bytes size picture) = .ok next →
      plotter.draw size picture path disk = (.ok (), next)

/-- The plotter that writes draw lists stores pictures as these. -/
theorem Plotter.recording_stores : recording.Stores DrawList.bytes := by
  refine ⟨fun size picture path disk next h => ?_⟩
  simp only [recording, h]

/-- The disk after files are written one after the other. -/
def Disk.writeAll (disk : Disk) : List (String × List UInt8) → Except Fault Disk
  | [] => .ok disk
  | (path, bytes) :: rest =>
    match disk.write path bytes with
    | .ok next => next.writeAll rest
    | .error fault => .error fault

namespace ChartKind

variable {console : Console} {records : List Record} {options : PlotOptions} {plotter : Plotter}
  {s : Session}

/-! ## One chart -/

/-- What comes of drawing pictures on a disk: their paths or the first failure, and the disk that is
left. -/
def writtenOn (plotter : Plotter) (size : Size) :
    Disk → List (String × Picture Float) → Except Failure (List String) × Disk
  | disk, [] => (.ok [], disk)
  | disk, (path, picture) :: rest =>
    match plotter.draw size picture path disk with
    | (.error message, left) => (.error (.notDrawn path message), left)
    | (.ok (), next) =>
      let (paths, final) := writtenOn plotter size next rest
      (paths.map (path :: ·), final)

/-- There is a picture for each file of a kind. -/
theorem length_pictures {kind : ChartKind} {pictures : List (Picture Float)}
    (h : kind.pictures records options = .ok pictures) : pictures.length = kind.files.length := by
  have haxes (hkind : kind ∈ withAxes) : pictures.length = kind.files.length := by
    have houtcome := pictures_outcome_with_axes hkind records options
    rw [h] at houtcome
    exact houtcome.length_drawn
  cases kind with
  | allOps | allMethods | allMethodsTx | txOpTime =>
      obtain ⟨-, rfl⟩ := unless_empty_eq_ok h
      rfl
  | allMethodsById =>
      cases htable : options.tableId with
      | none =>
          simp only [ChartKind.pictures, chosenTable, htable] at h
          cases h
      | some table =>
          simp only [ChartKind.pictures, chosenTable, htable] at h
          obtain ⟨-, rfl⟩ := unless_empty_eq_ok h
          rfl
  | _ => exact haxes (by decide)

/-- Pictures that were all drawn were drawn to their paths. -/
theorem paths_of_written {size : Size} {disk : Disk} {files : List (String × Picture Float)}
    {paths : List String} (h : (writtenOn plotter size disk files).1 = .ok paths) :
    paths = files.map (·.1) := by
  induction files generalizing disk paths with
  | nil =>
      cases h
      rfl
  | cons file rest ih =>
      obtain ⟨path, picture⟩ := file
      unfold writtenOn at h
      generalize plotter.draw size picture path disk = drawn at h
      obtain ⟨message | _, next⟩ := drawn
      · cases h
      · have hrest {others : List String} := @ih next others
        dsimp only at h
        generalize writtenOn plotter size next rest = written at h hrest
        obtain ⟨failure | others, final⟩ := written
        · cases h
        · cases h
          rw [hrest rfl]
          rfl

/-- Pictures fail only if one of them cannot be drawn. -/
theorem unwritten_of_error {size : Size} {disk : Disk} {files : List (String × Picture Float)}
    {failure : Failure} (h : (writtenOn plotter size disk files).1 = .error failure) :
    ∃ path message, failure = .notDrawn path message := by
  induction files generalizing disk with
  | nil => cases h
  | cons file rest ih =>
      obtain ⟨path, picture⟩ := file
      unfold writtenOn at h
      generalize plotter.draw size picture path disk = drawn at h
      obtain ⟨message | _, next⟩ := drawn
      · cases h
        exact ⟨path, message, rfl⟩
      · have hrest := @ih next
        dsimp only at h
        generalize writtenOn plotter size next rest = written at h hrest
        obtain ⟨failure | others, final⟩ := written
        · cases h
          exact hrest rfl
        · cases h

/-- Pictures whose files can all be written are drawn to them, each once. -/
theorem written_of_stores {bytes : Size → Picture Float → List UInt8}
    (hstores : plotter.Stores bytes) {size : Size} {disk final : Disk}
    {files : List (String × Picture Float)}
    (h : disk.writeAll (files.map fun file => (file.1, bytes size file.2)) = .ok final) :
    writtenOn plotter size disk files = (.ok (files.map (·.1)), final) := by
  induction files generalizing disk with
  | nil =>
      cases h
      rfl
  | cons file rest ih =>
      obtain ⟨path, picture⟩ := file
      rw [List.map_cons, Disk.writeAll] at h
      split at h
      · next _ hwrite =>
          rw [writtenOn, hstores.draw_eq _ _ _ _ _ hwrite]
          dsimp only
          rw [ih h]
          rfl
      · cases h

/-- Drawing a picture does what the plotter makes of it. -/
theorem does_draw_picture (console : Console) (size : Size) (path : String)
    (picture : Picture Float) {drawn : Except String Unit} {next : Disk}
    (h : s.plotter.draw size picture path s.disk = (drawn, next)) :
    Does console s (drawPicture console size path picture)
      (drawn.mapError (Failure.notDrawn path)) next := by
  have hhost : Does console s (Host.drawPicture size picture path) drawn next := by
    refine ⟨"", .none, ?_⟩
    rw [String.append_empty]
    exact congrArg (fun drawing => (drawing.1, { s with disk := drawing.2 })) h
  unfold drawPicture
  refine hhost.bind fun _ => ?_
  cases drawn with
  | error message => exact .pure _
  | ok _ => exact (does_log console _ _ _).bind fun _ => .pure _

/-- Drawing pictures does what it comes to on the disk. -/
theorem does_draw_pictures (console : Console) (size : Size)
    (files : List (String × Picture Float)) :
    Does console s (drawPictures console size files) (writtenOn s.plotter size s.disk files).1
      (writtenOn s.plotter size s.disk files).2 := by
  induction files generalizing s with
  | nil => exact .pure _
  | cons file rest ih =>
      obtain ⟨path, picture⟩ := file
      unfold drawPictures writtenOn
      have hpicture {drawn : Except String Unit} {next : Disk} :=
        @does_draw_picture s console size path picture drawn next
      generalize s.plotter.draw size picture path s.disk = drawing at hpicture ⊢
      obtain ⟨message | _, next⟩ := drawing
      · exact (hpicture rfl).bind fun _ => .pure _
      · -- the remarks of the first picture do not change what the others come to
        have hrest (error : String) : Does console { s with disk := next, error }
            (drawPictures console size rest) (writtenOn s.plotter size next rest).1
            (writtenOn s.plotter size next rest).2 := ih
        dsimp only
        generalize writtenOn s.plotter size next rest = written at hrest
        obtain ⟨paths, final⟩ := written
        refine (hpicture rfl).bind fun error => (hrest error).bind fun _ => ?_
        cases paths with
        | error failure => exact .pure _
        | ok paths => exact .pure _

/-- What comes of a chart on a disk, and the disk that is left. -/
def drawnOn (records : List Record) (options : PlotOptions) (plotter : Plotter) (kind : ChartKind)
    (disk : Disk) : ChartResult × Disk :=
  match kind.pictures records options with
  | .error failure => (⟨kind, .error failure⟩, disk)
  | .ok pictures =>
    let (files, final) :=
      writtenOn plotter options.size disk ((kind.paths options.outputDir).zip pictures)
    (⟨kind, files⟩, final)

/-- Drawing a chart does what it comes to on the disk. -/
theorem does_draw (console : Console) (records : List Record) (options : PlotOptions)
    (kind : ChartKind) :
    Does console s (draw console records options kind)
      (drawnOn records options s.plotter kind s.disk).1
      (drawnOn records options s.plotter kind s.disk).2 := by
  unfold draw drawnOn
  cases kind.pictures records options with
  | error failure => exact .pure _
  | ok pictures => exact (does_draw_pictures console _ _).bind fun _ => .pure _

/-- The result of a chart is its own. A chart that was drawn was drawn to its files. -/
theorem result_drawn_on (records : List Record) (options : PlotOptions) (plotter : Plotter)
    (kind : ChartKind) (disk : Disk) :
    (drawnOn records options plotter kind disk).1.kind = kind ∧
      ∀ paths, (drawnOn records options plotter kind disk).1.files = .ok paths →
        paths = kind.paths options.outputDir := by
  unfold drawnOn
  cases hpictures : kind.pictures records options with
  | error failure => exact ⟨rfl, nofun⟩
  | ok pictures =>
      refine ⟨rfl, fun paths hpaths => ?_⟩
      have hcount := (length_paths kind options.outputDir).trans (length_pictures hpictures).symm
      rw [paths_of_written hpaths, List.map_fst_zip hcount.le]

/-! ## Several charts -/

/-- Charts are drawn one after the other from one disk to another, each once, whatever else the
session holds besides the plotter. -/
inductive DrawnInTurn (console : Console) (records : List Record) (options : PlotOptions)
    (plotter : Plotter) : Disk → List ChartKind → List ChartResult → Disk → Prop where
  | none (disk : Disk) : DrawnInTurn console records options plotter disk [] [] disk
  | next {disk next final : Disk} {kind : ChartKind} {kinds : List ChartKind}
      {result : ChartResult} {results : List ChartResult} (hkind : result.kind = kind)
      (hpaths : ∀ paths, result.files = .ok paths → paths = kind.paths options.outputDir)
      (hdraw : ∀ s : Session, s.plotter = plotter → s.disk = disk →
        Does console s (draw console records options kind) result next)
      (hrest : DrawnInTurn console records options plotter next kinds results final) :
      DrawnInTurn console records options plotter disk (kind :: kinds) (result :: results) final

/-- There is a result for each chart, in order. -/
theorem DrawnInTurn.kinds_eq {disk final : Disk} {kinds : List ChartKind}
    {results : List ChartResult}
    (h : DrawnInTurn console records options plotter disk kinds results final) :
    results.map (·.kind) = kinds := by
  induction h with
  | none disk => rfl
  | next hkind _ _ _ ih => rw [List.map_cons, hkind, ih]

/-- Drawing charts draws them one after the other. -/
theorem drawn_in_turn (console : Console) (records : List Record) (options : PlotOptions)
    (plotter : Plotter) (kinds : List ChartKind) (disk : Disk) :
    ∃ results final, DrawnInTurn console records options plotter disk kinds results final ∧
      ∀ s : Session, s.plotter = plotter → s.disk = disk →
        Does console s (drawAll console records options kinds) results final := by
  induction kinds generalizing disk with
  | nil => exact ⟨[], disk, .none disk, fun s _ hs => hs ▸ .pure []⟩
  | cons kind kinds ih =>
      -- the other charts start from the disk that the first one leaves
      obtain ⟨results, final, hturn, hrun⟩ := ih (drawnOn records options plotter kind disk).2
      obtain ⟨hkind, hpaths⟩ := result_drawn_on records options plotter kind disk
      have hdraw (s : Session) (hplotter : s.plotter = plotter) (hs : s.disk = disk) :=
        hs ▸ hplotter ▸ does_draw (s := s) console records options kind
      refine ⟨_, final, .next hkind hpaths hdraw hturn, fun s hplotter hs => ?_⟩
      unfold drawAll
      rw [List.mapM_cons]
      refine (hdraw s hplotter hs).bind fun error => ?_
      exact (hrun { s with disk := _, error } hplotter rfl).bind fun _ => .pure _

end ChartKind

end CallProfile

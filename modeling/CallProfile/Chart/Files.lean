import CallProfile.Chart.Plot
import CallProfile.Console
import CallProfile.Path

/-!
# Drawing charts to files

Each picture of a chart is drawn to its file in the output directory. A chart that fails leaves the
others alone.
-/

namespace CallProfile

/-- What became of a chart: the files written, or why it failed. -/
structure ChartResult where
  kind : ChartKind
  files : Except Failure (List String)

namespace ChartKind

variable {m : Type → Type} [Monad m] [Host m]

/-- Draw one picture to its file. -/
def drawPicture (console : Console) (size : Size) (path : String) (picture : Picture Float) :
    m (Except Failure Unit) := do
  match ← Host.drawPicture size picture path with
  | .error message => return .error (.notDrawn path message)
  | .ok () =>
    console.log .drawing .debug ("Wrote " ++ path)
    return .ok ()

/-- Draw pictures to their files. The first that fails ends the drawing. -/
def drawPictures (console : Console) (size : Size) :
    List (String × Picture Float) → m (Except Failure (List String))
  | [] => return .ok []
  | (path, picture) :: rest => do
    match ← drawPicture console size path picture with
    | .error failure => return .error failure
    | .ok () =>
      match ← drawPictures console size rest with
      | .error failure => return .error failure
      | .ok paths => return .ok (path :: paths)

/-- The files of a kind in the output directory. -/
def paths (kind : ChartKind) (outputDir : String) : List String :=
  kind.files.map (Path.join outputDir)

/-- Draw one chart. The output directory must exist. -/
def draw (console : Console) (records : List Record) (options : PlotOptions)
    (kind : ChartKind) : m ChartResult := do
  match kind.pictures records options with
  | .error failure => return ⟨kind, .error failure⟩
  | .ok pictures =>
    let files := (kind.paths options.outputDir).zip pictures
    return ⟨kind, ← drawPictures console options.size files⟩

/-- Draw charts, each on its own. The program draws several at a time on worker threads, and their
log messages come as they happen; here the charts are drawn in turn. The results are in the order of
the charts in both cases. -/
def drawAll (console : Console) (records : List Record) (options : PlotOptions)
    (kinds : List ChartKind) : m (List ChartResult) :=
  kinds.mapM (draw console records options)

end ChartKind

end CallProfile

import CallProfile.Drawing.Plotter
import CallProfile.Host

/-!
# Sessions

A run of the program as a value: the files it finds and leaves, what it reads, what it writes, and
the plotter that it draws with.
-/

namespace CallProfile

/-- The state of a run. -/
structure Session where
  disk : Disk
  input : List UInt8
  out : String
  error : String
  plotter : Plotter

namespace Session

/-- A run that has not written anything yet, with the plotter that writes draw lists. -/
def start (disk : Disk) (input : List UInt8) : Session :=
  ⟨disk, input, "", "", .recording⟩

/-- Keep a changed disk, or leave it as it was after a fault. -/
def change (result : Except Fault Disk) (s : Session) : Except Fault Unit × Session :=
  match result with
  | .ok disk => (.ok (), { s with disk })
  | .error fault => (.error fault, s)

end Session

/-- A run as a value. -/
instance : Host (StateM Session) where
  readFile path s := (s.disk.read path, s)
  writeFile path bytes s := Session.change (s.disk.write path bytes) s
  makeDirectories path s := Session.change (s.disk.makeDirectories path) s
  isDirectory path s := (s.disk.isDirectory path, s)
  isPresent path s := (s.disk.isPresent path, s)
  filesUnder path s := (.ok (s.disk.filesUnder path), s)
  drawPicture size picture path s :=
    let (drawn, disk) := s.plotter.draw size picture path s.disk
    (drawn, { s with disk })
  readInput s := (s.input, s)
  printOut text s := ((), { s with out := s.out ++ text })
  printError text s := ((), { s with error := s.error ++ text })

end CallProfile

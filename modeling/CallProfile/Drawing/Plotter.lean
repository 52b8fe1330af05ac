import CallProfile.Disk.Tree
import CallProfile.Drawing.DrawList

/-!
# Plotters

A plotter makes a file of a picture. What it writes is its own affair, and so is how it words a
failure. The plotter that is given here writes down the steps of the drawing.
-/

namespace CallProfile

/-- A way to make files of pictures. -/
structure Plotter where
  /-- Draw a picture of a size to a path. A failure comes with its wording, and the disk is left as
  the plotter leaves it. -/
  draw : Size → Picture Float → String → Disk → Except String Unit × Disk

/-- The plotter that writes draw lists. It fails as the system does. -/
def Plotter.recording : Plotter where
  draw size picture path disk :=
    match disk.write path (DrawList.bytes size picture) with
    | .ok next => (.ok (), next)
    | .error fault => (.error fault.message, disk)

end CallProfile

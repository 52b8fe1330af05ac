import CallProfile.Disk.Fault
import CallProfile.Drawing.Picture

/-!
# The surroundings of the program

What the program asks of the system that runs it: files, its input, two places to write to, and
drawings. Everything else it decides by itself.
-/

namespace CallProfile

/-- A system that runs the program. -/
class Host (m : Type → Type) where
  /-- The bytes of a file. -/
  readFile : String → m (Except Fault (List UInt8))
  /-- Write a file, which need not exist before. -/
  writeFile : String → List UInt8 → m (Except Fault Unit)
  /-- Make a directory and all missing ones around it. -/
  makeDirectories : String → m (Except Fault Unit)
  /-- Whether a path leads to a directory. -/
  isDirectory : String → m Bool
  /-- Whether a path leads to anything. -/
  isPresent : String → m Bool
  /-- The regular files below a directory, by the names from it to them. Links below the directory
  are not followed. -/
  filesUnder : String → m (Except Fault (List (List String)))
  /-- Draw a picture of a size to a path. A failure comes with its wording. -/
  drawPicture : Size → Picture Float → String → m (Except String Unit)
  /-- The bytes of the standard input. -/
  readInput : m (List UInt8)
  /-- Write to the standard output. -/
  printOut : String → m Unit
  /-- Write to the standard error output. -/
  printError : String → m Unit

end CallProfile

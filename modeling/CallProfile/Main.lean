import CallProfile.Drawing.DrawList
import CallProfile.Program
import CallProfile.Text.Utf8

/-!
# The command

The program on a real system: its files, its standard input and outputs, and its environment.
-/

namespace CallProfile

/-- The fault of a number that the system gives, with a sign or without. -/
def Fault.ofNumber (number : UInt32) (wording : String) : Fault :=
  match number.toInt32.toInt.natAbs with
  | 2 => .notFound
  | 13 => .notPermitted
  | 17 => .exists
  | 20 => .notDirectory
  | 21 => .isDirectory
  | 36 => .nameTooLong
  | 40 => .tooManyLinks
  | n => .other n wording

/-- The fault of an error that the system reports. -/
def Fault.ofError : IO.Error → Fault
  | .noFileOrDirectory _ number wording | .interrupted _ number wording
  | .alreadyExists _ number wording | .invalidArgument _ number wording
  | .permissionDenied _ number wording | .resourceExhausted _ number wording
  | .inappropriateType _ number wording | .noSuchThing _ number wording
  | .otherError number wording | .resourceBusy number wording | .resourceVanished number wording
  | .unsupportedOperation number wording | .hardwareFault number wording
  | .unsatisfiedConstraints number wording | .illegalOperation number wording
  | .protocolError number wording | .timeExpired number wording =>
    .ofNumber number wording
  | .unexpectedEof => .other 0 "unexpected end of file"
  | .userError wording => .other 0 wording

/-- Do something with the system, and return the fault that it may meet. -/
def attempt {α : Type} (action : IO α) : IO (Except Fault α) := do
  try return .ok (← action)
  catch error => return .error (.ofError error)

/-- The regular files below a directory, by the names from it to them, behind the names from another
directory to it. -/
partial def filesBelow (directory : String) (names : List String) : IO (List (List String)) := do
  let entries ← (System.mkFilePath [directory]).readDir
  let found ← entries.toList.mapM fun entry => do
    let place := names ++ [entry.fileName]
    match (← entry.path.symlinkMetadata).type with
    | .file => return [place]
    | .dir => filesBelow entry.path.toString place
    | _ => return []
  return found.flatten

/-- What is left of a stream, behind what was read of it. -/
partial def readRest (stream : IO.FS.Stream) (begun : ByteArray) : IO ByteArray := do
  let bytes ← stream.read 65536
  if bytes.isEmpty then return begun else readRest stream (begun ++ bytes)

/-- Write a file, which need not exist before. -/
def writeBytes (path : String) (bytes : List UInt8) : IO (Except Fault Unit) :=
  attempt (IO.FS.writeBinFile path ⟨bytes.toArray⟩)

/-- A real system. Its drawings are draw lists. -/
instance : Host IO where
  readFile path := attempt (do return (← IO.FS.readBinFile path).toList)
  writeFile path bytes := writeBytes path bytes
  makeDirectories path := attempt (IO.FS.createDirAll path)
  isDirectory path := (System.mkFilePath [path]).isDir
  isPresent path := (System.mkFilePath [path]).pathExists
  filesUnder path := attempt (filesBelow path [])
  drawPicture size picture path := do
    return (← writeBytes path (DrawList.bytes size picture)).mapError Fault.message
  readInput := do return (← readRest (← IO.getStdin) .empty).toList
  printOut text := do (← IO.getStdout).putStr text
  printError text := do (← IO.getStderr).putStr text

/-- The variable of an entry, which stands in front of the sign of equality. -/
def variableOf (entry : List Char) : String × String :=
  (String.ofList (entry.takeWhile (· != '=')), String.ofList ((entry.dropWhile (· != '=')).drop 1))

/-- The environment of the process. -/
def processEnvironment : IO Environment := do
  let bytes ← IO.FS.readBinFile "/proc/self/environ"
  let entries := (Text.Utf8.decodeLossy bytes.toList).toList.splitOnP (· == Char.ofNat 0)
  return ⟨(entries.filter (!·.isEmpty)).map variableOf, none⟩

end CallProfile

/-- Run the program on the arguments of the process. -/
def main (arguments : List String) : IO UInt32 := do
  let ending ← CallProfile.Program.run (← CallProfile.processEnvironment) arguments
  return ending.code.toUInt32

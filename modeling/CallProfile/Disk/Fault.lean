/-!
# Faults of files

Why the system refused to read or to write, with its own wording.
-/

namespace CallProfile

/-- Why something could not be done with a file. -/
inductive Fault where
  | notFound
  | notPermitted
  | exists
  | notDirectory
  | isDirectory
  | nameTooLong
  | tooManyLinks
  /-- The path holds a character that no path can. -/
  | nulInPath
  /-- The bytes are no text. -/
  | notUtf8
  /-- Another fault of the system, by its number and wording. -/
  | other (number : Nat) (wording : String)
  deriving DecidableEq, Repr

namespace Fault

/-- The wording of a fault that has a number. -/
def numbered (wording : String) (number : Nat) : String :=
  wording ++ " (os error " ++ toString number ++ ")"

/-- The wording of a fault. -/
def message : Fault → String
  | notFound => numbered "No such file or directory" 2
  | notPermitted => numbered "Permission denied" 13
  | .exists => numbered "File exists" 17
  | notDirectory => numbered "Not a directory" 20
  | isDirectory => numbered "Is a directory" 21
  | nameTooLong => numbered "File name too long" 36
  | tooManyLinks => numbered "Too many levels of symbolic links" 40
  | nulInPath => "file name contained an unexpected NUL byte"
  | notUtf8 => "stream did not contain valid UTF-8"
  | other number wording => numbered wording number

end Fault

end CallProfile

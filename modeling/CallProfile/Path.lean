/-!
# Paths

A path is a text whose parts stand between slashes. Empty parts mean nothing, a part `.` stays
where it is, and a part `..` goes up.
-/

namespace CallProfile.Path

/-- The parts of a path. -/
def parts (path : String) : List String :=
  ((path.toList.splitOnP (· == '/')).map String.ofList).filter (· != "")

/-- Whether the path starts from the root of all files. -/
def isAbsolute (path : String) : Bool :=
  path.toList.head? == some '/'

/-- Whether the path ends in a slash, and so names a directory. -/
def endsInSlash (path : String) : Bool :=
  path.toList.getLast? == some '/'

/-- The path of a name in a directory. An absolute name stands for itself. -/
def join (directory name : String) : String :=
  if isAbsolute name then name
  else if directory = "" || endsInSlash directory then directory ++ name
  else directory ++ "/" ++ name

/-- The path of parts below a directory. -/
def joinAll (directory : String) (names : List String) : String :=
  names.foldl join directory

/-- The parts that a path is compared and shortened by: a part `.` counts only at the front of a
relative path. -/
def significantParts (path : String) : List String :=
  match parts path with
  | "." :: rest =>
    if isAbsolute path then rest.filter (· != ".") else "." :: rest.filter (· != ".")
  | all => all.filter (· != ".")

/-- The path without its last part. The root and the empty path have none. -/
def parent? (path : String) : Option String :=
  match significantParts path with
  | [] => none
  | all =>
    let shorter := "/".intercalate all.dropLast
    some (if isAbsolute path then "/" ++ shorter else shorter)

/-- The name at the end of a path, if it ends in one. -/
def fileName? (path : String) : Option String :=
  match (significantParts path).getLast? with
  | some ".." => none
  | some "." => none
  | other => other

/-- What stands behind the last point of the name, unless the name has none or begins with it. -/
def extension? (path : String) : Option String :=
  match fileName? path with
  | none => none
  | some name =>
    let reversed := name.toList.reverse
    let ending := reversed.takeWhile (· != '.')
    if ending.length + 1 < reversed.length then some (String.ofList ending.reverse) else none

end CallProfile.Path

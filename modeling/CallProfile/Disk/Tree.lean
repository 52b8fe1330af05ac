import CallProfile.Disk.Fault
import CallProfile.Path

/-!
# File trees

A tree of files, directories and symbolic links, with the rules by which a path finds its way
through it. The working directory is the root of the tree, and nothing lies outside of it.
-/

namespace CallProfile

/-- What stands at a place of a tree. -/
inductive Entry where
  | file (bytes : List UInt8)
  | directory
  /-- Another name for the path it holds. -/
  | link (target : String)
  deriving DecidableEq

/-- A place of a tree, by the names from the root to it. -/
abbrev Place := List String

/-- A tree of files. The root is always a directory. -/
structure Disk where
  entries : List (Place × Entry)

/-- Where a path leads. -/
inductive Found where
  | existing (place : Place) (entry : Entry)
  /-- Nothing stands there, but the directory around it exists. -/
  | vacant (place : Place)
  deriving DecidableEq

namespace Disk

/-- The tree with nothing in it. -/
def empty : Disk := ⟨[]⟩

/-- What stands at a place. -/
def entry? (disk : Disk) (place : Place) : Option Entry :=
  if place.isEmpty then some .directory else disk.entries.lookup place

/-- Put something at a place. -/
def put (disk : Disk) (place : Place) (entry : Entry) : Disk :=
  ⟨disk.entries.filter (·.1 != place) ++ [(place, entry)]⟩

/-- How many links are followed before a path is given up. -/
def linkLimit : Nat := 40

/-- The bytes that a name may have. -/
def nameLimit : Nat := 255

/-- The bytes that a path may have. -/
def pathLimit : Nat := 4095

/-- Follow the parts of a path from a directory. The last part is followed only if asked for when it
is a link. -/
def walk (disk : Disk) (followLast : Bool) (links : Nat) (here : Place) (parts : List String) :
    Except Fault Found :=
  match parts with
  | [] => .ok (.existing here .directory)
  | part :: rest =>
    if part = "." then disk.walk followLast links here rest
    else if part = ".." then disk.walk followLast links here.dropLast rest
    else if nameLimit < part.utf8ByteSize then .error .nameTooLong
    else
      let place := here ++ [part]
      match disk.entry? place with
      | none => if rest.isEmpty then .ok (.vacant place) else .error .notFound
      | some .directory => disk.walk followLast links place rest
      | some (.file bytes) =>
        if rest.isEmpty then .ok (.existing place (.file bytes)) else .error .notDirectory
      | some (.link target) =>
        if rest.isEmpty && !followLast then .ok (.existing place (.link target))
        else
          match links with
          | 0 => .error .tooManyLinks
          | links + 1 =>
            if target = "" || Path.isAbsolute target then .error .notFound
            else
              let beyond := if Path.endsInSlash target then ["."] else []
              disk.walk followLast links here (Path.parts target ++ beyond ++ rest)
termination_by (links, parts.length)

/-- Where a path leads from the working directory. -/
def locate (disk : Disk) (followLast : Bool) (path : String) : Except Fault Found :=
  if path.toList.contains (Char.ofNat 0) then .error .nulInPath
  else if path = "" then .error .notFound
  else if pathLimit < path.utf8ByteSize then .error .nameTooLong
  else if Path.isAbsolute path then .error .notFound
  else
    let beyond := if followLast && Path.endsInSlash path then ["."] else []
    disk.walk followLast linkLimit [] (Path.parts path ++ beyond)

/-- The bytes of a file. -/
def read (disk : Disk) (path : String) : Except Fault (List UInt8) :=
  match disk.locate true path with
  | .ok (.existing _ (.file bytes)) => .ok bytes
  | .ok (.existing _ _) => .error .isDirectory
  | .ok (.vacant _) => .error .notFound
  | .error fault => .error fault

/-- Whether a path leads to a directory. -/
def isDirectory (disk : Disk) (path : String) : Bool :=
  match disk.locate true path with
  | .ok (.existing _ .directory) => true
  | _ => false

/-- Whether a path leads to anything. -/
def isPresent (disk : Disk) (path : String) : Bool :=
  match disk.locate true path with
  | .ok (.existing _ _) => true
  | _ => false

/-- Write a file, which need not exist before. -/
def write (disk : Disk) (path : String) (bytes : List UInt8) : Except Fault Disk :=
  match disk.locate true path with
  | .ok (.existing place (.file _)) => .ok (disk.put place (.file bytes))
  | .ok (.existing _ _) => .error .isDirectory
  | .ok (.vacant place) => .ok (disk.put place (.file bytes))
  | .error fault => .error fault

/-- Make a directory where nothing stands yet. -/
def makeDirectory (disk : Disk) (path : String) : Except Fault Disk :=
  match disk.locate false path with
  | .ok (.existing _ _) => .error .exists
  | .ok (.vacant place) =>
    if (Path.parts path).getLast? = some "." then .error .notFound
    else .ok (disk.put place .directory)
  | .error fault => .error fault

/-- Make a symbolic link where nothing stands yet. -/
def makeLink (disk : Disk) (path target : String) : Except Fault Disk :=
  match disk.locate false path with
  | .ok (.existing _ _) => .error .exists
  | .ok (.vacant place) => .ok (disk.put place (.link target))
  | .error fault => .error fault

/-- The tree with a directory at a path, which may be there already. -/
def ensureDirectory (disk : Disk) (path : String) : Except Fault Disk :=
  match disk.makeDirectory path with
  | .ok made => .ok made
  | .error fault => if disk.isDirectory path then .ok disk else .error fault

/-- Make a directory and those around it, at most `depth` of them. -/
def makeDirectoriesWithin (disk : Disk) : Nat → String → Except Fault Disk
  | 0, _ => .error .notFound
  | depth + 1, path =>
    if path = "" then .ok disk
    else
      match disk.ensureDirectory path with
      | .error .notFound =>
        match Path.parent? path with
        | none => .error .notFound
        | some parent =>
          match disk.makeDirectoriesWithin depth parent with
          | .ok made => made.ensureDirectory path
          | .error fault => .error fault
      | other => other

/-- Make a directory and all missing ones around it. -/
def makeDirectories (disk : Disk) (path : String) : Except Fault Disk :=
  disk.makeDirectoriesWithin (Path.parts path).length.succ path

/-- The regular files below a directory, by the names from the directory to them. Links below it are
not followed. -/
def filesUnder (disk : Disk) (path : String) : List Place :=
  match disk.locate true path with
  | .ok (.existing root .directory) =>
    disk.entries.filterMap fun (place, entry) =>
      match entry with
      | .file _ => root.isPrefixOf? place
      | _ => none
  | _ => []

end Disk

end CallProfile

import MiniTemplate.Disk.Route
import MiniTemplate.Text.Quoted
/-!
# The file system

A disk is a list of entries, each at its own path; the root is a directory that is always there. The
order of the entries is the order in which a directory may happen to list them, and nothing the
program computes depends on it. Operations fail as those of the system do, with a fault that shows the
path they were given.
-/

namespace MiniTemplate

inductive Disk.Entry where
  | directory
  | file (content : ByteArray)

structure Disk where
  entries : List (Disk.Path × Disk.Entry) := []

namespace Disk

/-- Why the system refuses an operation on a path. -/
inductive Fault where
  | missing (path : String)
  | notDirectory (path : String)
  | isDirectory (path : String)
  | alreadyThere (path : String)
  /-- something that is no directory was to be removed as one -/
  | notRemovable (path : String)
  deriving DecidableEq, Repr

def Fault.message : Fault → String
  | missing path => "[Errno 2] No such file or directory: " ++ Text.quoted path
  | notDirectory path => "[Errno 20] Not a directory: " ++ Text.quoted path
  | isDirectory path => "[Errno 21] Is a directory: " ++ Text.quoted path
  | alreadyThere path => "[Errno 17] File exists: " ++ Text.quoted path
  | notRemovable path => "[Errno 20] Not a directory: PosixPath(" ++ Text.quoted path ++ ")"

/-- What stands at a path. -/
def get? (disk : Disk) (path : Path) : Option Entry :=
  if path.isEmpty then some .directory else disk.entries.lookup path

def isDirectory (disk : Disk) (path : Path) : Bool :=
  match disk.get? path with
  | some .directory => true
  | _ => false

def isFile (disk : Disk) (path : Path) : Bool :=
  match disk.get? path with
  | some (.file _) => true
  | _ => false

/-- Removes a path and everything below it. -/
def remove (disk : Disk) (path : Path) : Disk :=
  { entries := disk.entries.filter fun (other, _) => !path.within other }

def put (disk : Disk) (path : Path) (entry : Entry) : Disk :=
  { entries := (path, entry) :: disk.entries.filter fun (other, _) => other != path }

/-- The paths below a directory, seen from there. -/
def below (disk : Disk) (directory : Path) : List Path :=
  disk.entries.filterMap fun (path, _) =>
    if directory.within path && path != directory then some (path.drop directory.length) else none

/-! ### Walking -/

/-- Follows names from a directory. Every name, also a dot or an empty one, needs a directory to be
looked up in. The faults show the path as it was given. -/
def walk (disk : Disk) (shown : String) (path : Path) : List String → Except Fault Path
  | [] => .ok path
  | name :: names =>
    match disk.get? path with
    | none => .error (.missing shown)
    | some (.file _) => .error (.notDirectory shown)
    | some .directory =>
      if name == "" || name == "." then disk.walk shown path names
      else if name == ".." then disk.walk shown path.dropLast names
      else disk.walk shown (path ++ [name]) names

/-- What stands where a written path leads, if it leads anywhere. -/
def find? (disk : Disk) (workPlace : Path) (text : String) : Option Entry :=
  if text == "" then none
  else match disk.walk text ((Route.ofText text).start workPlace) (Route.rawNames text) with
    | .ok path => disk.get? path
    | .error _ => none

/-! ### Reading and writing -/

def readAt (disk : Disk) (shown : String) (path : Path) : Except Fault ByteArray :=
  match disk.get? path with
  | none => .error (.missing shown)
  | some .directory => .error (.isDirectory shown)
  | some (.file content) => .ok content

/-- The content of the file that a route leads to. -/
def read (disk : Disk) (workPlace : Path) (route : Route) : Except Fault ByteArray := do
  disk.readAt route.text (← disk.walk route.text (route.start workPlace) route.names)

/-- Makes the directories from `done` on along `names`, where there are none yet. -/
def makeFrom (disk : Disk) (done : Path) : List String → Disk
  | [] => disk
  | name :: names =>
    let path := done ++ [name]
    makeFrom (if (disk.get? path).isSome then disk else disk.put path .directory) path names

/-- Whether a file stands on the way to a path. -/
def blocked (disk : Disk) (path : Path) : Bool :=
  (List.range path.length).any fun n => disk.isFile (path.take n)

/-- Makes a directory with all its parents, unless it is there already. -/
def makeDirectory (disk : Disk) (path : Path) : Except Fault Disk :=
  if disk.blocked path then .error (.notDirectory path.text)
  else if disk.isFile path then .error (.alreadyThere path.text)
  else .ok (disk.makeFrom [] path)

/-- Writes a file into a directory that is there. -/
def write (disk : Disk) (path : Path) (content : ByteArray) : Except Fault Disk :=
  if disk.isDirectory path then .error (.isDirectory path.text)
  else .ok (disk.put path (.file content))

/-- Removes a directory with all it holds, if it is there. -/
def clear (disk : Disk) (path : Path) : Except Fault Disk :=
  match disk.get? path with
  | none => .ok disk
  | some .directory => .ok (disk.remove path)
  | some (.file _) => .error (.notRemovable path.text)

end Disk

end MiniTemplate

import MiniTemplate.Command.Request
import MiniTemplate.Command.Run
/-!
# The program on a real disk

The commands work on a disk that is a value. This module reads that value, as far as the arguments can
reach, from the file system, runs the command, and carries the changes over.
-/

namespace MiniTemplate.Main

/-- Room for documents of any ordinary size. -/
def limits : Limits := { brackets := 900, nodes := 480, visits := 250 }

/-- A text from outside, where every character is its own code point. -/
def spelled (s : String) : String :=
  Text.ofPoints (s.toList.map Char.toNat)

/-- A text as it is shown outside, where surrogates cannot be shown. -/
def shown (s : String) : String :=
  String.ofList ((Text.points s.toList).map fun point =>
    if Text.isSurrogate point then '\ufffd' else Char.ofNat point)

/-- The paths that the arguments can mean: each argument, what follows its equals sign, and the
directory that a build writes to by default. -/
def mentioned (workPlace : Disk.Path) (arguments : List String) : List Disk.Path :=
  let texts := arguments.flatMap fun argument =>
    argument :: ((Command.splitValue argument.toList).2.map String.ofList).toList
  (Command.Request.defaultOutput :: texts.map Disk.Route.ofText).map (·.resolve workPlace)

/-- Reads an entry and everything below it. -/
partial def readTree (disk : Disk) (path : Disk.Path) : IO Disk := do
  let file := (← IO.currentDir) / shown path.text
  if ← file.isDir then
    let mut disk := disk.put path .directory
    for entry in ← file.readDir do
      disk ← readTree disk (path ++ [spelled entry.fileName])
    return disk
  else if ← file.pathExists then
    return disk.put path (.file (← IO.FS.readBinFile file))
  else return disk

/-- Reads the directories on the way to a path, and a file among them if it blocks the way. -/
def readParents (disk : Disk) (path : Disk.Path) : IO Disk := do
  let mut disk := disk
  for n in List.range path.length do
    let parent : Disk.Path := path.take n
    let file := (← IO.currentDir) / shown parent.text
    if ← file.isDir then disk := disk.put parent .directory
    else if ← file.pathExists then disk := disk.put parent (.file .empty)
  return disk

def readDisk (paths : List Disk.Path) : IO Disk := do
  let mut disk : Disk := {}
  for path in paths do
    disk ← readTree (← readParents disk path) path
  return disk

/-- Removes what is gone, the deepest paths first. -/
def removeGone (old new : Disk) : IO Unit := do
  let gone := old.entries.filter fun (path, _) => (new.get? path).isNone
  for (path, entry) in gone.mergeSort (fun a b => b.1.length ≤ a.1.length) do
    match entry with
    | .directory => IO.FS.removeDir (shown path.text)
    | .file _ => IO.FS.removeFile (shown path.text)

/-- Writes what is new or has changed, parents first. -/
def writeNew (old new : Disk) : IO Unit := do
  for (path, entry) in new.entries.mergeSort (fun a b => a.1.length ≤ b.1.length) do
    match entry, old.get? path with
    | .directory, some .directory => pure ()
    | .directory, _ => IO.FS.createDirAll (shown path.text)
    | .file content, some (.file present) =>
      if content != present then IO.FS.writeBinFile (shown path.text) content
    | .file content, _ => IO.FS.writeBinFile (shown path.text) content

/-- Whether events of a level are shown. -/
def shows (threshold level : Level) : Bool :=
  match threshold, level with
  | .debug, _ => true
  | _, .debug => false
  | _, _ => true

end MiniTemplate.Main

open MiniTemplate in
def main (arguments : List String) : IO UInt32 := do
  let here ← IO.currentDir
  let workPlace := (Disk.Route.ofText (Main.spelled here.toString)).names
  let arguments := arguments.map Main.spelled
  let disk ← Main.readDisk (Main.mentioned workPlace arguments)
  let setting : Command.Setting :=
    { console := .usual, rendering := Main.limits, building := Main.limits, disk, workPlace }
  let result := Command.run setting arguments
  Main.removeGone disk result.disk
  Main.writeNew disk result.disk
  for event in result.log do
    if Main.shows result.level event.level then IO.eprintln (Main.shown event.message)
  IO.print (Main.shown result.output)
  if let some problem := result.problem then IO.eprintln ("Error: " ++ Main.shown problem.message)
  return result.exitCode.toUInt32

import MiniTemplate.Load.File
/-!
# Building a directory of documents

Every document below the source directory is compiled into a file of the output directory, at the
place that corresponds to its own. Documents are the entries whose name ends in `.json`; a name on the
way that starts with a point or an underscore makes an entry private. A document that cannot be loaded
is skipped, one that cannot be generated is written as a diagnostic document, and both count as
failed. Before that the output directory is cleared, which is why it must not hold the sources.
-/

namespace MiniTemplate.Build

/-- What ends a build early. -/
inductive Failure where
  | outputHoldsSources
  | system (fault : Disk.Fault)
  | longInteger (digits : Nat)
  | tooDeep
  /-- the text of a document cannot be encoded -/
  | unwritable (fault : Text.Utf8.Unwritable)

structure State where
  disk : Disk
  log : Log := []

end Build

abbrev Build := EStateM Build.Failure Build.State

namespace Build

/-- The result of a build: how many documents there were, how many of them failed, and those that
did, by their path below the source directory. -/
structure Summary where
  templates : Nat
  failures : Nat
  failed : List Disk.Path
  output : Disk.Path

def ofDisk (action : Disk → Except Disk.Fault Disk) : Build Unit := do
  let state ← get
  match action state.disk with
  | .ok disk => set { state with disk }
  | .error fault => throw (.system fault)

def report (events : Log) : Build Unit :=
  modify fun state => { state with log := state.log ++ events }

/-! ### Sources -/

def isPrivateName (name : String) : Bool :=
  match name.toList.head? with
  | some c => c == '.' || c == '_'
  | none => false

def isDocumentName (name : String) : Bool :=
  ".json".toList.isSuffixOf name.toList

/-- Puts a path into its place among sorted ones. Paths are compared name by name. -/
def insertSorted (path : Disk.Path) : List Disk.Path → List Disk.Path
  | [] => [path]
  | other :: others =>
    if other < path then other :: insertSorted path others else path :: other :: others

def sorted (paths : List Disk.Path) : List Disk.Path :=
  paths.foldr insertSorted []

/-- The documents below the source directory, in order. -/
def sources (disk : Disk) (source : Disk.Path) : List Disk.Path :=
  sorted ((disk.below source).filter fun path =>
    isDocumentName (Disk.Path.name path) && !path.any isPrivateName)

/-! ### Documents -/

/-- The file that a document is compiled to. -/
def target (output path : Disk.Path) : Disk.Path :=
  output ++ path.dropLast ++ [Disk.Path.stemOf (Disk.Path.name path) ++ ".wxml"]

/-- Loads a document. A failure that concerns the document alone is reported. -/
def load (limits : Limits) (source path : Disk.Path) : Build (Option Document) := do
  let file := source ++ path
  let (document, log) :=
    Document.ofFile limits file.text (Disk.Path.name path) ((← get).disk.readAt file.text file)
  report log
  let skip (reason : String) : Build (Option Document) := do
    report [.documentSkipped (Disk.Path.joined path) reason]
    return none
  match document with
  | .ok document => return some document
  | .error (.malformed error) => skip error.message
  | .error (.unreadable fault) => skip fault.message
  | .error (.longInteger digits) => throw (.longInteger digits)
  | .error .tooDeep => throw .tooDeep

/-- Writes a text to a file, which is emptied before the text is encoded. -/
def writeText (file : Disk.Path) (text : String) : Build Unit :=
  match Text.Utf8.encode text with
  | .ok bytes => ofDisk fun disk => disk.write file bytes
  | .error fault => do
    ofDisk fun disk => disk.write file .empty
    throw (.unwritable fault)

/-- Compiles a document, and tells whether that succeeded. -/
def compile (limits : Limits) (source output path : Disk.Path) : Build Bool := do
  match ← load limits source path with
  | none => return false
  | some document =>
    let outcome := document.generate limits
    report outcome.pass.log
    let file := target output path
    ofDisk fun disk => disk.makeDirectory file.dropLast
    writeText file outcome.document
    report [.documentWritten file.text]
    return !outcome.failed

/-- Compiles documents in turn and lists those that fail. -/
def compileAll (limits : Limits) (source output : Disk.Path) :
    List Disk.Path → Build (List Disk.Path)
  | [] => return []
  | path :: paths => do
    let succeeded ← compile limits source output path
    let failed ← compileAll limits source output paths
    return if succeeded then failed else path :: failed

/-! ### Builds -/

/-- Builds the documents below `source` into `output`, which is cleared first if `clean` is set. -/
def perform (limits : Limits) (source output : Disk.Path) (clean : Bool) : Build Summary := do
  if output.within source then throw .outputHoldsSources
  if clean then ofDisk fun disk => disk.clear output
  ofDisk fun disk => disk.makeDirectory output
  let paths := sources (← get).disk source
  let failed ← compileAll limits source output paths
  return { templates := paths.length, failures := failed.length, failed, output }

end Build

end MiniTemplate

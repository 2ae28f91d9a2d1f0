import MiniTemplate.Disk.Basic
import MiniTemplate.Generate
import MiniTemplate.Load.Document
/-!
# Document files

Reading a document from the disk. Two kinds of failure concern the one document: the file cannot be
read, or what it holds is malformed. The others end whatever the program is doing.
-/

namespace MiniTemplate.Document

/-- The end of an attempt to read a document file. -/
inductive FileFailure where
  | malformed (error : LoadError)
  | unreadable (fault : Disk.Fault)
  | longInteger (digits : Nat)
  | tooDeep

/-- The message about an integer of more digits than are read. -/
def longIntegerMessage (digits : Nat) : String :=
  "Exceeds the limit (" ++ toString Json.Numeral.maxDigits
    ++ " digits) for integer string conversion: value has " ++ toString digits
    ++ " digits; use sys.set_int_max_str_digits() to increase the limit"

/-- A failure to read a document, in the file that is shown. -/
def FileFailure.ofFailure (file : String) : Failure → FileFailure
  | .malformed cause location => .malformed { cause, location, file }
  | .longInteger digits => .longInteger digits
  | .tooDeep => .tooDeep

/-- Reads a document from the content of a file, if there is any. The file is shown as `file`, and
`name` is its name. -/
def ofFile (limits : Limits) (file name : String) (content : Except Disk.Fault ByteArray) :
    Except FileFailure Document × Log :=
  match content with
  | .error fault => (.error (.unreadable fault), [])
  | .ok bytes =>
    let (document, log) := read limits (Disk.Path.stemOf name) bytes
    (document.mapError (.ofFailure file), log)

/-- Loads the document that a route leads to. -/
def load (limits : Limits) (disk : Disk) (workPlace : Disk.Path) (route : Disk.Route) :
    Except FileFailure Document × Log :=
  ofFile limits route.text (Disk.Path.name route.names) (disk.read workPlace route)

/-- The outcome of a document's template. -/
def generate (limits : Limits) (document : Document) : Outcome Place :=
  MiniTemplate.generate document.tree.graph document.options limits.visits []

end MiniTemplate.Document

import MiniTemplate.Json.Reader
import MiniTemplate.Limits
import MiniTemplate.Load.Options
import MiniTemplate.Load.Tree
/-!
# Documents

A document is a JSON text that holds the options of a template at its top and the tree in a field of
its own. A template without a name is named after its file.
-/

namespace MiniTemplate

structure Document where
  tree : Tree
  options : Options

namespace Document

/-- The end of an attempt to read a document: it is malformed, or it goes beyond what can be read at
all. -/
inductive Failure where
  | malformed (cause : Malformed) (location : Location)
  | longInteger (digits : Nat)
  | tooDeep

def Failure.ofLoad : LoadFault → Failure
  | .malformed cause location => .malformed cause location
  | .tooDeep => .tooDeep

def Failure.ofJson : Json.Fault → Failure
  | .malformed complaint position => .malformed (.notJson complaint position) .document
  | .longInteger digits => .longInteger digits
  | .tooDeep => .tooDeep

/-- The value in a document: its bytes are text, and the text is JSON. -/
def value (limits : Limits) (content : ByteArray) : Except Failure Value :=
  match Text.Utf8.decode content.data.toList with
  | .error fault => .error (.malformed (.notUtf8 fault) .document)
  | .ok chars =>
    (Json.read limits.brackets (Text.Line.unifyEnds [] chars)).mapError Failure.ofJson

/-- The document that a value describes; `stem` is the name of its file. The options are checked
before the tree. -/
def ofValue (limits : Limits) (stem : String) (data : Value) : Load Document := do
  let .object (fields : Fields) := data | throw (.malformed .noTree .document)
  let some root := fields.get? "ast" | throw (.malformed .noTree .document)
  let options ← Load.options data
  let options := if fields.has "name" then options else { options with name := .str stem }
  return { tree := ← Load.tree limits.nodes root, options }

/-- Reads a document from the content of its file. -/
def read (limits : Limits) (stem : String) (content : ByteArray) : Except Failure Document × Log :=
  match value limits content with
  | .error failure => (.error failure, [])
  | .ok data =>
    match (ofValue limits stem data).run [] with
    | .ok document log => (.ok document, log)
    | .error fault log => (.error (.ofLoad fault), log)

end Document

end MiniTemplate

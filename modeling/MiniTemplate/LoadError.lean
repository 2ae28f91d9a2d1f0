import MiniTemplate.Json.Fault
import MiniTemplate.Location
import MiniTemplate.Text.Utf8
import MiniTemplate.Value.Literal
/-!
# Malformed documents
-/

namespace MiniTemplate

/-- What is wrong with a document. -/
inductive Malformed where
  | nodeNotObject
  | unknownType (type : Value)
  | tagNotText
  | attributesNotList
  | attributeWithoutName
  | eventsNotObject
  | listenerNotObject (event : String)
  | modifiersNotObject (event : String)
  | childrenNotList
  | conditionsNotList
  | conditionNotObject
  | optionsNotObject
  | importsNotObject
  | importWithoutSource (tag : String)
  | nameNotText
  | slotsNotTexts
  | noTree
  | notJson (complaint : Json.Complaint) (position : Text.Position)
  | notUtf8 (fault : Text.Utf8.Fault)

def Malformed.message : Malformed → String
  | nodeNotObject => "node must be an object"
  | unknownType type => "unknown node type " ++ type.literal
  | tagNotText => "'tag' must be a str"
  | attributesNotList => "'attrsList' must be a list"
  | attributeWithoutName => "attribute must be an object with a name"
  | eventsNotObject => "'events' must be an object"
  | listenerNotObject event => "listener for '" ++ event ++ "' must be an object"
  | modifiersNotObject event => "modifiers for '" ++ event ++ "' must be an object"
  | childrenNotList => "'children' must be a list"
  | conditionsNotList => "'ifConditions' must be a list"
  | conditionNotObject => "condition must be an object"
  | optionsNotObject => "options must be an object"
  | importsNotObject => "'imports' must be an object"
  | importWithoutSource tag => "import '" ++ tag ++ "' must be an object with a src"
  | nameNotText => "'name' must be a string"
  | slotsNotTexts => "'slots' must be a list of strings"
  | noTree => "document must be an object with an 'ast' key"
  | notJson complaint position => "invalid JSON: " ++ complaint.message ++ ": " ++ position.message
  | notUtf8 fault => "not valid UTF-8: " ++ fault.message

/-- A message with the file and the path that it is about, as far as they are known. -/
def located (file path message : String) : String :=
  let place := if path == "" then file else if file == "" then path else file ++ ":" ++ path
  if place == "" then message else place ++ ": " ++ message

/-- A complaint about the document in a file. -/
structure LoadError where
  cause : Malformed
  location : Location
  file : String := ""

def LoadError.message (error : LoadError) : String :=
  located error.file error.location.text error.cause.message

end MiniTemplate

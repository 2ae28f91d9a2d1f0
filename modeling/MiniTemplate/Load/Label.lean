import MiniTemplate.Event
import MiniTemplate.LoadError
/-!
# Loading labels

What a node of a document says of itself. Some fields must be of a certain kind, most are taken as
they are.
-/

namespace MiniTemplate

/-- The end of an attempt to load: something is malformed, or the nodes nest too deep. -/
inductive LoadFault where
  | malformed (cause : Malformed) (location : Location)
  | tooDeep

/-- Loading reports the branches that it leaves out, also when it fails later. -/
abbrev Load := EStateM LoadFault Log

namespace Load

def ofExcept {α : Type} : Except LoadFault α → Load α
  | .ok a => pure a
  | .error fault => throw fault

instance : MonadLift (Except LoadFault) Load := ⟨ofExcept⟩

/-- A complaint about a node, or about a part of it. -/
def complaint {α : Type} (place : Place) (cause : Malformed) (part : NodePart := .whole) :
    Except LoadFault α :=
  .error (.malformed cause (.tree place part))

/-! ### Types of nodes -/

/-- The three types of node: elements, texts that hold an expression, and plain texts. -/
inductive NodeType where
  | element
  | expression
  | text
  deriving DecidableEq, Repr

def NodeType.ofValue? (v : Value) : Option NodeType :=
  if v.equalsNat 1 then some .element
  else if v.equalsNat 2 then some .expression
  else if v.equalsNat 3 then some .text
  else none

/-- The type of a node, which is an element unless it says otherwise. -/
def nodeType (place : Place) (fields : Fields) : Except LoadFault NodeType :=
  let type := (fields.get? "type").getD (.int 1)
  match NodeType.ofValue? type with
  | some t => .ok t
  | none => complaint place (.unknownType type)

/-! ### Attributes -/

def attributesFrom (place : Place) (index : Nat) : List Value → Except LoadFault (List Attribute)
  | [] => .ok []
  | item :: items => do
    let attr ← match item with
      | .object (fields : Fields) =>
        match fields.get? "name" with
        | some name =>
          let value := fields.get "value"
          .ok { name := name.text, value := if value.isNull then "" else value.text }
        | none => complaint place .attributeWithoutName (.attr index)
      | _ => complaint place .attributeWithoutName (.attr index)
    return attr :: (← attributesFrom place (index + 1) items)

def attributes (place : Place) (fields : Fields) : Except LoadFault (List Attribute) :=
  match (fields.get "attrsList").orElse (.list []) with
  | .list items => attributesFrom place 0 items
  | _ => complaint place .attributesNotList

/-! ### Listeners -/

def modifiersOf (fields : Fields) : Modifiers where
  stop := (fields.get "stop").truthy
  capture := (fields.get "capture").truthy
  prevent := (fields.get "prevent").truthy
  selfOnly := (fields.get "self").truthy
  once := (fields.get "once").truthy
  passive := (fields.get "passive").truthy

/-- The handler that counts: of several for one type of event the first. -/
def firstHandler : Value → Value
  | .list [] => .object []
  | .list (handler :: _) => handler
  | handler => handler

def listener (place : Place) (event : String) (handler : Value) : Except LoadFault Listener :=
  match firstHandler handler with
  | .object (fields : Fields) =>
    match (fields.get "modifiers").orElse (.object []) with
    | .object (modifiers : Fields) =>
      .ok { event, modifiers := modifiersOf modifiers, handler := (fields.get "value").orElse (.str "") }
    | _ => complaint place (.modifiersNotObject event) .events
  | _ => complaint place (.listenerNotObject event) .events

def listeners (place : Place) (fields : Fields) : Except LoadFault (Option (List Listener)) :=
  match fields.get "events" with
  | .null => .ok none
  | .object events => do
    return some (← events.mapM fun (event, handler) => listener place event handler)
  | _ => complaint place .eventsNotObject

/-! ### Labels -/

def loopOf (fields : Fields) : Option Loop :=
  let source := fields.get "for"
  if source.truthy then
    some
      { source
        item := (fields.get "alias").orElse (.str "")
        index := fields.get "iterator1"
        key := fields.get "key" }
  else none

/-- The mark of a chain that is taken to be expanded, which only a node with a chain can have. -/
def chainDone (fields : Fields) : Bool :=
  (fields.get "ifConditions").truthy && (fields.get "ifConditionsGenerated").truthy

def elementLabel (place : Place) (fields : Fields) : Except LoadFault Label := do
  let tag ← match fields.get "tag" with
    | .str tag => .ok tag
    | _ => complaint place .tagNotText
  let attrs ← attributes place fields
  let events ← listeners place fields
  return {
    kind := .element
    tag := .str tag
    attributes := attrs
    listeners := events
    classBound := (fields.get "classBinding").truthy
    styleBound := (fields.get "styleBinding").truthy
    staticClass := (fields.get "staticClass").orElse (.str "")
    staticStyle := (fields.get "staticStyle").orElse (.str "")
    chainDone := chainDone fields
    loop := loopOf fields
    static := (fields.get "static").truthy
    handle := fields.get "_hid"
    component := fields.get "_cid" }

/-- A plain text is static unless it says otherwise; one with an expression never is. -/
def textLabel (type : NodeType) (fields : Fields) : Label where
  kind := .text
  chainDone := chainDone fields
  text := (fields.get "text").orElse (.str "")
  static := type != .expression && ((fields.get? "static").getD (.bool true)).truthy
  handle := fields.get "_hid"

def label (place : Place) (fields : Fields) : Except LoadFault Label := do
  match ← nodeType place fields with
  | .element => elementLabel place fields
  | type => return textLabel type fields

end Load

end MiniTemplate

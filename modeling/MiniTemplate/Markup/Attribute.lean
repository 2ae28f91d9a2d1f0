import MiniTemplate.Failure
import MiniTemplate.Node
import MiniTemplate.Text.Start
import MiniTemplate.Text.Word
/-!
# Attributes of an element

The class, the style and the plain attributes. Everything dynamic is looked up at run time through the
handle of the node, so a node that binds anything must have one.
-/

namespace MiniTemplate.Markup

/-- The interpolation that reads a field of a handle. -/
def lookup (handle : Value) (field : String) : String :=
  "\x7b\x7b _h[ " ++ handle.text ++ " ]." ++ field ++ " \x7d\x7d"

/-- The handle of a node, which everything dynamic needs. -/
def handleOf (label : Label) : Except Failure Value :=
  if label.handle.isNull then .error (.noHandle label.tag) else .ok label.handle

def lookupOf (label : Label) (field : String) : Except Failure String := do
  return lookup (← handleOf label) field

/-! ### Names -/

/-- Attributes that declare a listener are rendered with the events. -/
def isListenerName (name : String) : Bool :=
  (Text.dropStart? "v-on:".toList name.toList).isSome || (Text.dropStart? "@".toList name.toList).isSome

/-- The name of the attribute that a binding sets, if the attribute is one. -/
def boundName? (name : String) : Option String :=
  match Text.dropStart? "v-bind:".toList name.toList with
  | some rest => some (String.ofList rest)
  | none => (Text.dropStart? ":".toList name.toList).map String.ofList

def unboundName (name : String) : String :=
  (boundName? name).getD name

/-- A key path without its first segment, which is the name of the item: `item.id` becomes `id`. -/
def keyName (key : String) : String :=
  match key.toList.dropWhile Text.isWord with
  | '.' :: rest => String.ofList rest
  | _ => key

/-! ### Class and style -/

/-- What a part of an attribute is bound to, nothing if it is not bound. -/
def boundPart (label : Label) (bound : Bool) (field : String) : Except Failure (List String) := do
  if bound then return [← lookupOf label field] else return []

/-- The classes that an element always has, without the quotes among them. -/
def staticClasses (label : Label) : Except Failure String :=
  match label.staticClass.orElse (.str "") with
  | .str s => .ok (String.ofList (s.toList.filter (· != '\x22')))
  | v => .error (.classNotText v)

/-- The first class is the tag itself, so that style sheets still find an element whose tag was
mapped. -/
def classAttribute (label : Label) : Except Failure String := do
  let static ← staticClasses label
  let bound ← boundPart label label.classBound "cl"
  let classes := ("_" ++ label.tag.text) :: (if static == "" then [] else [static]) ++ bound
  return " class=\"" ++ String.intercalate " " classes ++ "\""

/-- A style object without its quotes and braces. -/
def stripStyle (style : String) : List Char :=
  style.toList.filter fun c => c != '\x22' && c != '\x7b' && c != '\x7d'

/-- Declarations are separated by semicolons. -/
def declarations (style : List Char) : String :=
  String.ofList (style.flatMap fun c => if c == ',' then [';', ' '] else [c])

/-- The declarations that an element always has. -/
def staticStyles (label : Label) : Except Failure String :=
  match label.staticStyle.orElse (.str "") with
  | .str s => .ok (declarations (stripStyle s))
  | v => .error (.notMatchable v)

def styleAttribute (label : Label) : Except Failure String := do
  let static ← staticStyles label
  let bound ← boundPart label label.styleBound "st"
  match (if static == "" then [] else [static]) ++ bound with
  | [] => return ""
  | styles => return " style=\"" ++ String.intercalate " " styles ++ "\""

/-! ### Plain attributes -/

/-- The markup of an attribute, none for a listener. -/
def attributeMarkup (label : Label) (attr : Attribute) : Except Failure (Option String) := do
  if isListenerName attr.name then return none
  match boundName? attr.name with
  | some name =>
    let handle ← handleOf label
    return some (name ++ "=\"\x7b\x7b _h[ " ++ handle.text ++ " ][ '" ++ name ++ "' ] \x7d\x7d\"")
  | none => return some (attr.name ++ "=\"" ++ attr.value ++ "\"")

def plainAttributes (label : Label) : Except Failure String := do
  match (← label.attributes.mapM (attributeMarkup label)).filterMap id with
  | [] => return ""
  | attributes => return " " ++ String.intercalate " " attributes

end MiniTemplate.Markup

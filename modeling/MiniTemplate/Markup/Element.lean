import MiniTemplate.Markup.Listener
import MiniTemplate.Options
import MiniTemplate.TagMap
/-!
# Elements, texts and component references

The markup of a single node, its children left aside.
-/

namespace MiniTemplate.Markup

/-- The pieces in one text, or the first of them that is none. -/
def joinFrom (index : Nat) : List Value → Except Failure String
  | [] => .ok ""
  | .str s :: pieces => do return s ++ (← joinFrom (index + 1) pieces)
  | v :: _ => .error (.pieceNotText index v)

def join (pieces : List Value) : Except Failure String :=
  joinFrom 0 pieces

/-- The tag of the target for any value that stands as a tag. -/
def resolveTag (options : Options) : Value → Except Failure Value
  | .str tag => .ok (TagMap.resolve options.tagMap tag)
  | v => if v.isContainer then .error (.notAKey v) else .ok v

def guardAttribute (label : Label) : Option Guard → Except Failure String
  | none => .ok ""
  | some .ifTrue => do return " wx:if=\"" ++ (← lookupOf label "_if") ++ "\""
  | some .elseIf => do return " wx:elif=\"" ++ (← lookupOf label "_if") ++ "\""
  | some .otherwise => .ok " wx:else"

/-- The key that tells the items of a loop apart. -/
def loopKey (loop : Loop) : Except Failure String :=
  match loop.key.orElse (.str "") with
  | .str s => .ok (keyName s)
  | v => .error (.notMatchable v)

def loopAttributes (label : Label) : Except Failure String := do
  let some loop := label.loop | return ""
  let items ← lookupOf label "li"
  let index := if loop.index.truthy then " wx:for-index=\"" ++ loop.index.text ++ "\"" else ""
  let key ← loopKey loop
  return " wx:for=\"" ++ items ++ "\"" ++ index ++ (if key == "" then "" else " wx:key=\"" ++ key ++ "\"")

/-- The start tag of an element, and the tag that its end tag repeats. -/
def startTag (options : Options) (label : Label) (guard : Option Guard) :
    Except Failure (String × String) := do
  if !label.tag.truthy then throw (.noTag options.name)
  let tag ← resolveTag options label.tag
  let loop ← loopAttributes label
  let guarded ← guardAttribute label guard
  let classes ← classAttribute label
  let style ← styleAttribute label
  let attributes ← plainAttributes label
  let listeners ← listenerAttributes label
  let start ← join
    [.str "<", tag, .str loop, .str guarded, .str classes, .str style, .str attributes,
      .str listeners, .str ">"]
  return (start, tag.text)

def endTag (tag : String) : String :=
  "</" ++ tag ++ ">"

/-- The markup of a text. A static text that is no text is passed on as it is. -/
def textOf (label : Label) : Except Failure Value := do
  if label.static then return label.text.orElse (.str "")
  return .str (← lookupOf label "t")

/-- The import that a tag refers to. -/
def importOf? (options : Options) : Value → Except Failure (Option Import)
  | .str tag => .ok (options.import? tag)
  | v => if v.isContainer then .error (.notAKey v) else .ok none

/-- The instance of a component, which gets the data of its own and the default slot. -/
def componentOf (options : Options) (label : Label) : Except Failure String := do
  match ← importOf? options label.tag with
  | none => throw (.notImported label.tag)
  | some entry =>
    return "<template is=\"" ++ label.tag.text ++ entry.hash ++ "\" data=\"\x7b\x7b...$root[ $kk + "
      ++ label.component.text ++ " ], $root, $defaultSlot: 'defaultSlot'\x7d\x7d\"/>"

def importsOf (options : Options) : String :=
  String.join (options.imports.map fun entry => "<import src=\"" ++ entry.source.text ++ "\"/>")

end MiniTemplate.Markup

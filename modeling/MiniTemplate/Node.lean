import MiniTemplate.Value.Basic
/-!
# Template nodes

A template is made of elements and texts. What a node says of itself is its label; its children and
the conditional chain that it leads are links to other nodes. Nothing here says what identifies a
node: a graph gives a node to every identity, so that nodes may be shared and links may run in
circles, and trees are the special case in which an identity is a place in the tree.
-/

namespace MiniTemplate

/-- The position of a node in a conditional chain. -/
inductive Guard where
  | ifTrue
  | elseIf
  | otherwise
  deriving DecidableEq, Repr

inductive NodeKind where
  | element
  | text
  deriving DecidableEq, Repr

/-- A plain or bound attribute, or a listener that is written as one. -/
structure Attribute where
  name : String
  value : String := ""
  deriving DecidableEq, Repr

structure Modifiers where
  stop : Bool := false
  capture : Bool := false
  prevent : Bool := false
  selfOnly : Bool := false
  once : Bool := false
  passive : Bool := false
  deriving DecidableEq, Repr

/-- A listener for one type of event. -/
structure Listener where
  event : String
  modifiers : Modifiers := {}
  handler : Value := .str ""

/-- What a repeated node iterates over: the source and the names of its items and of their index, and
the key that tells the items apart. -/
structure Loop where
  source : Value := .str ""
  item : Value := .str ""
  index : Value := .null
  key : Value := .null

/-- What a node says of itself. The kinds of its fields are those of the document: a tag or a text may
be any value, and so may the handle that its bindings are looked up by and the reference to a
component. -/
structure Label where
  kind : NodeKind := .element
  tag : Value := .null
  attributes : List Attribute := []
  listeners : Option (List Listener) := none
  classBound : Bool := false
  styleBound : Bool := false
  staticClass : Value := .str ""
  staticStyle : Value := .str ""
  /-- the chain of this node is taken to be expanded already -/
  chainDone : Bool := false
  loop : Option Loop := none
  text : Value := .str ""
  static : Bool := false
  handle : Value := .null
  component : Value := .null

/-- An entry of a conditional chain: the node that it renders, and how it is guarded. -/
structure Condition (ι : Type) where
  guard : Guard
  block : ι
  test : Value := .null

structure Node (ι : Type) where
  label : Label := {}
  children : List ι := []
  /-- the chain that this node leads, empty for a node that leads none -/
  chain : List (Condition ι) := []

/-- A node for every identity. -/
abbrev Graph (ι : Type) := ι → Node ι

end MiniTemplate

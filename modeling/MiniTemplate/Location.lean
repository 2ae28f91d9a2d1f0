import MiniTemplate.Tree
/-!
# Places in a document

A complaint about a document says where it arose: in the document as a whole, in one of its imports,
or in its tree, where the steps count the entries of the document and a last part may point inside of
a node.
-/

namespace MiniTemplate

/-- The part of a node that a complaint is about. -/
inductive NodePart where
  | whole
  | attr (index : Nat)
  | events
  | condition (index : Nat)
  deriving DecidableEq, Repr

inductive Location where
  | document
  | imported (tag : String)
  | tree (place : Place) (part : NodePart)
  deriving DecidableEq, Repr

def Step.text : Step → String
  | child i => ".children[" ++ toString i ++ "]"
  | block i => ".ifConditions[" ++ toString i ++ "].block"

def NodePart.text : NodePart → String
  | whole => ""
  | attr i => ".attrsList[" ++ toString i ++ "]"
  | events => ".events"
  | condition i => ".ifConditions[" ++ toString i ++ "]"

/-- The path of a node from the root of the tree, which is the field `ast` of the document. -/
def Place.text (place : Place) : String :=
  "ast" ++ String.join (place.map Step.text)

def Location.text : Location → String
  | document => ""
  | imported tag => "imports." ++ tag
  | tree place part => place.text ++ part.text

end MiniTemplate

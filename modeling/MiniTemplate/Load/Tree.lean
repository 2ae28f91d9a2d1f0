import MiniTemplate.Load.Label
/-!
# Loading trees

A node is loaded with its children and its chain, in this order. A child that is a later branch of a
chain is left out, for the chain of its sibling owns it; that is reported. An entry of a chain without
a block of its own stands for the node that leads the chain. Places count the entries of the document,
those that were left out among them.
-/

namespace MiniTemplate.Load

/-- Whether a child is a later branch of a chain. -/
def isBranch : Value → Bool
  | .object (fields : Fields) => (fields.get "else").truthy || (fields.get "elseif").truthy
  | _ => false

def report (event : Event) : Load Unit :=
  modify (· ++ [event])

/-- Loads the children from entry `index` on. -/
def childrenFrom (load : Place → Value → Load Tree) (place : Place) (index : Nat) :
    List Value → Load (List Tree)
  | [] => return []
  | item :: items => do
    let childPlace := place ++ [.child index]
    if isBranch item then
      report (.branchSkipped childPlace)
      childrenFrom load place (index + 1) items
    else
      let child ← load childPlace item
      return child :: (← childrenFrom load place (index + 1) items)

def children (load : Place → Value → Load Tree) (place : Place) (fields : Fields) :
    Load (List Tree) :=
  match (fields.get "children").orElse (.list []) with
  | .list items => childrenFrom load place 0 items
  | _ => ofExcept (complaint place .childrenNotList)

/-- The first entry of a chain is its `if`; a later one is an `else` unless it has a test. -/
def guardAt (index : Nat) (test : Value) : Guard :=
  if index == 0 then .ifTrue else if test.truthy then .elseIf else .otherwise

/-- The block of entry `index` of a chain, if it has one of its own. -/
def blockFrom (load : Place → Value → Load Tree) (place : Place) (index : Nat) (fields : Fields) :
    Load (Option Tree) :=
  match fields.get "block" with
  | .null => return none
  | data => some <$> load (place ++ [.block index]) data

/-- Loads the entries of a chain from entry `index` on. -/
def chainFrom (load : Place → Value → Load Tree) (place : Place) (index : Nat) :
    List Value → Load (List (Branch Tree))
  | [] => return []
  | .object (fields : Fields) :: items => do
    let test := fields.get "exp"
    let block ← blockFrom load place index fields
    return { guard := guardAt index test, test, block }
      :: (← chainFrom load place (index + 1) items)
  | _ :: _ => ofExcept (complaint place .conditionNotObject (.condition index))

def chain (load : Place → Value → Load Tree) (place : Place) (fields : Fields) :
    Load (List (Branch Tree)) :=
  match (fields.get "ifConditions").orElse (.list []) with
  | .list items => chainFrom load place 0 items
  | _ => ofExcept (complaint place .conditionsNotList)

/-- One node, given how the nodes that it links to are loaded. -/
def nodeWith (load : Place → Value → Load Tree) (place : Place) : Value → Load Tree
  | .object (fields : Fields) => do
    let own ← label place fields
    let children ← children load place fields
    let chain ← chain load place fields
    return .node own children chain
  | _ => ofExcept (complaint place .nodeNotObject)

/-- Loads a node below which nodes nest less than `depth` deep. -/
def node : Nat → Place → Value → Load Tree
  | 0 => fun _ _ => throw .tooDeep
  | depth + 1 => nodeWith (node depth)

/-- Loads the tree of a document. -/
def tree (depth : Nat) (data : Value) : Load Tree :=
  node depth [] data

end MiniTemplate.Load

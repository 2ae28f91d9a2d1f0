import MiniTemplate.Node
/-!
# Template trees

A document holds a tree: every node has one place, and the only link that does not lead downwards is
that of a chain to the node that leads it. A tree becomes a graph by taking places for identities.
-/

namespace MiniTemplate

/-- An entry of a chain in a tree. Without a block of its own it renders the node that leads it. -/
structure Branch (τ : Type) where
  guard : Guard
  test : Value
  block : Option τ

inductive Tree where
  | node (label : Label) (children : List Tree) (chain : List (Branch Tree))

/-- A step from a node to one of its children, or to the block of an entry of its chain. -/
inductive Step where
  | child (index : Nat)
  | block (index : Nat)
  deriving DecidableEq, Repr

/-- The steps that lead from the root to a node. -/
abbrev Place := List Step

namespace Tree

def label : Tree → Label
  | node label _ _ => label

def children : Tree → List Tree
  | node _ children _ => children

def chain : Tree → List (Branch Tree)
  | node _ _ chain => chain

def step? (t : Tree) : Step → Option Tree
  | .child i => t.children[i]?
  | .block i => t.chain[i]?.bind Branch.block

/-- The subtree at a place. -/
def at? (t : Tree) : Place → Option Tree
  | [] => some t
  | s :: place => (t.step? s).bind fun u => u.at? place

/-- The chain of the node at `place`, with the places of its blocks. -/
def conditionsAt (place : Place) (chain : List (Branch Tree)) : List (Condition Place) :=
  chain.mapIdx fun i branch =>
    { guard := branch.guard
      block := if branch.block.isSome then place ++ [.block i] else place
      test := branch.test }

/-- The subtree `t` as the node of the graph that stands at `place`. -/
def nodeAt (place : Place) (t : Tree) : Node Place where
  label := t.label
  children := t.children.mapIdx fun i _ => place ++ [.child i]
  chain := conditionsAt place t.chain

/-- The graph of a tree. A place outside of the tree holds an empty node. -/
def graph (t : Tree) : Graph Place := fun place =>
  match t.at? place with
  | some u => nodeAt place u
  | none => {}

end Tree

end MiniTemplate

import MiniTemplate.Event
import MiniTemplate.Markup.Element
/-!
# A pass over a graph

Rendering visits a node, and through it the nodes that it links to. A chain is expanded when its lead
is first met: every block is then visited with the guard of its entry, among them usually the lead
itself, which is now rendered as a node of its own. The pass remembers the leads whose chain was
expanded, so that a lead met again without a guard renders nothing. It also keeps the log. Neither is
undone by a failure.

Nodes may link back to themselves, so visits are limited in how deep they nest. One visit is written
as a function of the visits that it makes, and the visits themselves recurse on the limit alone.
-/

namespace MiniTemplate

structure Pass (ι : Type) where
  /-- the leads whose chain was expanded, the latest first -/
  expanded : List ι := []
  log : Log := []

abbrev Generation (ι : Type) := EStateM Failure (Pass ι)

namespace Generation

def ofExcept {ι α : Type} : Except Failure α → Generation ι α
  | .ok a => pure a
  | .error failure => throw failure

instance {ι : Type} : MonadLift (Except Failure) (Generation ι) := ⟨ofExcept⟩

variable {ι : Type}

def report (event : Event) : Generation ι Unit :=
  modify fun pass => { pass with log := pass.log ++ [event] }

def recordChain (i : ι) : Generation ι Unit :=
  modify fun pass => { pass with expanded := i :: pass.expanded }

/-- A node is rendered as a component if it refers to one and its tag is imported. -/
def isComponent (options : Options) (label : Label) : Generation ι Bool := do
  if label.component.isNull then return false
  if (← Markup.importOf? options label.tag).isSome then return true
  report (.componentUnknown label.tag label.component)
  return false

/-- A visit to a node, which renders it at the given position of a chain. -/
abbrev Visit (ι : Type) := ι → Option Guard → Generation ι Value

/-- The children of a node. All of them are visited before they are joined. -/
def children (visit : Visit ι) (node : Node ι) : Generation ι String := do
  let pieces ← node.children.mapM fun child => visit child none
  Markup.join pieces

/-- Expands the chain that node `i` leads. Blocks that render nothing are left out. -/
def chain (visit : Visit ι) (i : ι) (node : Node ι) : Generation ι String := do
  recordChain i
  let pieces ← node.chain.mapM fun condition => visit condition.block (some condition.guard)
  Markup.join (pieces.filter Value.truthy)

def element (options : Options) (visit : Visit ι) (node : Node ι) (guard : Option Guard) :
    Generation ι String := do
  let (start, tag) ← Markup.startTag options node.label guard
  let inner ← children visit node
  return start ++ inner ++ Markup.endTag tag

/-- The node itself, whatever chain it leads. -/
def render (options : Options) (visit : Visit ι) (node : Node ι) (guard : Option Guard) :
    Generation ι Value := do
  if ← isComponent options node.label then
    return .str (← Markup.componentOf options node.label)
  match node.label.kind with
  | .element => return .str (← element options visit node guard)
  | .text => Markup.textOf node.label

/-- One visit, given the visits that it makes. -/
def visitWith [DecidableEq ι] (graph : Graph ι) (options : Options) (visit : Visit ι) :
    Visit ι := fun i guard => do
  let node := graph i
  if node.chain.isEmpty then render options visit node guard
  else if !node.label.chainDone && !(← get).expanded.contains i then
    return .str (← chain visit i node)
  else if guard.isNone then return .str ""
  else render options visit node guard

/-- A visit below which at most `depth` visits nest. -/
def visit [DecidableEq ι] (graph : Graph ι) (options : Options) : Nat → Visit ι
  | 0 => fun _ _ => throw .tooDeep
  | depth + 1 => visitWith graph options (visit graph options depth)

end Generation

end MiniTemplate

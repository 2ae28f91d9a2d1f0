import MiniTemplate.Failure
import MiniTemplate.Location
/-!
# The log

What the program reports while it works. An event says what happened; its level, the part of the
program it came from and its wording follow from that.
-/

namespace MiniTemplate

inductive Level where
  | debug
  | info
  | warning
  | error
  deriving DecidableEq, Repr

/-- The part of the program that an event comes from. -/
inductive Channel where
  | loading
  | generation
  | building
  deriving DecidableEq, Repr

inductive Event where
  /-- a child that a chain owns was left out of the children -/
  | branchSkipped (place : Place)
  | generating (template : Value)
  | generationFailed (template : Value) (failure : Failure)
  | generationTraced
  /-- a component reference to a tag that is not imported -/
  | componentUnknown (tag component : Value)
  | documentSkipped (path reason : String)
  | documentWritten (path : String)

/-- The events of a run, in order. -/
abbrev Log := List Event

namespace Event

def level : Event → Level
  | generationFailed _ _ => .error
  | documentSkipped _ _ => .error
  | _ => .debug

def channel : Event → Channel
  | branchSkipped _ => .loading
  | documentSkipped _ _ => .building
  | documentWritten _ => .building
  | _ => .generation

def message : Event → String
  | branchSkipped place => "Skipping chain branch at " ++ place.text
  | generating template => "Generating template " ++ template.text
  | generationFailed template failure =>
    "Failed to generate template " ++ template.text ++ ": " ++ failure.message
  | generationTraced => "Generation traceback"
  | componentUnknown tag component =>
    "Component <" ++ tag.text ++ "> (cid=" ++ component.text
      ++ ") is not imported; rendering as element"
  | documentSkipped path reason => "Skipping " ++ path ++ ": " ++ reason
  | documentWritten path => "Wrote " ++ path

end Event

end MiniTemplate

import MiniTemplate.Value.Literal
/-!
# Why a template cannot be rendered

Each failure names its cause. Two of them are findings of the generator itself, the others come from
values of a kind that a step cannot work with. A failure has a kind and a message, and both are shown
in the diagnostic document.
-/

namespace MiniTemplate

inductive Failure where
  /-- an element without a tag, in the template of the given name -/
  | noTag (template : Value)
  /-- a node of the given tag that needs a handle and has none -/
  | noHandle (tag : Value)
  /-- a component reference to a tag that is not imported -/
  | notImported (tag : Value)
  /-- a list or an object looked up in a table -/
  | notAKey (value : Value)
  /-- a static class that is no text -/
  | classNotText (value : Value)
  /-- a static style or a key that is no text -/
  | notMatchable (value : Value)
  /-- a piece of markup that is no text, at the given index among those joined -/
  | pieceNotText (index : Nat) (value : Value)
  /-- nodes nested too deep -/
  | tooDeep

namespace Failure

def kind : Failure → String
  | noTag _ => "TemplateGenerationError"
  | noHandle _ => "TemplateGenerationError"
  | notImported _ => "KeyError"
  | notAKey _ => "TypeError"
  | classNotText _ => "AttributeError"
  | notMatchable _ => "TypeError"
  | pieceNotText _ _ => "TypeError"
  | tooDeep => "RecursionError"

def message : Failure → String
  | noTag template =>
    if template.truthy then template.text ++ ": element node has no tag" else "element node has no tag"
  | noHandle tag =>
    (if tag.truthy then "<" ++ tag.text ++ ">" else "text node")
      ++ " has dynamic bindings but no handle id"
  | notImported tag => tag.literal
  | notAKey value => "unhashable type: '" ++ value.kindName ++ "'"
  | classNotText value => "'" ++ value.kindName ++ "' object has no attribute 'replace'"
  | notMatchable value => "expected string or bytes-like object, got '" ++ value.kindName ++ "'"
  | pieceNotText index value =>
    "sequence item " ++ toString index ++ ": expected str instance, " ++ value.kindName ++ " found"
  | tooDeep => "maximum recursion depth exceeded"

end Failure

end MiniTemplate

import MiniTemplate.Markup.Attribute
/-!
# Listeners of an element

All events go through one handler of the run-time system, which finds the listener by the component
and the handle of the node. What the markup decides is the binder, by the modifiers, and the name that
the platform has for the type of event.
-/

namespace MiniTemplate.Markup

/-- Whether an event is caught, captured or only bound; stopping it takes precedence. -/
def binder (modifiers : Modifiers) : String :=
  if modifiers.stop then "catchbind" else if modifiers.capture then "capturebind" else "bind"

/-- Fields whose change is reported when they lose the focus. -/
def isTextField (tag : Value) : Except Failure Bool :=
  match tag with
  | .str tag => .ok (tag == "input" || tag == "textarea")
  | v => if v.isContainer then .error (.notAKey v) else .ok false

/-- The name of an event type on the platform. -/
def eventType (event : String) (tag : Value) : Except Failure String := do
  if event == "change" then
    return if ← isTextField tag then "blur" else "change"
  return if event == "click" then "tap" else event

def listenerAttribute (tag : Value) (listener : Listener) : Except Failure String := do
  return binder listener.modifiers ++ (← eventType listener.event tag) ++ "=\"proxyEvent\""

def listenerAttributes (label : Label) : Except Failure String := do
  match label.listeners.getD [] with
  | [] => return ""
  | listeners =>
    let attributes ← listeners.mapM (listenerAttribute (label.tag.orElse (.str "")))
    let handle ← handleOf label
    return " data-cid=\"\x7b\x7b cid \x7d\x7d\" data-hid=\"\x7b\x7b " ++ handle.text ++ " \x7d\x7d\" "
      ++ String.intercalate " " attributes

end MiniTemplate.Markup

import MiniTemplate.Load.Label
import MiniTemplate.Options
/-!
# Loading options
-/

namespace MiniTemplate.Load

def importEntry (tag : String) : Value → Except LoadFault Import
  | .object (fields : Fields) =>
    match fields.get? "src" with
    | some source =>
      .ok { tag, source, hash := ((fields.get? "hash").getD (.str "")).text }
    | none => .error (.malformed (.importWithoutSource tag) (.imported tag))
  | _ => .error (.malformed (.importWithoutSource tag) (.imported tag))

/-- The texts in a list, if there is nothing else in it. -/
def texts? : List Value → Option (List String)
  | [] => some []
  | .str s :: items => (texts? items).map (s :: ·)
  | _ :: _ => none

def options (data : Value) : Except LoadFault Options := do
  let .object (fields : Fields) := data | throw (.malformed .optionsNotObject .document)
  let .object imports := (fields.get "imports").orElse (.object [])
    | throw (.malformed .importsNotObject .document)
  let imports ← imports.mapM fun (tag, entry) => importEntry tag entry
  let .str name := (fields.get "name").orElse (.str "defaultName")
    | throw (.malformed .nameNotText .document)
  let .list items := (fields.get "slots").orElse (.list [])
    | throw (.malformed .slotsNotTexts .document)
  match texts? items with
  | some slots => return { name := .str name, imports, slots }
  | none => throw (.malformed .slotsNotTexts .document)

end MiniTemplate.Load

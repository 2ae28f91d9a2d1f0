import MiniTemplate.Value.Basic
/-!
# Options of a template

The name of the template, the components that it may refer to, and the table of tags.
-/

namespace MiniTemplate

/-- A component that has been compiled: where it is imported from, and the hash that its instances
carry behind their tag. -/
structure Import where
  tag : String
  source : Value
  hash : String := ""

structure Options where
  name : Value := .str "defaultName"
  imports : List Import := []
  slots : List String := []
  /-- replaces the usual table of tags -/
  tagMap : Option Fields := none

def Options.import? (options : Options) (tag : String) : Option Import :=
  options.imports.find? fun entry => entry.tag == tag

end MiniTemplate

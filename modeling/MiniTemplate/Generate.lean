import MiniTemplate.Diagnostic
import MiniTemplate.Pass
/-!
# Generated documents

A template is generated in one pass from its root. Whatever happens there is a document: if the pass
fails, the diagnostic document takes the place of the template.
-/

namespace MiniTemplate

/-- What became of a template: its document, whether it failed, and the pass at its end. -/
structure Outcome (ι : Type) where
  document : String
  failed : Bool
  pass : Pass ι

variable {ι : Type} [DecidableEq ι]

/-- The whole document: the imports, and the root in the envelope of the template. -/
def Generation.document (graph : Graph ι) (options : Options) (depth : Nat) (root : ι) :
    Generation ι String := do
  let inner ← visit graph options depth root none
  return Markup.importsOf options ++ envelopeStart options.name ++ inner.text ++ envelopeEnd

/-- Generates the template with the given root in a new pass. -/
def generate (graph : Graph ι) (options : Options) (depth : Nat) (root : ι) : Outcome ι :=
  match (Generation.document graph options depth root).run { log := [.generating options.name] } with
  | .ok document pass => { document, failed := false, pass }
  | .error failure pass =>
    { document := failure.report.document options.name
      failed := true
      pass := { pass with
        log := pass.log ++ [.generationFailed options.name failure, .generationTraced] } }

end MiniTemplate

import MiniTemplate.Failure
import MiniTemplate.LoadError
import MiniTemplate.Text.Blank
import MiniTemplate.Text.Escape
/-!
# Diagnostic documents

A template that cannot be rendered is replaced by a document that says why. It is an envelope of the
same form, so that a batch of compiled templates stays loadable, and its body is escaped text: the
kind and the text of the error, and below them its trace.
-/

namespace MiniTemplate

/-- An error as it is reported: its kind, which is one of the program's own kinds or a general one,
its text, and whether it was raised on the way, which puts a heading above the trace. -/
structure Report where
  kind : String
  own : Bool
  text : String
  raised : Bool := false
  deriving DecidableEq, Repr

namespace Report

/-- The kinds of error that are the program's own have a qualified name. -/
def qualifiedKind (report : Report) : String :=
  if report.own then "wxmlgen.compiler.exceptions." ++ report.kind else report.kind

def summary (report : Report) : String :=
  report.kind ++ ": " ++ report.text

def traceHeading : String := "Traceback (most recent call last):\n"

/-- The last line of a trace: the kind, and the text if there is any. -/
def traceLine (report : Report) : String :=
  if report.text == "" then report.qualifiedKind else report.qualifiedKind ++ ": " ++ report.text

def trace (report : Report) : String :=
  Text.trimEnd ((if report.raised then traceHeading else "") ++ report.traceLine)

/-- The text of an error that has only arguments: one argument is its text, several are listed in
parentheses. A missing key is always shown as a literal. -/
def argumentsText (kind : String) : List Value → String
  | [] => ""
  | [v] => if kind == "KeyError" then v.literal else v.text
  | args => "(" ++ Value.literalItems args ++ ")"

def ofArguments (kind : String) (own : Bool) (args : List Value) : Report where
  kind := kind
  own := own
  text := argumentsText kind args

/-- An error of the generator, with the name of the template if that is set. -/
def ofGeneration (message : String) (template : Value) : Report where
  kind := "TemplateGenerationError"
  own := true
  text := if template.truthy then template.text ++ ": " ++ message else message

/-- An error of the loader, with the file and the path as far as they are given. -/
def ofLoading (message file path : String) : Report where
  kind := "AstLoadError"
  own := true
  text := located file path message

end Report

def Failure.report (failure : Failure) : Report where
  kind := failure.kind
  own := match failure with
    | noTag _ => true
    | noHandle _ => true
    | _ => false
  text := failure.message
  raised := true

/-- The markup that opens the template of the given name. -/
def envelopeStart (name : Value) : String :=
  "<template name=\"" ++ Text.escape name.text ++ "\">"

def envelopeEnd : String := "</template>"

def Report.document (report : Report) (name : Value) : String :=
  envelopeStart name ++ "compile error: " ++ Text.escape report.summary ++ "\n"
    ++ Text.escape report.trace ++ envelopeEnd

end MiniTemplate

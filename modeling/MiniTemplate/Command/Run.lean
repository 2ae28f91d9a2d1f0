import MiniTemplate.Command.Console
import MiniTemplate.Terminal.Print
/-!
# The commands

`render` prints the document of one file, `build` compiles a directory. A command is a function of what
it is asked for and the disk; its result holds what it prints, the disk as it leaves it, and the problem
that ended it, if there was one. The two commands have limits of their own, as they do not begin at the
same depth of calls.
-/

namespace MiniTemplate.Command

structure Result where
  exitCode : Nat
  output : String := ""
  level : Level := .warning
  problem : Option Problem := none
  log : Log := []
  disk : Disk

/-- What a command works with. -/
structure Setting where
  console : Console
  rendering : Limits
  building : Limits
  disk : Disk
  workPlace : Disk.Path

namespace Setting

def fail (setting : Setting) (problem : Problem) : Result where
  exitCode := problem.exitCode
  problem := some problem
  disk := setting.disk

/-- Prints a text and does nothing else. -/
def say (setting : Setting) (text : String) : Result where
  exitCode := 0
  output := text
  disk := setting.disk

/-! ### Rendering -/

/-- Prints a document under its own name or a given one. -/
def render (setting : Setting) (route : Disk.Route) (name : Option String) : Result :=
  let (document, log) := Document.load setting.rendering setting.disk setting.workPlace route
  match document with
  | .error failure =>
    let problem : Problem := match failure with
      | .malformed error => .notLoaded error.message
      | .unreadable fault => .notLoaded fault.message
      | .longInteger digits => .longInteger digits
      | .tooDeep => .tooDeep
    { setting.fail problem with log }
  | .ok document =>
    let name := (name.filter (· != "")).elim document.options.name Value.str
    let outcome :=
      Document.generate setting.rendering { document with options := { document.options with name } }
    let log := log ++ outcome.pass.log
    match setting.console.echo outcome.document with
    | .error fault => { setting.fail (.unwritable fault) with log }
    | .ok output =>
      { exitCode := if outcome.failed then 1 else 0
        output
        log
        disk := setting.disk }

/-! ### Building -/

def buildHeading (source : Disk.Route) : String :=
  Terminal.printed ("🔨 Building [cyan]" ++ source.text ++ "[/]...")

def failureLine (path : Disk.Path) : String :=
  Terminal.printed ("  [red]✗[/] " ++ Disk.Path.joined path)

/-- The failed documents, and how the build went. The last line is never broken. -/
def buildSummary (summary : Build.Summary) : String :=
  let status :=
    if summary.failures == 0 then "✅ Build complete" else "⚠️  Build finished with errors"
  String.join (summary.failed.map failureLine)
    ++ Terminal.printedWhole (status ++ " (templates=" ++ toString summary.templates
      ++ ", failures=" ++ toString summary.failures ++ ", out=" ++ summary.output.text ++ ")")

def buildProblem : Build.Failure → Problem
  | .outputHoldsSources => .refused "Output directory must not be the source directory or contain it"
  | .longInteger digits => .refused (Document.longIntegerMessage digits)
  | .unwritable fault => .refused fault.message
  | .system fault => .system fault
  | .tooDeep => .tooDeep

def build (setting : Setting) (source output : Disk.Route) (clean : Bool) : Result :=
  let action := Build.perform setting.building (source.resolve setting.workPlace)
    (output.resolve setting.workPlace) clean
  match action.run { disk := setting.disk } with
  | .error failure state =>
    { setting.fail (buildProblem failure) with
      output := buildHeading source, log := state.log, disk := state.disk }
  | .ok summary state =>
    { exitCode := if summary.failures == 0 then 0 else 1
      output := buildHeading source ++ buildSummary summary
      log := state.log
      disk := state.disk }

/-! ### The program -/

def answer (setting : Setting) : Request → Result
  | .render file name => setting.render file name
  | .build source output clean => setting.build source output clean
  | .say text => setting.say text
  | .refuse problem => setting.fail problem

end Setting

/-- Runs the program with the given arguments. -/
def run (setting : Setting) (arguments : List String) : Result :=
  let (level, request) := setting.console.take setting.disk setting.workPlace arguments
  { setting.answer request with level }

end MiniTemplate.Command

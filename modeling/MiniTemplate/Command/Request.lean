import MiniTemplate.Command.Arguments
import MiniTemplate.Command.Console
import MiniTemplate.Terminal.Sequence
/-!
# The usual console

Which commands and options there are, what paths their arguments must be, and what is printed where
there is no terminal: the text without control sequences.
-/

namespace MiniTemplate.Command

/-! ### Parameters -/

/-- Where paths among the arguments lead. -/
structure Lookup where
  disk : Disk
  workPlace : Disk.Path

namespace Lookup

/-- What stands at a path. The system takes no path that holds a null character. -/
def find (lookup : Lookup) (path : String) : Except Problem (Option Disk.Entry) :=
  if path.toList.contains '\x00' then .error .nullCharacter
  else .ok (lookup.disk.find? lookup.workPlace path)

/-- A path that must lead to a file. -/
def existingFile (lookup : Lookup) (parameter path : String) : Except Problem Disk.Route := do
  match ← lookup.find path with
  | none => throw (.badPath parameter "File" path .missing)
  | some .directory => throw (.badPath parameter "File" path .isDirectory)
  | some (.file _) => return .ofText path

/-- A path that must lead to a directory. -/
def existingDirectory (lookup : Lookup) (parameter path : String) : Except Problem Disk.Route := do
  match ← lookup.find path with
  | none => throw (.badPath parameter "Directory" path .missing)
  | some (.file _) => throw (.badPath parameter "Directory" path .isFile)
  | some .directory => return .ofText path

/-- A path that must not lead to a file. -/
def possibleDirectory (lookup : Lookup) (parameter path : String) : Except Problem Disk.Route := do
  match ← lookup.find path with
  | some (.file _) => throw (.badPath parameter "Directory" path .isFile)
  | _ => return .ofText path

end Lookup

/-- The only argument of a command. -/
def soleArgument {α : Type} (name : String) (check : String → Except Problem α) :
    List String → Except Problem α
  | [] => .error (.missingArgument name)
  | argument :: rest => do
    let value ← check argument
    match rest with
    | [] => return value
    | extra => throw (.extraArguments extra)

namespace Request

def ofExcept : Except Problem Request → Request
  | .ok request => request
  | .error problem => .refuse problem

/-! ### Rendering -/

def renderOptions : List OptionSpec :=
  [{ name := "--name", takesValue := true }, helpOption]

def renderHelp : String :=
  "Usage: wxmlgen render [OPTIONS] FILE\n\n"
    ++ "Print the compiled template for FILE.\n\n"
    ++ "  --name  Override the template name\n"
    ++ "  --help  Show this message and exit.\n"

def ofRender (lookup : Lookup) (arguments : List String) : Except Problem Request := do
  let given ← takeArguments renderOptions true {} arguments
  if given.has helpOption.name then return .say renderHelp
  let file ← soleArgument "FILE" (lookup.existingFile "FILE") given.arguments
  return .render file (given.value? "--name")

/-! ### Building -/

def buildOptions : List OptionSpec :=
  [{ name := "--out-dir", takesValue := true }, { name := "--no-clean" }, helpOption]

def buildHelp : String :=
  "Usage: wxmlgen build [OPTIONS] SRC_DIR\n\n"
    ++ "Compile every template document under SRC_DIR.\n\n"
    ++ "  --out-dir   Output directory for compiled templates (default: .wxmlgen/build).\n"
    ++ "  --no-clean  Keep existing files in the output directory.\n"
    ++ "  --help      Show this message and exit.\n"

def defaultOutput : Disk.Route := .ofText ".wxmlgen/build"

def ofBuild (lookup : Lookup) (arguments : List String) : Except Problem Request := do
  let given ← takeArguments buildOptions true {} arguments
  if given.has helpOption.name then return .say buildHelp
  let output ← (given.value? "--out-dir").elim (.ok defaultOutput)
    (lookup.possibleDirectory "--out-dir")
  let source ← soleArgument "SRC_DIR" (lookup.existingDirectory "SRC_DIR") given.arguments
  return .build source output (!given.has "--no-clean")

/-! ### All arguments -/

def versionOption : OptionSpec := { name := "--version" }

def globalOptions : List OptionSpec :=
  [versionOption, { name := "--verbose", letter := some 'v' }, helpOption]

def versionText : String := "wxmlgen, version 0.3.0\n"

def programHelp : String :=
  "Usage: wxmlgen [OPTIONS] COMMAND [ARGS]...\n\n"
    ++ "  render FILE    Print the compiled template for FILE.\n"
    ++ "  build SRC_DIR  Compile every template document under SRC_DIR.\n\n"
    ++ "  --version      Show the version and exit.\n"
    ++ "  -v, --verbose  Enable debug logging\n"
    ++ "  --help         Show this message and exit.\n"

/-- The text that the options ask for in place of a command. The first such option counts. -/
def requestedText? (given : Given) : Option String :=
  given.options.findSome? fun option =>
    if option.1 == versionOption.name then some versionText
    else if option.1 == helpOption.name then some programHelp
    else none

/-- The answer to a command that there is none of. Behind two dashes its name may look like an option,
and is then taken for one first. -/
def ofUnknown (name : String) (arguments : List String) : Except Problem Request :=
  if isOption name then do
    let given ← takeArguments globalOptions false {} (name :: arguments)
    match requestedText? given with
    | some text => return .say text
    | none => throw (.noSuchCommand name)
  else .error (.noSuchCommand name)

/-- What arguments ask for. The level is set before the arguments of a command are looked at. -/
def ofArguments (disk : Disk) (workPlace : Disk.Path) (arguments : List String) : Level × Request :=
  let early (request : Except Problem Request) : Level × Request := (.warning, ofExcept request)
  match takeArguments globalOptions false {} arguments with
  | .error problem => early (.error problem)
  | .ok given =>
    match requestedText? given with
    | some text => early (.ok (.say text))
    | none =>
      let level := if given.has "--verbose" then .debug else .info
      match given.arguments with
      | [] => early (.error .missingCommand)
      | "render" :: rest => (level, ofExcept (ofRender ⟨disk, workPlace⟩ rest))
      | "build" :: rest => (level, ofExcept (ofBuild ⟨disk, workPlace⟩ rest))
      | name :: rest => early (ofUnknown name rest)

end Request

/-- The console of a program that does not print to a terminal. -/
def Console.usual : Console where
  take := Request.ofArguments
  echo text := (Text.Utf8.encode text).map fun _ => Terminal.withoutSequences (text ++ "\n")

end MiniTemplate.Command

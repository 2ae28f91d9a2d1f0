import MiniTemplate.Build
/-!
# What can be wrong with a command

Problems with the arguments end the program before it does anything; a few others arise on the way.
-/

namespace MiniTemplate.Command

/-- What a path among the arguments should have been, and is not. -/
inductive PathProblem where
  | missing
  | isFile
  | isDirectory
  deriving DecidableEq, Repr

def PathProblem.message : PathProblem → String
  | missing => "does not exist."
  | isFile => "is a file."
  | isDirectory => "is a directory."

inductive Problem where
  | missingCommand
  | noSuchCommand (name : String)
  | noSuchOption (name : String)
  | missingValue (option : String)
  | unwantedValue (option : String)
  | missingArgument (name : String)
  /-- a path that is no file or directory as the parameter wants it, which is called `what` -/
  | badPath (parameter what path : String) (problem : PathProblem)
  /-- a path that holds a null character -/
  | nullCharacter
  | extraArguments (arguments : List String)
  /-- the build refuses the directories or a document -/
  | refused (message : String)
  /-- the document to render does not load -/
  | notLoaded (message : String)
  | longInteger (digits : Nat)
  | system (fault : Disk.Fault)
  | tooDeep
  /-- the document cannot be printed -/
  | unwritable (fault : Text.Utf8.Unwritable)
  deriving DecidableEq, Repr

namespace Problem

def message : Problem → String
  | missingCommand => "Missing command."
  | noSuchCommand name => "No such command " ++ Text.quoted name ++ "."
  | noSuchOption name => "No such option " ++ Text.quoted name ++ "."
  | missingValue option => "Option " ++ Text.quoted option ++ " requires an argument."
  | unwantedValue option => "Option " ++ Text.quoted option ++ " does not take a value."
  | missingArgument name => "Missing argument '" ++ name ++ "'."
  | badPath parameter what path problem =>
    "Invalid value for '" ++ parameter ++ "': " ++ what ++ " " ++ Text.quoted path ++ " "
      ++ problem.message
  | nullCharacter => "embedded null byte"
  | extraArguments arguments =>
    "Got unexpected extra argument" ++ (if arguments.length == 1 then "" else "s") ++ " ("
      ++ String.intercalate " " arguments ++ ")"
  | refused text => text
  | notLoaded text => text
  | longInteger digits => Document.longIntegerMessage digits
  | system fault => fault.message
  | tooDeep => Failure.tooDeep.message
  | unwritable fault => fault.message

/-- Wrong usage and failures on the way have different exit codes. -/
def exitCode : Problem → Nat
  | nullCharacter => 1
  | notLoaded _ => 1
  | longInteger _ => 1
  | system _ => 1
  | tooDeep => 1
  | unwritable _ => 1
  | _ => 2

end Problem

end MiniTemplate.Command

import MiniTemplate.Command.Problem
/-!
# Arguments

Options may have a long name, whose value follows behind an equals sign or as the next argument, and a
letter of their own; letters can be written together behind one dash. Two dashes alone end the
options. Options are collected first, and only then are the remaining arguments and all values looked
at.
-/

namespace MiniTemplate.Command

structure OptionSpec where
  name : String
  letter : Option Char := none
  takesValue : Bool := false

/-- Every command can be asked what it does. -/
def helpOption : OptionSpec := { name := "--help" }

/-- The options that were given, in order, and the other arguments. A flag has an empty value. -/
structure Given where
  options : List (String × String) := []
  arguments : List String := []

namespace Given

def has (given : Given) (name : String) : Bool :=
  given.options.any fun option => option.1 == name

/-- The value of an option. The last one counts. -/
def value? (given : Given) (name : String) : Option String :=
  given.options.reverse.lookup name

def withOption (given : Given) (name value : String) : Given :=
  { given with options := given.options ++ [(name, value)] }

end Given

/-- The name before an equals sign and the value behind it. -/
def splitValue : List Char → List Char × Option (List Char)
  | [] => ([], none)
  | '=' :: value => ([], some value)
  | c :: chars =>
    let (name, value) := splitValue chars
    (c :: name, value)

/-- Takes the flags that a run of letters stands for. -/
def takeLetters (specs : List OptionSpec) (given : Given) : List Char → Except Problem Given
  | [] => .ok given
  | c :: letters =>
    match specs.find? fun spec => spec.letter == some c with
    | none => .error (.noSuchOption (String.ofList ['-', c]))
    | some spec => takeLetters specs (given.withOption spec.name "") letters

/-- An argument that starts with a dash and has more behind it is an option. -/
def isOption (argument : String) : Bool :=
  match argument.toList with
  | '-' :: _ :: _ => true
  | _ => false

/-- Takes arguments in turn, behind those in `given`. Unless options may stand behind other arguments,
the first other argument ends them. -/
def takeArguments (specs : List OptionSpec) (mixed : Bool) (given : Given) :
    List String → Except Problem Given
  | [] => .ok given
  | argument :: rest =>
    if argument == "--" then .ok { given with arguments := given.arguments ++ rest }
    else if isOption argument then
      let (nameChars, explicit) := splitValue argument.toList
      let name := String.ofList nameChars
      match specs.find? fun spec => spec.name == name with
      | some spec =>
        if spec.takesValue then
          match explicit, rest with
          | some value, rest =>
            takeArguments specs mixed (given.withOption spec.name (String.ofList value)) rest
          | none, value :: rest =>
            takeArguments specs mixed (given.withOption spec.name value) rest
          | none, [] => .error (.missingValue name)
        else if explicit.isSome then .error (.unwantedValue name)
        else takeArguments specs mixed (given.withOption spec.name "") rest
      | none =>
        if argument.toList.take 2 == ['-', '-'] then .error (.noSuchOption name)
        else match takeLetters specs given (argument.toList.drop 1) with
          | .ok given => takeArguments specs mixed given rest
          | .error problem => .error problem
    else if mixed then
      takeArguments specs mixed { given with arguments := given.arguments ++ [argument] } rest
    else .ok { given with arguments := given.arguments ++ argument :: rest }

end MiniTemplate.Command

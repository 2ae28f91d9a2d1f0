import MiniTemplate.Command.Problem
/-!
# The console

What lies between the user and the commands: what the arguments ask for, and what a text becomes that
is printed. The commands are written for any console, and `Console.Prints` is what is relied on.
-/

namespace MiniTemplate.Command

/-- What the arguments come to. -/
inductive Request where
  | render (file : Disk.Route) (name : Option String)
  | build (source output : Disk.Route) (clean : Bool)
  /-- a text that is asked for in place of a command -/
  | say (text : String)
  | refuse (problem : Problem)

structure Console where
  /-- what arguments ask for in a directory of a disk, and the level of the log, which is set once the
  command is known -/
  take : Disk → Disk.Path → List String → Level × Request
  /-- what is printed when a text is printed as a line, or why that cannot be done -/
  echo : String → Except Text.Utf8.Unwritable String

/-- A console that prints texts as lines. It may take control sequences out of a text, and these begin
with an escape character. -/
structure Console.Prints (console : Console) : Prop where
  /-- what can be encoded is printed -/
  encoded : ∀ text bytes, Text.Utf8.encode text = .ok bytes → ∃ shown, console.echo text = .ok shown
  /-- a text without an escape character is printed as it is -/
  plain : ∀ text shown, '\x1b' ∉ text.toList → console.echo text = .ok shown → shown = text ++ "\n"

end MiniTemplate.Command

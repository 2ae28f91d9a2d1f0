/-!
# Limits

Reading, loading and generating call themselves, and how deep calls may nest is not for the program to
decide. Each has a limit of its own. All that is known of the limits is that they are the same for the
whole run of a command.
-/

namespace MiniTemplate

structure Limits where
  /-- how deep brackets may nest in a text that is read -/
  brackets : Nat
  /-- how deep nodes may nest in a tree that is loaded -/
  nodes : Nat
  /-- how deep visits may nest when a template is generated -/
  visits : Nat

end MiniTemplate

/-!
# Sets of characters

A class of characters over all of Unicode consists of a few hundred runs of code points. It is
written down as the ascending list of the code points at which membership changes, starting outside:
the first number enters the set, the second leaves it, and so on. A character belongs to the set when
an odd number of turns lies at or below it.
-/

namespace MiniTemplate.Text

structure CharSet where
  turns : List Nat

namespace CharSet

/-- Membership of code point `n`, where `inside` is the answer that holds below the first turn. -/
def insideAt : List Nat → Bool → Nat → Bool
  | [], inside, _ => inside
  | turn :: turns, inside, n => if n < turn then inside else insideAt turns (!inside) n

def contains (set : CharSet) (c : Char) : Bool :=
  insideAt set.turns false c.toNat

end CharSet

end MiniTemplate.Text

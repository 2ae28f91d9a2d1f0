/-!
# Code points

A text is a sequence of code points, and an escape can put a surrogate into it that belongs to no pair.
A character is never a surrogate, so such a text is kept in a code. The surrogates and the code point
right below them are spelled by two characters: a mark, and the character that lies a fixed distance
above the code point. Every other code point is spelled by its own character. Texts in this code are
joined, compared and ordered as the texts that they stand for.
-/

namespace MiniTemplate.Text

/-- The first of two characters that spell a code point, the last one below the surrogates. -/
def mark : Char := '\ud7ff'

def isSurrogate (point : Nat) : Bool :=
  0xd800 ≤ point && point < 0xe000

/-- How far the second of two characters lies above the code point that they spell. -/
def markedDistance : Nat := 0x801

/-- The characters that spell a code point. -/
def spelling (point : Nat) : List Char :=
  if point == mark.toNat || isSurrogate point then [mark, Char.ofNat (point + markedDistance)]
  else [Char.ofNat point]

/-- The text with the given code points. -/
def ofPoints (points : List Nat) : String :=
  String.ofList (points.flatMap spelling)

/-- Whether a character spells a code point together with the mark before it. -/
def isMarked (c : Char) : Bool :=
  mark.toNat + markedDistance ≤ c.toNat && c.toNat < 0xe000 + markedDistance

/-- The code points that characters spell. -/
def points : List Char → List Nat
  | [] => []
  | [c] => [c.toNat]
  | c :: next :: chars =>
    if c == mark && isMarked next then (next.toNat - markedDistance) :: points chars
    else c.toNat :: points (next :: chars)

end MiniTemplate.Text

/-!
# Lines

Line ends come in three forms; reading a text file makes them one. Positions in a text are counted in
characters, lines and columns from one.
-/

namespace MiniTemplate.Text

namespace Line

/-- Behind the characters in `done`, the last one first, turns every line end into a line feed. -/
def unifyEnds (done : List Char) : List Char → List Char
  | [] => done.reverse
  | '\r' :: '\n' :: chars => unifyEnds ('\n' :: done) chars
  | '\r' :: chars => unifyEnds ('\n' :: done) chars
  | c :: chars => unifyEnds (c :: done) chars

end Line

/-- A place in a text: how many characters precede it, its line and its column. -/
structure Position where
  offset : Nat
  line : Nat
  column : Nat
  deriving DecidableEq, Repr

/-- The place behind the given characters. -/
def Position.after (chars : List Char) : Position where
  offset := chars.length
  line := chars.count '\n' + 1
  column := (chars.reverse.takeWhile (· != '\n')).length + 1

def Position.message (p : Position) : String :=
  "line " ++ toString p.line ++ " column " ++ toString p.column ++ " (char " ++ toString p.offset ++ ")"

end MiniTemplate.Text

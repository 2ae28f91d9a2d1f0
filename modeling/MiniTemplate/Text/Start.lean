/-!
# How a text starts
-/

namespace MiniTemplate.Text

/-- What follows `start`, if the characters begin with it. -/
def dropStart? : List Char → List Char → Option (List Char)
  | [], chars => some chars
  | _ :: _, [] => none
  | s :: start, c :: chars => if s == c then dropStart? start chars else none

end MiniTemplate.Text

import MiniTemplate.Terminal.Cell
import MiniTemplate.Text.Blank
/-!
# Lines of the terminal

Tabs lead to the next stop, and a line that is too wide is broken between words. A word that no line
can hold is cut.
-/

namespace MiniTemplate.Terminal

open MiniTemplate.Text

/-! ### Tabs -/

/-- Tab stops stand at every eighth cell. -/
def nextStop (column : Nat) : Nat :=
  (column / 8 + 1) * 8

/-- Writes tabs as blanks, in a text that starts at a column. -/
def expandTabs (column : Nat) : List Char → List Char
  | [] => []
  | c :: chars =>
    if c == '\t' then
      List.replicate (nextStop column - column) ' ' ++ expandTabs (nextStop column) chars
    else c :: expandTabs (column + cells c) chars

/-! ### Breaking lines -/

/-- Divides a line into words, each with the blanks behind it. Blanks at the start belong to the first
word. What was read of the present word is in `word`, last character first; it has `begun` when that
is more than blanks. -/
def wordsFrom (word : List Char) (begun : Bool) : List Char → List (List Char)
  | [] => [word.reverse]
  | c :: chars =>
    if begun && word.head?.any isBlank && !isBlank c then word.reverse :: wordsFrom [c] true chars
    else wordsFrom (c :: word) (begun || !isBlank c) chars

/-- Cuts a word into parts that are at most `limit` cells wide, as long as possible. The present part
is in `part`, last character first. -/
def cutFrom (limit : Nat) (part : List Char) : List Char → List (List Char)
  | [] => [part.reverse]
  | c :: chars =>
    if width part + cells c ≤ limit then cutFrom limit (c :: part) chars
    else part.reverse :: cutFrom limit [c] chars

def trimBlanks (chars : List Char) : List Char :=
  (chars.reverse.dropWhile isBlank).reverse

/-- Puts words into lines behind what stands in the first one. The blanks behind a word need no room. -/
def fill (limit : Nat) (line : List Char) : List (List Char) → List (List Char)
  | [] => [line]
  | word :: words =>
    let needed := width (trimBlanks word)
    if width line + needed ≤ limit then fill limit (line ++ word) words
    else if needed ≤ limit then line :: fill limit word words
    else
      let parts := cutFrom limit [] word
      (if line.isEmpty then [] else [line]) ++ parts.dropLast
        ++ fill limit (parts.getLastD []) words

/-- Takes blanks from the end of a line that has more than `limit` characters, at most as many as it
has too many. -/
def trimExcess (limit : Nat) (line : List Char) : List Char :=
  let blanks := line.length - (trimBlanks line).length
  line.take (line.length - min blanks (line.length - limit))

/-- Cuts a line off at a width. Half of a wide character is shown as a blank. -/
def crop (limit : Nat) : List Char → List Char
  | [] => []
  | c :: chars =>
    if cells c ≤ limit then c :: crop (limit - cells c) chars else List.replicate limit ' '

/-- Breaks a line so that each part fits. -/
def wrap (limit : Nat) (line : List Char) : List (List Char) :=
  (fill limit [] (wordsFrom [] false line)).map fun line => crop limit (trimExcess limit line)

end MiniTemplate.Terminal

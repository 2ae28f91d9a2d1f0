import MiniTemplate.Terminal.EmojiCode
import MiniTemplate.Terminal.Mark
import MiniTemplate.Terminal.Layout
/-!
# Printing lines

A line is written with style marks and emoji codes. What is printed of it has neither marks nor the
control characters that ring, step back or feed the paper.
-/

namespace MiniTemplate.Terminal

/-- Control characters that are never printed: bell, backspace, the two feeds, and return. -/
def isSilent (c : Char) : Bool :=
  c == '\x07' || c == '\x08' || c == '\x0b' || c == '\x0c' || c == '\x0d'

/-- What is seen of a line that is written with marks and codes. -/
def visible (line : String) : List Char :=
  ((pieces line).flatMap (replaceCodes 0)).filter (!isSilent ·)

/-- The lines of a text, with their tabs written as blanks. -/
def tabbedLines (text : List Char) : List (List Char) :=
  (text.splitOn '\n').map (expandTabs 0)

/-- Where output does not go to a terminal, lines have eighty cells. -/
def defaultWidth : Nat := 80

/-- Prints a line, broken where it is too wide. -/
def printed (line : String) : String :=
  String.join ((tabbedLines (visible line)).flatMap (wrap defaultWidth) |>.map
    fun line => String.ofList line ++ "\n")

/-- Prints a line as wide as it is. -/
def printedWhole (line : String) : String :=
  String.join ((tabbedLines (visible line)).map fun line => String.ofList line ++ "\n")

end MiniTemplate.Terminal

import MiniTemplate.Text.CharSet
/-!
# Blank characters

The white space that is cut from the end of a text: the white space of Unicode together with the four
information separators U+001C to U+001F.
-/

namespace MiniTemplate.Text

def blank : CharSet :=
  ⟨[0x9, 0xe, 0x1c, 0x21, 0x85, 0x86, 0xa0, 0xa1, 0x1680, 0x1681, 0x2000, 0x200b, 0x2028, 0x202a,
    0x202f, 0x2030, 0x205f, 0x2060, 0x3000, 0x3001]⟩

def isBlank (c : Char) : Bool :=
  blank.contains c

/-- The text without the blanks at its end. -/
def trimEnd (s : String) : String :=
  String.ofList (s.toList.reverse.dropWhile isBlank).reverse

end MiniTemplate.Text

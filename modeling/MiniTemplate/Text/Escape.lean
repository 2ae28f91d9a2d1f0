/-!
# Escaped text

Text that stands in markup, between quotes or tags, has its five special characters replaced by
character references. Nothing else is changed, so the references can be read back.
-/

namespace MiniTemplate.Text

namespace Escape

def reference (c : Char) : List Char :=
  if c == '&' then "&amp;".toList
  else if c == '<' then "&lt;".toList
  else if c == '>' then "&gt;".toList
  else if c == '\x22' then "&#34;".toList
  else if c == '\x27' then "&#39;".toList
  else [c]

end Escape

def escape (s : String) : String :=
  String.ofList (s.toList.flatMap Escape.reference)

end MiniTemplate.Text

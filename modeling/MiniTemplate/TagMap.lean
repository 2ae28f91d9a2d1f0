import MiniTemplate.Value.Basic
/-!
# Tags of the target

Tags of HTML are mapped to those that mini programs know. A tag that is in no table stays as it is.
-/

namespace MiniTemplate.TagMap

def blockTags : List String :=
  ["address", "article", "aside", "blockquote", "dd", "div", "dl", "dt", "fieldset", "figcaption",
    "figure", "footer", "form", "h1", "h2", "h3", "h4", "h5", "h6", "header", "hr", "li", "main",
    "nav", "ol", "p", "pre", "section", "table", "tbody", "td", "tfoot", "th", "thead", "tr", "ul"]

def inlineTags : List String :=
  ["abbr", "b", "br", "cite", "code", "em", "i", "label", "mark", "q", "s", "small", "span", "strong",
    "sub", "sup", "time", "u"]

def standard : Fields :=
  blockTags.map (·, .str "view") ++ inlineTags.map (·, .str "label")
    ++ [("a", .str "navigator"), ("img", .str "image"), ("select", .str "picker"),
      ("template", .str "block")]

/-- The tag of the target, by the given table or else by the standard one. -/
def resolve (table : Option Fields) (tag : String) : Value :=
  ((table.getD standard).get? tag).getD (.str tag)

end MiniTemplate.TagMap

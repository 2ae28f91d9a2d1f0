/-!
# Forests of markup

What markup means, without its spelling: texts, and elements with a tag, attributes in order and
further items between their tags. An element may also be closed by its only tag. The spelling of a
forest goes through its tokens, which are the tags and the texts in the order in which they are
written.

Texts that stand side by side are one text once they are written, and an empty text is none. A forest
in which neither occurs is normal, and the tokens of the normal form are the merged tokens
(`merged_tokens`).
-/

namespace MiniTemplate.Forest

/-- An attribute of a tag, with a value or without. -/
structure Attr where
  name : String
  value : Option String := none
  deriving DecidableEq, Repr

inductive Item where
  | text (content : String)
  /-- an element that is closed by its only tag -/
  | leaf (tag : String) (attributes : List Attr)
  | element (tag : String) (attributes : List Attr) (children : List Item)

inductive Token where
  | text (content : String)
  | leaf (tag : String) (attributes : List Attr)
  | opening (tag : String) (attributes : List Attr)
  | closing (tag : String)
  deriving DecidableEq, Repr

mutual

def Item.tokens : Item → List Token
  | .text content => [.text content]
  | .leaf tag attributes => [.leaf tag attributes]
  | .element tag attributes children =>
    .opening tag attributes :: (tokens children ++ [.closing tag])

def tokens : List Item → List Token
  | [] => []
  | item :: items => item.tokens ++ tokens items

end

theorem tokens_append (first second : List Item) :
    tokens (first ++ second) = tokens first ++ tokens second := by
  induction first with
  | nil => rfl
  | cons item items ih => rw [List.cons_append, tokens, tokens, ih, List.append_assoc]

/-! ### Spelling -/

def Attr.spell (attr : Attr) : List Char :=
  match attr.value with
  | none => ' ' :: attr.name.toList
  | some value => ' ' :: attr.name.toList ++ '=' :: '\x22' :: value.toList ++ ['\x22']

/-- A tag as far as its attributes. -/
def spellTag (tag : String) (attributes : List Attr) : List Char :=
  '<' :: tag.toList ++ attributes.flatMap Attr.spell

def Token.spell : Token → List Char
  | .text content => content.toList
  | .leaf tag attributes => spellTag tag attributes ++ ['/', '>']
  | .opening tag attributes => spellTag tag attributes ++ ['>']
  | .closing tag => '<' :: '/' :: tag.toList ++ ['>']

def spell (items : List Item) : List Char :=
  (tokens items).flatMap Token.spell

theorem spell_append (first second : List Item) :
    spell (first ++ second) = spell first ++ spell second := by
  rw [spell, tokens_append, List.flatMap_append]
  rfl

theorem spell_element (tag : String) (attributes : List Attr) (children : List Item) :
    spell [.element tag attributes children] =
      spellTag tag attributes ++ '>' :: spell children ++ '<' :: '/' :: tag.toList ++ ['>'] := by
  simp [spell, tokens, Item.tokens, Token.spell]

/-! ### Normal forms -/

/-- Puts a text in front of a forest. -/
def addText (content : String) : List Item → List Item
  | .text next :: items => .text (content ++ next) :: items
  | items => if content = "" then items else .text content :: items

mutual

/-- Puts an item in front of a normal forest. -/
def Item.onto : Item → List Item → List Item
  | .text content, items => addText content items
  | .leaf tag attributes, items => .leaf tag attributes :: items
  | .element tag attributes children, items => .element tag attributes (normal children) :: items

/-- The forest with its texts merged and the empty ones left out. -/
def normal : List Item → List Item
  | [] => []
  | item :: items => item.onto (normal items)

end

theorem addText_empty (items : List Item) : addText "" items = items := by
  unfold addText
  split
  · rw [String.empty_append]
  · rfl

theorem addText_addText (first second : String) (items : List Item) :
    addText first (addText second items) = addText (first ++ second) items := by
  cases items with
  | nil => by_cases hsecond : second = "" <;> simp [addText, hsecond]
  | cons item items =>
      cases item with
      | text content => simp [addText, String.append_assoc]
      | leaf tag attributes => by_cases hsecond : second = "" <;> simp [addText, hsecond]
      | element tag attributes children => by_cases hsecond : second = "" <;> simp [addText, hsecond]

/-! ### Merged tokens -/

/-- The token of a text that was read, none if it is empty. -/
def pending (content : String) : List Token :=
  if content = "" then [] else [.text content]

/-- The tokens with neighbouring texts merged, given the text that stands before them. -/
def mergedFrom (content : String) : List Token → List Token
  | [] => pending content
  | .text next :: tokens => mergedFrom (content ++ next) tokens
  | token :: tokens => pending content ++ token :: mergedFrom "" tokens

/-- A place where no text goes on: the end, or a tag. -/
def Bounded : List Token → Prop
  | .text _ :: _ => False
  | _ => True

theorem mergedFrom_of_bounded {rest : List Token} (hrest : Bounded rest) (content : String) :
    mergedFrom content rest = pending content ++ mergedFrom "" rest := by
  cases rest with
  | nil =>
      rw [mergedFrom, mergedFrom, pending, pending, if_pos rfl, List.append_nil]
  | cons token rest =>
      cases token with
      | text next => exact hrest.elim
      | leaf tag attributes => rfl
      | opening tag attributes => rfl
      | closing tag => rfl

theorem tokens_addText_of_not_text (content : String) {items : List Item}
    (hitems : ∀ next rest, items ≠ .text next :: rest) :
    tokens (addText content items) = pending content ++ tokens items := by
  rw [addText.eq_2 content items hitems, pending]
  split
  · rfl
  · rfl

mutual

/-- The text before an item goes on into it if it is a text. -/
theorem mergedFrom_item (item : Item) (content : String) (items : List Item) (rest : List Token)
    (hitems : ∀ before : String, mergedFrom before (tokens items ++ rest) =
      tokens (addText before (normal items)) ++ mergedFrom "" rest) :
    mergedFrom content (item.tokens ++ (tokens items ++ rest)) =
      tokens (addText content (item.onto (normal items))) ++ mergedFrom "" rest := by
  cases item with
  | text next =>
      rw [Item.onto, addText_addText, ← hitems]
      rfl
  | leaf tag attributes =>
      have hstep : mergedFrom content ((Item.leaf tag attributes).tokens ++ (tokens items ++ rest)) =
          pending content ++ .leaf tag attributes :: mergedFrom "" (tokens items ++ rest) := rfl
      rw [hstep, hitems, addText_empty, Item.onto, tokens_addText_of_not_text content (by simp),
        List.append_assoc]
      rfl
  | element tag attributes children =>
      have hstep : mergedFrom content
          ((Item.element tag attributes children).tokens ++ (tokens items ++ rest)) =
          pending content ++ .opening tag attributes ::
            mergedFrom "" (tokens children ++ (.closing tag :: (tokens items ++ rest))) := by
        rw [Item.tokens, List.cons_append, List.append_assoc]
        rfl
      have hclosing : mergedFrom "" (.closing tag :: (tokens items ++ rest)) =
          .closing tag :: mergedFrom "" (tokens items ++ rest) := rfl
      rw [hstep, mergedFrom_items children "" (.closing tag :: (tokens items ++ rest)) trivial,
        addText_empty, hclosing, hitems, addText_empty, Item.onto,
        tokens_addText_of_not_text content (by simp)]
      simp [tokens, Item.tokens]

theorem mergedFrom_items (items : List Item) (content : String) (rest : List Token)
    (hrest : Bounded rest) :
    mergedFrom content (tokens items ++ rest) =
      tokens (addText content (normal items)) ++ mergedFrom "" rest := by
  cases items with
  | nil =>
      rw [tokens, List.nil_append, mergedFrom_of_bounded hrest, normal,
        tokens_addText_of_not_text content (by simp), tokens, List.append_nil]
  | cons item items =>
      rw [tokens, List.append_assoc, normal]
      exact mergedFrom_item item content items rest fun before =>
        mergedFrom_items items before rest hrest

end

/-- **Merging the texts among the tokens gives the tokens of the normal form.** -/
theorem merged_tokens (items : List Item) : mergedFrom "" (tokens items) = tokens (normal items) := by
  have hmerged := mergedFrom_items items "" [] trivial
  rw [List.append_nil, addText_empty] at hmerged
  rw [hmerged]
  exact List.append_nil _

end MiniTemplate.Forest

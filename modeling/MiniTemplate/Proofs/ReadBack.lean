import MiniTemplate.Proofs.Escaped
import MiniTemplate.Proofs.Refinement
import MiniTemplate.Proofs.Writable
/-!
# Documents are read back

A document that was generated from nodes that keep to their promises is read back as what it was made
from: the imports in order, and one template whose name can be recovered and which holds the forest of
the tree. A pass is replaced by rendering without a pass, the markup of each node by the spelling of
its item (`spells_markup`), and a spelled forest is read back as it is.

One promise concerns a single use of the handle. Between quotes a handle may hold any character but
the quote. A text that is looked up is written between tags, and there a handle that opens a tag
cannot be told from a tag (`handle_read_as_tag`).
-/

namespace MiniTemplate

open Forest

/-- A node whose markup can be read back: it keeps to its promises, and a text that is looked up by its
handle opens no tag. -/
def Label.Legible (options : Options) (label : Label) : Prop :=
  label.Writable options
    ∧ (label.kind = .text → label.static = false → '<' ∉ label.handle.text.toList)

namespace Forest

theorem Legible.nil : Legible [] :=
  fun _ hmem => absurd hmem List.not_mem_nil

theorem Legible.append {first second : List Item} (hfirst : Legible first) (hsecond : Legible second) :
    Legible (first ++ second) := by
  intro token hmem
  rw [tokens_append] at hmem
  exact (List.mem_append.mp hmem).elim (hfirst token) (hsecond token)

theorem legible_of_forall {items : List Item} (hitems : ∀ item ∈ items, Legible [item]) :
    Legible items := by
  induction items with
  | nil => exact .nil
  | cons item items ih =>
      obtain ⟨hitem, hrest⟩ := List.forall_mem_cons.mp hitems
      exact hitem.append (ih hrest)

theorem legible_text {content : String} (hcontent : '<' ∉ content.toList) :
    Legible [.text content] := by
  intro token hmem
  rw [List.mem_singleton.mp hmem]
  exact hcontent

theorem legible_leaf {tag : String} {attributes : List Attr} (htag : isName tag = true)
    (hattributes : ∀ attr ∈ attributes, attr.Legible) : Legible [.leaf tag attributes] := by
  intro token hmem
  rw [List.mem_singleton.mp hmem]
  exact ⟨htag, hattributes⟩

theorem legible_element {tag : String} {attributes : List Attr} {children : List Item}
    (htag : isName tag = true) (hattributes : ∀ attr ∈ attributes, attr.Legible)
    (hchildren : Legible children) : Legible [.element tag attributes children] := by
  intro token hmem
  rw [tokens, Item.tokens, tokens, List.append_nil] at hmem
  rcases List.mem_cons.mp hmem with rfl | hmem
  · exact ⟨htag, hattributes⟩
  · rcases List.mem_append.mp hmem with hmem | hmem
    · exact hchildren token hmem
    · rw [List.mem_singleton.mp hmem]
      exact htag

end Forest

namespace Tree

open Markup

/-! ### Trees -/

theorem legible_componentItem {options : Options} (hoptions : options.Writable) {label : Label}
    (hwritable : label.Writable options) {entry : Import}
    (hentry : referred? options label = some entry) :
    Forest.Legible [componentItem label entry] := by
  obtain ⟨tag, htag, himport⟩ := exists_of_referred hentry
  have hhash : Quotable entry.hash := (hoptions entry (List.mem_of_find?_eq_some himport)).2
  have hopen : Quotable "\x7b\x7b...$root[ $kk + " := by decide
  have hclose : Quotable " ], $root, $defaultSlot: 'defaultSlot'\x7d\x7d" := by decide
  refine legible_leaf (by decide) (List.forall_mem_cons.mpr ⟨?_, List.forall_mem_singleton.mpr ?_⟩)
  · rw [htag]
    exact legible_of_value (by decide) ((quotable_of_isName (hwritable.tag tag htag)).append hhash)
  · exact legible_of_value (by decide) ((hopen.append hwritable.component).append hclose)

/-- A node that keeps to its promises yields items that can be read back. -/
theorem yields_of_legible {options : Options} (hoptions : options.Writable) {t : Tree}
    (hlegible : t.label.Legible options) : t.Yields options fun item => Forest.Legible [item] where
  text := by
    intro hkind hstatic
    obtain ⟨content, hcontent, -⟩ := hlegible.1.text hkind
    exact ⟨content, hcontent⟩
  item := by
    intro guard items children value hitems hrun
    obtain ⟨hwritable, hlookup⟩ := hlegible
    rw [ownItem]
    rcases ownMarkup_eq_ok hrun with ⟨entry, written, hentry, -, -⟩ | ⟨hentry, hkind, -⟩ |
      ⟨hentry, hkind, start, tag, values, inner, hstart, hvalues, -, -⟩
    · rw [hentry]
      exact legible_componentItem hoptions hwritable hentry
    · rw [hentry, hkind]
      obtain ⟨content, hcontent, hplain⟩ := hwritable.text hkind
      refine legible_text ?_
      split
      · rename_i hstatic
        rw [hcontent]
        exact hplain hstatic
      · rename_i hstatic
        have hhandle := hlookup hkind (Bool.eq_false_iff.mpr hstatic)
        exact fun hmem => (mem_lookup hmem).elim hhandle (by decide)
    · obtain ⟨-, name, hname, hresolve⟩ := spell_startTag hstart
      have htag : targetTag options t.label = tag := by
        rw [targetTag, hname, Value.text, hresolve]
        rfl
      rw [hentry, hkind, htag]
      exact legible_element (hwritable.target name tag hname hresolve)
        (legible_of_mem_attrs hwritable hname guard) (legible_of_forall (hitems values hvalues))

/-! ### Documents -/

/-- What a document consists of: the imports, and the template of the given name. -/
def documentItems (options : Options) (items : List Item) : List Item :=
  options.imports.map importItem
    ++ [.element "template" [⟨"name", Text.escape options.name.text⟩] items]

theorem spell_importItem (entry : Import) :
    ("<import src=\"" ++ entry.source.text ++ "\"/>").toList = spell [importItem entry] := by
  simp [importItem, spell, tokens, Item.tokens, Token.spell, spellTag, Attr.spell]

theorem spell_importsOf (options : Options) :
    (importsOf options).toList = spell (options.imports.map importItem) := by
  rw [importsOf, String.toList_join, List.flatMap_map]
  induction options.imports with
  | nil => rfl
  | cons entry imports ih =>
      rw [List.flatMap_cons, ih, spell_importItem, ← spell_append]
      rfl

theorem spell_envelopeStart (name : Value) :
    (envelopeStart name).toList =
      spellTag "template" [⟨"name", Text.escape name.text⟩] ++ ['>'] := by
  unfold envelopeStart
  -- What the name is escaped to plays no part; left in, comparing the two sides would compute it.
  generalize Text.escape name.text = written
  simp [spellTag, Attr.spell]

theorem spell_envelopeEnd : envelopeEnd.toList = '<' :: '/' :: "template".toList ++ ['>'] := by
  decide

theorem spell_document {options : Options} {written : String} {items : List Item}
    (hwritten : written.toList = spell items) :
    (importsOf options ++ envelopeStart options.name ++ written ++ envelopeEnd).toList =
      spell (documentItems options items) := by
  simp only [documentItems, spell_append, spell_element, String.toList_append, spell_importsOf,
    spell_envelopeStart, spell_envelopeEnd, hwritten, List.append_assoc, List.cons_append,
    List.nil_append]

theorem legible_documentItems {options : Options} (hoptions : options.Writable) {items : List Item}
    (hitems : Forest.Legible items) : Forest.Legible (documentItems options items) := by
  refine Legible.append (legible_of_forall ?_) (legible_element (by decide) ?_ hitems)
  · intro item hmem
    obtain ⟨entry, hentry, rfl⟩ := List.mem_map.mp hmem
    exact legible_leaf (by decide) (List.forall_mem_singleton.mpr
      (legible_of_value (by decide) (hoptions entry hentry).1))
  · exact List.forall_mem_singleton.mpr
      (legible_of_value (by decide) (Text.not_mem_escape (by decide) options.name.text))

theorem normal_documentItems (options : Options) (items : List Item) :
    normal (documentItems options items) = documentItems options (normal items) := by
  have himports : ∀ (imports : List Import) (rest : List Item),
      normal (imports.map importItem ++ rest) = imports.map importItem ++ normal rest := by
    intro imports rest
    induction imports with
    | nil => rfl
    | cons entry imports ih =>
        rw [List.map_cons, List.cons_append, normal, ih]
        rfl
  rw [documentItems, himports]
  rfl

/-- **A document that was generated is read back as what it was made from.** Of a tree in which no chain
has two entries for its lead and every node can be read back, any document is read as the imports in
their order and one template. The name of the template is recovered from its attribute, and what it
holds is the forest of the tree, with neighbouring texts merged. -/
theorem document_reads_back {t : Tree} {options : Options} {depth : Nat} (honce : t.LeadsOnce)
    (hnodes : t.Everywhere fun u => u.label.Legible options) (hoptions : options.Writable)
    (hsuccess : (generate t.graph options depth []).failed = false) :
    ∃ name, read (generate t.graph options depth []).document =
        some (options.imports.map importItem
          ++ [.element "template" [⟨"name", some name⟩] (normal (t.forest options none))])
      ∧ Text.unescape name = options.name.text := by
  refine ⟨Text.escape options.name.text, ?_, Text.unescape_escape _⟩
  obtain ⟨inner, hinner, hdocument⟩ := bind_eq_ok (document_of_generate honce hsuccess)
  have hyields : t.Everywhere (Yields options fun item => Forest.Legible [item]) :=
    fun place u hat => yields_of_legible hoptions (hnodes place u hat)
  obtain ⟨hitems, written, rfl, hwritten⟩ := spells_markup t hyields hinner
  have hspell : (generate t.graph options depth []).document.toList =
      spell (documentItems options (t.forest options none)) := by
    rw [← Except.ok.inj hdocument]
    exact spell_document hwritten
  rw [read_spell hspell (legible_documentItems hoptions (legible_of_forall hitems)),
    normal_documentItems]
  rfl

theorem writable_text (options : Options) {content : String} {static : Bool} {handle : Value}
    (hcontent : static = true → '<' ∉ content.toList) (hhandle : Quotable handle.text) :
    Label.Writable options { kind := .text, text := .str content, static, handle } where
  tag := nofun
  target := nofun
  name := nofun
  value := nofun
  event := nofun
  loop := nofun
  handle := hhandle
  component := (by decide : Quotable Value.null.text)
  text := fun _ => ⟨content, rfl, hcontent⟩

/-- A repeated element that holds two plain texts, a text that is looked up, and a component. -/
def listing : Tree :=
  .node
    { tag := .str "div", handle := .int 7, staticClass := .str "\"big\" red"
      loop := some { index := .str "i", key := .str "item.id" }
      attributes := [⟨"title", "a < b"⟩, ⟨":id", "item.id"⟩]
      listeners := some [{ event := "click" }] }
    [.node { kind := .text, text := .str "one", static := true } [] [],
      .node { kind := .text, text := .str " two ", static := true } [] [],
      .node { kind := .text, handle := .int 8 } [] [],
      .node { tag := .str "card", component := .int 3 } [] []]
    []

def listingOptions : Options :=
  { name := .str "a<\"b\">", imports := [⟨"card", .str "card.wxml", "-1f"⟩] }

def listingItems : List Item :=
  [.element "view"
    [⟨"wx:for", "\x7b\x7b _h[ 7 ].li \x7d\x7d"⟩, ⟨"wx:for-index", "i"⟩, ⟨"wx:key", "id"⟩,
      ⟨"class", "_div big red"⟩, ⟨"title", "a < b"⟩, ⟨"id", "\x7b\x7b _h[ 7 ][ 'id' ] \x7d\x7d"⟩,
      ⟨"data-cid", "\x7b\x7b cid \x7d\x7d"⟩, ⟨"data-hid", "\x7b\x7b 7 \x7d\x7d"⟩,
      ⟨"bindtap", "proxyEvent"⟩]
    [.text "one two \x7b\x7b _h[ 8 ].t \x7d\x7d",
      .leaf "template"
        [⟨"is", "card-1f"⟩,
          ⟨"data", "\x7b\x7b...$root[ $kk + 3 ], $root, $defaultSlot: 'defaultSlot'\x7d\x7d"⟩]]]

theorem legible_listing : listing.Everywhere fun u => u.label.Legible listingOptions := by
  refine everywhere_node_iff.mpr ⟨⟨?_, nofun⟩, ?_, nofun⟩
  · refine ⟨?_, ?_, by decide, by decide, by decide, ?_, by decide, by decide, nofun⟩
    · rintro tag ⟨⟩
      decide
    · rintro tag target ⟨⟩ htarget
      have hview : TagMap.resolve none "div" = .str "view" := by rfl
      cases hview.symm.trans htarget
      decide
    · rintro loop ⟨⟩
      decide
  · rw [List.forall_mem_cons, List.forall_mem_cons, List.forall_mem_cons, List.forall_mem_singleton]
    refine ⟨?_, ?_, ?_, everywhere_leaf ⟨?_, nofun⟩⟩
    · exact everywhere_leaf ⟨writable_text _ (by decide) (by decide), nofun⟩
    · exact everywhere_leaf ⟨writable_text _ (by decide) (by decide), nofun⟩
    · exact everywhere_leaf ⟨writable_text _ nofun (by decide), fun _ _ => by decide⟩
    · refine ⟨?_, ?_, nofun, nofun, nofun, nofun, by decide, by decide, nofun⟩
      · rintro tag ⟨⟩
        decide
      · rintro tag target ⟨⟩ htarget
        have hcard : TagMap.resolve none "card" = .str "card" := by rfl
        cases hcard.symm.trans htarget
        decide

theorem document_reads_back_listing :
    listing.LeadsOnce ∧ (listing.Everywhere fun u => u.label.Legible listingOptions)
      ∧ listingOptions.Writable ∧ (generate listing.graph listingOptions 2 []).failed = false
      ∧ ∃ name, read (generate listing.graph listingOptions 2 []).document =
          some [.leaf "import" [⟨"src", "card.wxml"⟩],
            .element "template" [⟨"name", some name⟩] listingItems]
        ∧ Text.unescape name = "a<\"b\">" := by
  have honce : listing.LeadsOnce := by
    refine everywhere_node_iff.mpr ⟨by decide, ?_, nofun⟩
    rw [List.forall_mem_cons, List.forall_mem_cons, List.forall_mem_cons, List.forall_mem_singleton]
    exact ⟨everywhere_leaf (by decide), everywhere_leaf (by decide), everywhere_leaf (by decide),
      everywhere_leaf (by decide)⟩
  have hoptions : listingOptions.Writable := by
    rintro entry hentry
    rw [List.mem_singleton.mp hentry]
    decide
  have hsuccess : (generate listing.graph listingOptions 2 []).failed = false := by rfl
  have hforest : normal (listing.forest listingOptions none) = listingItems := by rfl
  have hread := document_reads_back honce legible_listing hoptions hsuccess
  rw [hforest] at hread
  exact ⟨honce, legible_listing, hoptions, hsuccess, hread⟩

/-! ### A handle between tags -/

/-- A text that is looked up by a handle which opens a tag. -/
def lookedUp : Tree :=
  .node { kind := .text, text := .str "\x7b\x7b m \x7d\x7d", handle := .str "<b>" } [] []

/-- The promises of `Label.Writable` are not enough: the handle of a text is written between tags, and
the reader takes it for a tag that is never closed. -/
theorem handle_read_as_tag :
    Load.tree 1 (.object
        [("type", .int 2), ("_hid", .str "<b>"), ("text", .str "\x7b\x7b m \x7d\x7d")]) [] =
        .ok lookedUp []
      ∧ lookedUp.LeadsOnce ∧ (lookedUp.Everywhere fun u => u.label.Writable { name := .str "h" })
      ∧ ({ name := .str "h" } : Options).Writable
      ∧ (generate lookedUp.graph { name := .str "h" } 1 []).failed = false
      ∧ read (generate lookedUp.graph { name := .str "h" } 1 []).document = none := by
  have hnodes : lookedUp.Everywhere fun u => u.label.Writable { name := .str "h" } :=
    everywhere_leaf (writable_text _ nofun (by decide))
  exact ⟨by rfl, everywhere_leaf (by decide), hnodes, nofun, by rfl, by rfl⟩

end Tree

end MiniTemplate

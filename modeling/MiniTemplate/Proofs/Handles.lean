import MiniTemplate.Proofs.FailingDocuments
import MiniTemplate.Proofs.Lookups
/-!
# Handles in a document

A document has to show the handle of each node as often as the node looks something up by it, and no
other handle. The nodes that are rendered are listed in the order of the output
(`Tree.renderedNodes`), a node before its children. As the pieces of the markup can be read one by one,
the handles of the document are those of the listed nodes in their order (`handles_threaded`).
-/

namespace MiniTemplate

open Handles Markup

/-! ### The nodes that are rendered -/

namespace Tree

mutual

/-- The nodes that are rendered when a tree stands at a position of a chain, in the order of the output
and with their own positions. -/
def renderedNodes (options : Options) : Tree → Option Guard → List (Label × Option Guard)
  | .node label children chain, guard =>
    let own (guard : Option Guard) :=
      (label, guard) :: if label.showsChildren options then childNodes options children else []
    match (Tree.node label children chain).course guard with
    | .itself => own guard
    | .nothing => []
    | .chain => entryNodes options own chain

def childNodes (options : Options) : List Tree → List (Label × Option Guard)
  | [] => []
  | child :: children => child.renderedNodes options none ++ childNodes options children

def entryNodes (options : Options) (own : Option Guard → List (Label × Option Guard)) :
    List (Branch Tree) → List (Label × Option Guard)
  | [] => []
  | ⟨guard, _, none⟩ :: branches => own (some guard) ++ entryNodes options own branches
  | ⟨guard, _, some block⟩ :: branches =>
    block.renderedNodes options (some guard) ++ entryNodes options own branches

end

/-- The handles that some rendered nodes look something up by. -/
def usesOf (options : Options) (nodes : List (Label × Option Guard)) : List Value :=
  nodes.flatMap fun node => node.1.uses options node.2

/-- The handles in the markup of a tree, in the order of the output. -/
def uses (options : Options) (t : Tree) : List Value :=
  usesOf options (t.renderedNodes options none)

/-- The nodes that are rendered with a node that is rendered itself. -/
def ownNodes (options : Options) (t : Tree) (guard : Option Guard) : List (Label × Option Guard) :=
  (t.label, guard) :: if t.label.showsChildren options
    then t.children.flatMap fun child => child.renderedNodes options none else []

/-- The nodes that are rendered for an entry of the chain of a tree. -/
def branchNodes (options : Options) (t : Tree) (branch : Branch Tree) : List (Label × Option Guard) :=
  match branch.block with
  | none => t.ownNodes options (some branch.guard)
  | some block => block.renderedNodes options (some branch.guard)

theorem childNodes_eq_flatMap (options : Options) (children : List Tree) :
    childNodes options children = children.flatMap fun child => child.renderedNodes options none := by
  induction children with
  | nil => rfl
  | cons child children ih => rw [childNodes, ih, List.flatMap_cons]

theorem entryNodes_eq_flatMap (options : Options) (t : Tree) (branches : List (Branch Tree)) :
    entryNodes options (t.ownNodes options) branches = branches.flatMap (t.branchNodes options) := by
  induction branches with
  | nil => rfl
  | cons branch branches ih =>
      obtain ⟨guard, test, block⟩ := branch
      cases block with
      | none => rw [entryNodes, ih, List.flatMap_cons, branchNodes]
      | some block => rw [entryNodes, ih, List.flatMap_cons, branchNodes]

theorem renderedNodes_eq (t : Tree) (options : Options) (guard : Option Guard) :
    t.renderedNodes options guard =
      match t.course guard with
      | .itself => t.ownNodes options guard
      | .nothing => []
      | .chain => t.chain.flatMap (t.branchNodes options) := by
  rw [← entryNodes_eq_flatMap]
  obtain ⟨label, children, chain⟩ := t
  rw [renderedNodes, childNodes_eq_flatMap]
  rfl

theorem usesOf_flatMap {α : Type} (options : Options) (items : List α)
    (nodes : α → List (Label × Option Guard)) :
    usesOf options (items.flatMap nodes) = items.flatMap fun a => usesOf options (nodes a) :=
  List.flatMap_assoc

theorem usesOf_ownNodes (options : Options) (t : Tree) (guard : Option Guard) :
    usesOf options (t.ownNodes options guard) =
      t.label.uses options guard ++ if t.label.showsChildren options
        then t.children.flatMap fun child => usesOf options (child.renderedNodes options none)
        else [] := by
  rw [ownNodes, ← usesOf_flatMap]
  split <;> rfl

/-! ### Trees -/

/-- Pieces that are given item by item: the empty ones can be left out, and all of them show the handles
of the items. -/
theorem gives_of_mapM {α : Type} {f : α → Except Failure Value} {uses : α → List Value}
    {items : List α} (hf : ∀ a ∈ items, ∀ value, f a = .ok value → Gives value (uses a))
    {values : List Value} (hrun : items.mapM f = .ok values) :
    (∀ value ∈ values, value.truthy = false → value.text = "")
      ∧ ShowAll (values.map Value.text) (items.flatMap uses) := by
  constructor
  · have hall : List.Forall₂ (fun value a => Gives value (uses a)) values items :=
      forall₂_of_mapM hf hrun
    exact ((List.forall₂_and_left values items).mp hall).1
  · rw [List.map_eq_flatMap]
    exact showAll_of_mapM (fun a ha value hvalue => (hf a ha value hvalue).2.alone) hrun

section

variable {options : Options} (hoptions : options.Unbracketed)
include hoptions

theorem gives_own {t : Tree} (hclear : t.label.Unbracketed) (hnumbered : t.label.Numbered)
    (hchildren : ∀ child ∈ t.children, ∀ value, child.markup options none = .ok value →
      Gives value (usesOf options (child.renderedNodes options none)))
    {guard : Option Guard} {value : Value} (hrun : t.own options guard = .ok value) :
    Gives value (usesOf options (t.ownNodes options guard)) := by
  rw [usesOf_ownNodes]
  refine gives_ownMarkup hclear hnumbered hoptions (fun values hvalues => ?_) hrun
  rw [markups_eq_mapM] at hvalues
  exact (gives_of_mapM hchildren hvalues).2

/-- **The markup of a tree shows the handles of the nodes that are rendered.** The induction follows the
rendering: a node comes before its children, and the entries of a chain stand in its place. -/
theorem gives_markup (t : Tree)
    (hclear : t.Everywhere fun u => u.label.Unbracketed)
    (hnumbered : t.Everywhere fun u => u.label.Numbered) {guard : Option Guard} {value : Value}
    (hrun : t.markup options guard = .ok value) :
    Gives value (usesOf options (t.renderedNodes options guard)) := by
  induction t using Tree.induct generalizing guard value with
  | hnode t hchildren hblocks =>
      obtain ⟨hclear, hclearBelow, hclearWithin⟩ := everywhere_iff.mp hclear
      obtain ⟨hnumbered, hnumberedBelow, hnumberedWithin⟩ := everywhere_iff.mp hnumbered
      have hown : ∀ {guard value}, t.own options guard = .ok value →
          Gives value (usesOf options (t.ownNodes options guard)) :=
        gives_own hoptions hclear hnumbered fun child hchild _ =>
          hchildren child hchild (hclearBelow child hchild) (hnumberedBelow child hchild)
      rw [markup_eq] at hrun
      rw [renderedNodes_eq]
      cases hcourse : t.course guard with
      | itself =>
          rw [hcourse] at hrun
          exact hown hrun
      | nothing =>
          rw [hcourse] at hrun
          cases hrun
          exact gives_str (shows_literal (by decide))
      | chain =>
          rw [hcourse] at hrun
          obtain ⟨pieces, hpieces, hfinish⟩ := bind_eq_ok hrun
          obtain ⟨joined, hjoin, hfinish⟩ := bind_eq_ok hfinish
          cases hfinish
          have hbranches : ∀ branch ∈ t.chain, ∀ value,
              branchMarkup options (t.own options) branch = .ok value →
              Gives value (usesOf options (t.branchNodes options branch)) := by
            intro branch hbranch value hvalue
            rw [branchMarkup] at hvalue
            rw [branchNodes]
            cases hblock : branch.block with
            | none =>
                rw [hblock] at hvalue
                exact hown hvalue
            | some block =>
                rw [hblock] at hvalue
                exact hblocks branch hbranch block hblock (hclearWithin branch hbranch block hblock)
                  (hnumberedWithin branch hbranch block hblock) hvalue
          -- entries that give nothing are left out of the text, but then they show nothing either
          obtain ⟨hempty, hall⟩ := gives_of_mapM hbranches hpieces
          change Gives _ (usesOf options (t.chain.flatMap (t.branchNodes options)))
          rw [eq_join_of_joinFrom hempty hjoin, usesOf_flatMap]
          exact gives_str hall.join

/-! ### Documents -/

theorem shows_importsOf : Shows (importsOf options) [] := by
  have hpiece : ∀ entry ∈ options.imports,
      Shows ("<import src=\"" ++ entry.source.text ++ "\"/>") [] := by
    intro entry hentry
    have hsource := shows_of_plain (hoptions.imports entry hentry).source.plain_text
    exact hsource.between (by decide) (by decide)
  exact (showAll_of_silent (List.forall_mem_map.mpr hpiece)).join

theorem shows_envelopeStart : Shows (envelopeStart options.name) [] := by
  have hname : Shows (Text.escape options.name.text) [] := by
    apply shows_of_plain
    rw [Text.escape, String.toList_ofList]
    exact hoptions.name.plain_text.escape
  exact hname.between (by decide) (by decide)

theorem shows_document {t : Tree} (hclear : t.Everywhere fun u => u.label.Unbracketed)
    (hnumbered : t.Everywhere fun u => u.label.Numbered) {document : String}
    (hrun : t.document options = .ok document) : Shows document (t.uses options) := by
  obtain ⟨inner, hinner, hrun⟩ := bind_eq_ok hrun
  cases hrun
  have houter := (shows_importsOf hoptions).before (shows_envelopeStart hoptions)
  exact ((gives_markup hoptions t hclear hnumbered hinner).2.behind houter).before
    (shows_literal (by decide))

end

/-- **Handles are neither invented nor lost.** A document is loaded from data in which every handle is a
number, if there is one, and in which no text holds an opening bracket; nor does one of the options. If
it is generated, its handles, read from left to right, are those of the nodes that are rendered, each
once for everything that is looked up by it. -/
theorem handles_threaded {limit depth : Nat} {data : Value} {log rest : Log} {t : Tree}
    {options : Options} (hload : Load.tree limit data log = .ok t rest) (honce : t.LeadsOnce)
    (hnumbered : t.Everywhere fun u => u.label.Numbered) (hdata : data.Unbracketed)
    (hoptions : options.Unbracketed)
    (hsuccess : (generate t.graph options depth []).failed = false) :
    ∃ ids : List Int, t.uses options = ids.map Value.int
      ∧ Handles.read (generate t.graph options depth []).document.toList = ids.map toString := by
  have hclear := Load.unbracketed_of_node hdata hload
  obtain ⟨ids, huses, htells⟩ :=
    shows_document hoptions hclear hnumbered (document_of_generate honce hsuccess)
  have hread := (htells [] fresh_nil).2
  rw [List.append_nil, Handles.read, List.append_nil] at hread
  exact ⟨ids, huses, hread⟩

/-- A list that is repeated, or else a text. It binds all that can be bound, and one of its attributes
is a list itself. -/
def catalogue : Value :=
  .object
    [("tag", .str "ul"), ("_hid", .int 1), ("for", .str "items"), ("key", .str "item.id"),
      ("classBinding", .str "c"), ("styleBinding", .str "s"),
      ("attrsList", .list
        [.object [("name", .str ":id"), ("value", .str "item.id")],
          .object [("name", .str "sizes"), ("value", .list [.int 1, .str "b"])],
          .object [("name", .str "v-bind:title"), ("value", .str "t")]]),
      ("events", .object [("click", .object [("value", .str "open")])]),
      ("ifConditions", .list
        [.object [("exp", .str "a")],
          .object [("exp", .str "b"), ("block", .object
            [("tag", .str "p"), ("_hid", .int (-2)), ("children", .list
              [.object [("type", .int 2), ("_hid", .int 30), ("text", .str "\x7b\x7b m \x7d\x7d")]])])],
          .object [("block", .object [("type", .int 3), ("text", .str "none")])]]),
      ("children", .list
        [.object [("tag", .str "card"), ("_cid", .int 3), ("_hid", .int 5), ("classBinding", .str "c")],
          .object [("type", .int 2), ("_hid", .int 4)]])]

def catalogueTree : Tree :=
  .node
    { tag := .str "ul", handle := .int 1, loop := some { source := .str "items", key := .str "item.id" }
      classBound := true, styleBound := true
      attributes := [⟨":id", "item.id"⟩, ⟨"sizes", "[1, 'b']"⟩, ⟨"v-bind:title", "t"⟩]
      listeners := some [{ event := "click", handler := .str "open" }] }
    [.node { tag := .str "card", component := .int 3, handle := .int 5, classBound := true } [] [],
      .node { kind := .text, handle := .int 4 } [] []]
    [⟨.ifTrue, .str "a", none⟩,
      ⟨.elseIf, .str "b", some (.node { tag := .str "p", handle := .int (-2) }
        [.node { kind := .text, text := .str "\x7b\x7b m \x7d\x7d", handle := .int 30 } [] []] [])⟩,
      ⟨.otherwise, .null, some (.node { kind := .text, text := .str "none", static := true } [] [])⟩]

def catalogueOptions : Options :=
  { name := .str "list", imports := [⟨"card", .str "card.wxml", "7"⟩] }

theorem everywhere_catalogueTree {holds : Tree → Prop}
    (hroot : holds catalogueTree)
    (hleaf : ∀ label : Label, label.Numbered → holds (.node label [] []))
    (hblock : ∀ child, holds (.node { tag := .str "p", handle := .int (-2) } [child] [])) :
    catalogueTree.Everywhere holds := by
  have hleaves : ∀ label : Label, label.Numbered → (Tree.node label [] []).Everywhere holds :=
    fun label hlabel => everywhere_leaf (hleaf label hlabel)
  refine everywhere_node_iff.mpr ⟨hroot, ?_, ?_⟩
  · rw [List.forall_mem_cons, List.forall_mem_singleton]
    exact ⟨hleaves _ (.inr ⟨5, rfl⟩), hleaves _ (.inr ⟨4, rfl⟩)⟩
  · rw [List.forall_mem_cons, List.forall_mem_cons, List.forall_mem_singleton]
    refine ⟨?_, ?_, ?_⟩
    · rintro block ⟨⟩
    · rintro block ⟨⟩
      refine everywhere_node_iff.mpr ⟨hblock _, ?_, ?_⟩
      · rw [List.forall_mem_singleton]
        exact hleaves _ (.inr ⟨30, rfl⟩)
      · exact fun branch hmem => absurd hmem List.not_mem_nil
    · rintro block ⟨⟩
      exact hleaves _ (.inl rfl)

/-- The handle of the list is shown six times, for its source, its test, its class, its style and two
attributes. The component has a handle that is not shown. -/
theorem handles_threaded_catalogue :
    Load.tree 3 catalogue [] = .ok catalogueTree [] ∧ catalogueTree.LeadsOnce
      ∧ (catalogueTree.Everywhere fun u => u.label.Numbered) ∧ catalogue.Unbracketed
      ∧ catalogueOptions.Unbracketed
      ∧ (generate catalogueTree.graph catalogueOptions 6 []).failed = false
      ∧ Handles.read (generate catalogueTree.graph catalogueOptions 6 []).document.toList =
        ["1", "1", "1", "1", "1", "1", "4", "-2", "30"] := by
  have hload : Load.tree 3 catalogue [] = .ok catalogueTree [] := by rfl
  have honce : catalogueTree.LeadsOnce :=
    everywhere_catalogueTree (by decide) (fun _ _ => Nat.zero_le 1) (fun _ => Nat.zero_le 1)
  have hnumbered : catalogueTree.Everywhere fun u => u.label.Numbered :=
    everywhere_catalogueTree (.inr ⟨1, rfl⟩) (fun _ hlabel => hlabel) (fun _ => .inr ⟨-2, rfl⟩)
  have hdata : catalogue.Unbracketed := by decide
  have hoptions : catalogueOptions.Unbracketed := by
    have hloads : Load.options (.object [("name", .str "list"), ("imports", .object
        [("card", .object [("src", .str "card.wxml"), ("hash", .int 7)])])]) =
        .ok catalogueOptions := by
      rfl
    exact Load.unbracketed_of_options (by decide) hloads
  have hsuccess : (generate catalogueTree.graph catalogueOptions 6 []).failed = false := by rfl
  obtain ⟨ids, huses, hread⟩ := handles_threaded hload honce hnumbered hdata hoptions hsuccess
  have hids : catalogueTree.uses catalogueOptions =
      ([1, 1, 1, 1, 1, 1, 4, -2, 30] : List Int).map Value.int := by rfl
  have hinjective : Function.Injective Value.int := fun _ _ heq => Value.int.inj heq
  rw [List.map_injective_iff.mpr hinjective (huses.symm.trans hids)] at hread
  exact ⟨hload, honce, hnumbered, hdata, hoptions, hsuccess, hread⟩

end Tree

end MiniTemplate
import MiniTemplate.Proofs.ReadBack
/-!
# What a pass renders

A node may be rendered several times in one pass, and a lead that is met again may render nothing, so
what comes out of a pass is not yet known from the graph. Here it is written down next to the visits:
each node that is rendered itself, with the site at which this happens and what is rendered between its
tags. A site says whether the node stands on its own or for an entry of a chain, and for which.

Every rendered node has an item, and the markup that a visit gives is the spelling of the items of all
that it renders (`writes_visit`). Nothing is assumed of the graph but that its texts are such as are
loaded.
-/

namespace MiniTemplate

open Forest Markup MiniTemplate.Tree

variable {ι : Type}

/-- Where a node is rendered: on its own, or for an entry of a chain. The entry is given by the lead of
the chain and its index. -/
structure Site (ι : Type) where
  node : ι
  entry : Option (ι × Nat) := none

inductive Rendering (ι : Type) where
  | node (site : Site ι) (children : List (Rendering ι))

/-- The guard of the entry that a node is rendered for. -/
def Site.guard (graph : Graph ι) (site : Site ι) : Option Guard :=
  site.entry.bind fun entry => (graph entry.1).chain[entry.2]?.map Condition.guard

namespace Generation

def Site.link (graph : Graph ι) (site : Site ι) : Link ι :=
  (site.node, site.guard graph)

/-- The sites of what is rendered between the tags of a node. -/
def childSites (options : Options) (node : Node ι) : List (Site ι) :=
  (enclosed options node).map fun child => { node := child }

def chainSites (graph : Graph ι) (i : ι) : List (Site ι) :=
  (graph i).chain.mapIdx fun index condition => { node := condition.block, entry := some (i, index) }

/-- All that is rendered at some sites, from the pass that the visits before leave. -/
def renderAll (graph : Graph ι) (visit : Visit ι) (render : Site ι → Pass ι → List (Rendering ι)) :
    List (Site ι) → Pass ι → List (Rendering ι)
  | [], _ => []
  | site :: sites, pass =>
    render site pass
      ++ renderAll graph visit render sites (finalPass (visit site.node (site.guard graph) pass))

/-- What a visit renders. -/
def rendered [DecidableEq ι] (graph : Graph ι) (options : Options) :
    Nat → Site ι → Pass ι → List (Rendering ι)
  | 0, _, _ => []
  | depth + 1, site, pass =>
    let node := graph site.node
    let all := renderAll graph (visit graph options depth) (rendered graph options depth)
    if Opens graph pass site.node then all (chainSites graph site.node) (recorded site.node pass)
    else if node.chain.isEmpty || (site.guard graph).isSome then
      [.node site (all (childSites options node) (finalPass (isComponent options node.label pass)))]
    else []

/-- All that is rendered of a document, from the pass with which it begins. -/
def renderings [DecidableEq ι] (graph : Graph ι) (options : Options) (depth : Nat) (root : ι) :
    List (Rendering ι) :=
  rendered graph options depth { node := root } { log := [.generating options.name] }

mutual

/-- What a rendered node becomes. -/
def item (graph : Graph ι) (options : Options) : Rendering ι → Item
  | .node site children =>
    ownItem options (graph site.node).label (items graph options children) (site.guard graph)

def items (graph : Graph ι) (options : Options) : List (Rendering ι) → List Item
  | [] => []
  | rendering :: renderings => item graph options rendering :: items graph options renderings

end

theorem items_append (graph : Graph ι) (options : Options) (first second : List (Rendering ι)) :
    items graph options (first ++ second) = items graph options first ++ items graph options second := by
  induction first with
  | nil => rfl
  | cons rendering first ih => rw [List.cons_append, items, items, ih, List.cons_append]

theorem map_link_childSites {graph : Graph ι} {options : Options} {i : ι}
    (hencloses : Encloses options (graph i).label) :
    (childSites options (graph i)).map (Site.link graph) = childLinks (graph i) := by
  rw [childSites, enclosed_of_encloses hencloses, List.map_map]
  rfl

theorem map_link_chainSites (graph : Graph ι) (i : ι) :
    (chainSites graph i).map (Site.link graph) = chainLinks (graph i) := by
  apply List.ext_getElem?
  intro index
  rw [chainSites, chainLinks, List.getElem?_map, List.getElem?_map, List.getElem?_mapIdx]
  cases hcondition : (graph i).chain[index]? with
  | none => rfl
  | some condition =>
      have hguard : Site.guard graph ⟨condition.block, some (i, index)⟩ = some condition.guard := by
        rw [Site.guard, Option.bind_some, hcondition]
        rfl
      simp only [Option.map_some, Site.link, hguard]

/-! ### Markup that writes items -/

/-- A piece of markup that spells some items. One that is left out as empty is the empty text. -/
def Writes (value : Value) (items : List Item) : Prop :=
  (value.truthy = false → value = .str "") ∧ value.text.toList = spell items

/-- Several pieces that spell items one after the other. -/
inductive WriteAll : List Value → List Item → Prop where
  | nil : WriteAll [] []
  | cons {value : Value} {values : List Value} {first rest : List Item} (hfirst : Writes value first)
      (hrest : WriteAll values rest) : WriteAll (value :: values) (first ++ rest)

theorem writes_str {written : String} {items : List Item} (hwritten : written.toList = spell items) :
    Writes (.str written) items := by
  refine ⟨fun hfalsy => ?_, hwritten⟩
  rw [Value.truthy, bne_eq_false_iff_eq] at hfalsy
  rw [hfalsy]

theorem WriteAll.toList_join {values : List Value} {items : List Item} (hall : WriteAll values items) :
    (String.join (values.map Value.text)).toList = spell items := by
  induction hall with
  | nil => rfl
  | @cons value values first rest hfirst hrest ih =>
      rw [List.map_cons, String.join_cons, String.toList_append, hfirst.2, ih, spell_append]

theorem WriteAll.text_of_falsy {values : List Value} {items : List Item} (hall : WriteAll values items) :
    ∀ value ∈ values, value.truthy = false → value.text = "" := by
  induction hall with
  | nil => exact fun value hmem => absurd hmem List.not_mem_nil
  | cons hfirst _ ih =>
      refine List.forall_mem_cons.mpr ⟨fun hfalsy => ?_, ih⟩
      rw [hfirst.1 hfalsy]
      rfl

/-- A text that is loaded is never empty in any way but one. -/
def Settled (label : Label) : Prop :=
  label.text.orElse (.str "") = label.text

theorem writes_textOf {label : Label} (hsettled : Settled label) {value : Value}
    (hrun : textOf label = .ok value) :
    Writes value [.text (if label.static then label.text.text else lookup label.handle "t")] := by
  have hspell : ∀ content : String, spell [.text content] = content.toList := by
    intro content
    simp [spell, tokens, Item.tokens, Token.spell]
  rw [textOf] at hrun
  split at hrun
  · rename_i hstatic
    cases hrun
    rw [if_pos hstatic, hsettled]
    refine ⟨fun hfalsy => ?_, (hspell _).symm⟩
    rw [← hsettled, Value.orElse, hfalsy]
    rfl
  · rename_i hstatic
    obtain ⟨written, hwritten, hrun⟩ := bind_eq_ok hrun
    cases hrun
    rw [if_neg hstatic, ← lookupOf_eq_ok hwritten]
    exact writes_str (hspell written).symm

theorem writes_own {options : Options} {label : Label} (hsettled : Settled label) {guard : Option Guard}
    {children : Except Failure (List Value)} {items : List Item} {value : Value}
    (hchildren : ∀ values, children = .ok values → WriteAll values items)
    (hrun : ownMarkup options label children guard = .ok value) :
    Writes value [ownItem options label items guard] := by
  rw [ownItem]
  rcases ownMarkup_eq_ok hrun with ⟨entry, written, hentry, hwritten, rfl⟩ |
    ⟨hentry, hkind, htextOf⟩ | ⟨hentry, hkind, start, tag, values, inner, hstart, hvalues, hinner, rfl⟩
  · rw [hentry]
    exact writes_str (spell_componentOf hentry hwritten)
  · rw [hentry, hkind]
    exact writes_textOf hsettled htextOf
  · rw [hentry, hkind]
    refine writes_str (spell_enclosing hstart ?_)
    rw [eq_join_of_join hinner]
    exact (hchildren values hvalues).toList_join

/-! ### Visits write what they render -/

variable [DecidableEq ι] {graph : Graph ι} {options : Options}

section

variable {depth : Nat} (hvisit : ∀ site {pass last value},
  visit graph options depth site.node (site.guard graph) pass = .ok value last →
    Writes value (items graph options (rendered graph options depth site pass)))

include hvisit

theorem writeAll_visitAll {sites : List (Site ι)} {pass last : Pass ι} {values : List Value}
    (hall : visitAll (visit graph options depth) (sites.map (Site.link graph)) pass = .ok values last) :
    WriteAll values (items graph options
      (renderAll graph (visit graph options depth) (rendered graph options depth) sites pass)) := by
  induction sites generalizing pass values with
  | nil =>
      cases hall
      exact .nil
  | cons site sites ih =>
      obtain ⟨value, mid, rest, hfirst, hrest, rfl⟩ := visitAll_cons_eq_ok hall
      change visit graph options depth site.node (site.guard graph) pass = _ at hfirst
      rw [renderAll, items_append, hfirst]
      exact .cons (hvisit site hfirst) (ih hrest)

/-- A node that is rendered itself writes its item. -/
theorem writes_ownMove {i : ι} (hsettled : Settled (graph i).label) {guard : Option Guard}
    {pass last : Pass ι} {value : Value}
    (hrun : (ownMove options (graph i) guard pass).run (visit graph options depth) = .ok value last) :
    Writes value [ownItem options (graph i).label (items graph options
      (renderAll graph (visit graph options depth) (rendered graph options depth)
        (childSites options (graph i)) (finalPass (isComponent options (graph i).label pass)))) guard] := by
  by_cases hencloses : Encloses options (graph i).label
  · obtain ⟨written, pieces, hstart, hall, hfinish⟩ := exists_of_run_ownMove hencloses hrun
    rw [← map_link_childSites hencloses] at hall
    have hmarkup : ownMarkup options (graph i).label (.ok pieces) guard = .ok value := by
      rw [ownMarkup_of_encloses hencloses, hstart]
      exact hfinish
    refine writes_own hsettled ?_ hmarkup
    rintro values ⟨⟩
    exact writeAll_visitAll hvisit hall
  · rw [ownMove_of_not_encloses hencloses (.ok []) guard, Move.run] at hrun
    rw [childSites, enclosed_of_not_encloses hencloses]
    refine writes_own hsettled ?_ (ofExcept_eq_ok hrun).1
    rintro values ⟨⟩
    exact .nil

end

/-- **The markup that a visit gives spells the items of what it renders.** -/
theorem writes_visit (hsettled : ∀ i, Settled (graph i).label) {depth : Nat} (site : Site ι)
    {pass last : Pass ι} {value : Value}
    (hrun : visit graph options depth site.node (site.guard graph) pass = .ok value last) :
    Writes value (items graph options (rendered graph options depth site pass)) := by
  induction depth generalizing site pass value last with
  | zero => exact nomatch hrun
  | succ depth ih =>
      rw [visit_succ, move] at hrun
      rw [rendered]
      split at hrun
      · rename_i hopens
        rw [if_pos hopens]
        obtain ⟨pieces, hall, hfinish⟩ := run_descend_eq_ok hrun
        obtain ⟨joined, hjoin, hfinish⟩ := bind_eq_ok hfinish
        cases hfinish
        rw [← map_link_chainSites] at hall
        have hpieces := writeAll_visitAll ih hall
        refine writes_str ?_
        rw [eq_join_of_joinFrom hpieces.text_of_falsy hjoin]
        exact hpieces.toList_join
      · rename_i hopens
        rw [if_neg hopens]
        split at hrun
        · rename_i hown
          rw [if_pos hown]
          exact writes_ownMove ih (hsettled site.node) hrun
        · rename_i hown
          rw [if_neg hown]
          cases hrun
          exact writes_str rfl

/-- A document that was generated spells what its pass renders. -/
theorem spell_generate (hsettled : ∀ i, Settled (graph i).label) {depth : Nat} {root : ι}
    (hsuccess : (generate graph options depth root).failed = false) :
    (generate graph options depth root).document.toList =
      spell (documentItems options
        (items graph options (renderings graph options depth root))) := by
  obtain ⟨inner, last, hvisit, hdocument⟩ := visit_of_generate hsuccess
  rw [hdocument]
  exact spell_document (writes_visit hsettled { node := root } hvisit).2

end Generation

end MiniTemplate

import MiniTemplate.Proofs.LabelFaults
import MiniTemplate.Proofs.Loaded
import MiniTemplate.Proofs.RenderedPass
/-!
# Guards form chains

In the output an element with the guard of a later branch has to follow the branch before it, with
nothing in between. Guards are given by position when a document is loaded, and they are handed down
with the visits. Nothing in a single visit makes sure that the elements come to stand side by side.

That they do is seen on what a pass renders. A chain that is expanded renders its entries one by one and
nothing else, each as one element with the guard of its entry, because its lead is recorded by then and
its other blocks lead no chain. All that is rendered among the children of a node is put together from
such chains, from nodes without a guard, and from leads that give nothing, and each of these is
legal by itself, wherever it stands among its siblings.
-/

namespace MiniTemplate

open Forest Markup MiniTemplate.Tree

/-! ### Guards of items -/

namespace Forest

/-- The guard that an attribute stands for, by its name. -/
def Attr.guard? (attr : Attr) : Option Guard :=
  if attr.name = "wx:if" then some .ifTrue
  else if attr.name = "wx:elif" then some .elseIf
  else if attr.name = "wx:else" then some .otherwise
  else none

def Item.attributes : Item → List Attr
  | .text _ => []
  | .leaf _ attributes => attributes
  | .element _ attributes _ => attributes

/-- The guards that an item carries. -/
def Item.guards (item : Item) : List Guard :=
  item.attributes.filterMap Attr.guard?

/-- Among siblings that carry the given guards, whatever goes on with a chain stands right after what
it goes on with. -/
def Chained (siblings : List (List Guard)) : Prop :=
  ∀ k own, siblings[k]? = some own → .elseIf ∈ own ∨ .otherwise ∈ own →
    ∃ j previous, k = j + 1 ∧ siblings[j]? = some previous ∧ (.ifTrue ∈ previous ∨ .elseIf ∈ previous)

theorem Chained.nil : Chained [] :=
  fun _ _ hown => nomatch hown

theorem Chained.unguarded : Chained [[]] := by
  intro k own hown hgoesOn
  rw [List.mem_singleton.mp (List.mem_of_getElem? hown)] at hgoesOn
  exact (hgoesOn.elim List.not_mem_nil List.not_mem_nil).elim

theorem Chained.append {first second : List (List Guard)} (hfirst : Chained first)
    (hsecond : Chained second) : Chained (first ++ second) := by
  intro k own hown hgoesOn
  by_cases hk : k < first.length
  · rw [List.getElem?_append_left hk] at hown
    obtain ⟨j, previous, rfl, hprevious, hguards⟩ := hfirst k own hown hgoesOn
    refine ⟨j, previous, rfl, ?_, hguards⟩
    rw [List.getElem?_append_left (Nat.lt_of_succ_lt hk)]
    exact hprevious
  · have hle := Nat.le_of_not_lt hk
    rw [List.getElem?_append_right hle] at hown
    obtain ⟨j, previous, hj, hprevious, hguards⟩ := hsecond _ own hown hgoesOn
    refine ⟨first.length + j, previous, by omega, ?_, hguards⟩
    rw [List.getElem?_append_right (Nat.le_add_right _ _), Nat.add_sub_cancel_left]
    exact hprevious

theorem guard?_eq_none {attr : Attr} (hname : ¬ "wx:".toList <+: attr.name.toList) :
    attr.guard? = none := by
  rw [Attr.guard?, if_neg, if_neg, if_neg]
  all_goals
    intro heq
    rw [heq] at hname
    exact hname (by decide)

end Forest

/-! ### Guards of nodes -/

namespace Markup

variable {label : Label}

theorem guards_loopAttrs (label : Label) :
    (loopAttrs label).filterMap Attr.guard? = [] := by
  rw [loopAttrs]
  cases label.loop with
  | none => rfl
  | some loop =>
      by_cases hindex : loop.index.truthy = true <;> by_cases hempty : loopKeyText loop = ""
      all_goals simp [hindex, hempty, Attr.guard?]

theorem guards_guardAttrs (label : Label) (guard : Option Guard) :
    (guardAttrs label guard).filterMap Attr.guard? = guard.toList := by
  rcases guard with _ | _ | _ | _ <;> rfl

theorem guards_styleAttrs (label : Label) :
    (styleAttrs label).filterMap Attr.guard? = [] := by
  rw [styleAttrs]
  cases parts label (styleText label) label.styleBound "st" <;> rfl

/-- The names of attributes that are no guards once a binding is taken off. -/
def NamesFree (label : Label) : Prop :=
  ∀ attr ∈ label.attributes, ¬ "wx:".toList <+: (unboundName attr.name).toList

theorem guards_plainAttrs (hnames : NamesFree label) :
    (label.attributes.filterMap (plainAttr label)).filterMap Attr.guard? = [] := by
  rw [List.filterMap_eq_nil_iff]
  intro written hmem
  obtain ⟨attr, hattr, hplain⟩ := List.mem_filterMap.mp hmem
  have hname : written.name = unboundName attr.name := by
    rw [plainAttr] at hplain
    rw [unboundName]
    split at hplain
    · cases hplain
    · cases hbound : boundName? attr.name with
      | some name =>
          rw [hbound] at hplain
          cases hplain
          rfl
      | none =>
          rw [hbound] at hplain
          cases hplain
          rfl
  refine guard?_eq_none ?_
  rw [hname]
  exact hnames attr hattr

theorem guards_listenerAttrs (label : Label) :
    (listenerAttrs label).filterMap Attr.guard? = [] := by
  rw [listenerAttrs]
  cases label.listeners.getD [] with
  | nil => rfl
  | cons listener listeners =>
      rw [List.filterMap_cons_none rfl, List.filterMap_cons_none rfl, List.filterMap_eq_nil_iff]
      intro written hmem
      obtain ⟨listener, -, rfl⟩ := List.mem_map.mp hmem
      refine guard?_eq_none ?_
      rw [listenerAttr, String.toList_append, binder]
      split
      · simp
      · split <;> simp

theorem guards_attrs (hnames : NamesFree label) (guard : Option Guard) :
    (attrs label guard).filterMap Attr.guard? = guard.toList := by
  have hclass : (classAttr label).guard? = none := rfl
  rw [attrs, List.filterMap_append, List.filterMap_append, List.filterMap_cons_none hclass,
    List.filterMap_append, List.filterMap_append, guards_loopAttrs, guards_guardAttrs,
    guards_styleAttrs, guards_plainAttrs hnames, guards_listenerAttrs]
  simp

/-- An element that is not rendered as a component. -/
def IsOwnElement (options : Options) (label : Label) : Prop :=
  label.kind = .element ∧ referred? options label = none

theorem isOwnElement_of_null {options : Options} (hkind : label.kind = .element)
    (hnull : label.component = .null) : IsOwnElement options label := by
  refine ⟨hkind, ?_⟩
  rw [referred?, hnull]
  cases label.tag <;> rfl

/-- An item carries the guard that it is rendered with, if only elements are rendered with one. -/
theorem guards_ownItem {options : Options} (hnames : NamesFree label) {guard : Option Guard}
    (hguard : guard.isSome = true → IsOwnElement options label) (items : List Item) :
    (ownItem options label items guard).guards = guard.toList := by
  rw [ownItem]
  cases hentry : referred? options label with
  | some entry =>
      cases guard with
      | none => rfl
      | some guard =>
          obtain ⟨-, hnone⟩ := hguard rfl
          cases hentry.symm.trans hnone
  | none =>
      cases hkind : label.kind with
      | element => exact guards_attrs hnames guard
      | text =>
          cases guard with
          | none => rfl
          | some guard =>
              obtain ⟨helement, -⟩ := hguard rfl
              cases hkind.symm.trans helement

end Markup

/-! ### Guards of what is rendered -/

namespace Rendering

variable {ι : Type}

def site : Rendering ι → Site ι
  | node site _ => site

def children : Rendering ι → List (Rendering ι)
  | node _ children => children

end Rendering

variable {ι : Type}

/-- A node that is rendered for an entry of a chain carries the guard of this entry and no other, and
one that is rendered on its own carries none. -/
def Site.Carries (graph : Graph ι) (site : Site ι) (guards : List Guard) : Prop :=
  match site.entry with
  | none => guards = []
  | some (lead, index) => ∃ condition, (graph lead).chain[index]? = some condition
      ∧ condition.block = site.node ∧ guards = [condition.guard]

namespace Generation

/-- Guards form legal chains among siblings, each of them carries the guard of its entry, and the same
holds of what is rendered between their tags. -/
inductive WellGuarded (graph : Graph ι) (options : Options) : List (Rendering ι) → Prop where
  | siblings {renderings : List (Rendering ι)}
      (hchained : Chained ((items graph options renderings).map Item.guards))
      (hcarries : ∀ rendering ∈ renderings,
        rendering.site.Carries graph (item graph options rendering).guards)
      (hbelow : ∀ rendering ∈ renderings, WellGuarded graph options rendering.children) :
      WellGuarded graph options renderings

/-- What makes sure that the guards around a node form chains: its attributes name none, only elements
lead a chain or are blocks of one, a block leads no chain unless it is the lead, and the entries of its
chain come in a legal order. -/
structure Orderly (graph : Graph ι) (options : Options) (i : ι) : Prop where
  names : NamesFree (graph i).label
  lead : (graph i).chain.isEmpty = false → IsOwnElement options (graph i).label
  block : ∀ condition ∈ (graph i).chain, condition.block = i
    ∨ ((graph condition.block).chain.isEmpty = true
      ∧ IsOwnElement options (graph condition.block).label)
  chained : Chained ((graph i).chain.map fun condition => [condition.guard])

variable {graph : Graph ι} {options : Options}

theorem WellGuarded.nil : WellGuarded graph options [] :=
  .siblings .nil nofun nofun

theorem WellGuarded.append {first second : List (Rendering ι)}
    (hfirst : WellGuarded graph options first) (hsecond : WellGuarded graph options second) :
    WellGuarded graph options (first ++ second) := by
  obtain ⟨hchained, hcarries, hbelow⟩ := hfirst
  obtain ⟨hchained', hcarries', hbelow'⟩ := hsecond
  refine .siblings ?_ ?_ ?_
  · rw [items_append, List.map_append]
    exact hchained.append hchained'
  · exact List.forall_mem_append.mpr ⟨hcarries, hcarries'⟩
  · exact List.forall_mem_append.mpr ⟨hbelow, hbelow'⟩

/-- A site stands for an entry that there is. -/
def Valid (graph : Graph ι) (site : Site ι) : Prop :=
  ∀ lead index, site.entry = some (lead, index) →
    ∃ condition, (graph lead).chain[index]? = some condition ∧ condition.block = site.node

theorem guard_of_entry {site : Site ι} {lead : ι} {index : Nat}
    (hentry : site.entry = some (lead, index)) {condition : Condition ι}
    (hcondition : (graph lead).chain[index]? = some condition) :
    site.guard graph = some condition.guard := by
  rw [Site.guard, hentry, Option.bind_some, hcondition]
  rfl

theorem guard_of_no_entry {site : Site ι} (hentry : site.entry = none) : site.guard graph = none := by
  rw [Site.guard, hentry]
  rfl

/-- A block of a chain is an element, and leads no chain unless it is the lead. -/
theorem isOwnElement_of_entry (horderly : ∀ i, Orderly graph options i) {lead : ι} {index : Nat}
    {condition : Condition ι} (hcondition : (graph lead).chain[index]? = some condition) :
    IsOwnElement options (graph condition.block).label := by
  have hmem := List.mem_of_getElem? hcondition
  rcases (horderly lead).block condition hmem with hlead | ⟨-, helement⟩
  · rw [hlead]
    exact (horderly lead).lead (List.isEmpty_eq_false_iff_exists_mem.mpr ⟨condition, hmem⟩)
  · exact helement

theorem guards_item (horderly : ∀ i, Orderly graph options i) {rendering : Rendering ι}
    (hvalid : Valid graph rendering.site) :
    (item graph options rendering).guards = (rendering.site.guard graph).toList := by
  obtain ⟨site, children⟩ := rendering
  rw [item]
  refine guards_ownItem (horderly site.node).names (fun hsome => ?_) _
  cases hentry : site.entry with
  | none =>
      rw [guard_of_no_entry hentry] at hsome
      exact nomatch hsome
  | some entry =>
      obtain ⟨condition, hcondition, hblock⟩ := hvalid entry.1 entry.2 hentry
      change condition.block = site.node at hblock
      rw [← hblock]
      exact isOwnElement_of_entry horderly hcondition

theorem carries_item (horderly : ∀ i, Orderly graph options i) {rendering : Rendering ι}
    (hvalid : Valid graph rendering.site) :
    rendering.site.Carries graph (item graph options rendering).guards := by
  rw [guards_item horderly hvalid, Site.Carries]
  split
  · rename_i hentry
    rw [guard_of_no_entry hentry]
    rfl
  · rename_i lead index hentry
    obtain ⟨condition, hcondition, hblock⟩ := hvalid lead index hentry
    refine ⟨condition, hcondition, hblock, ?_⟩
    rw [guard_of_entry hentry hcondition]
    rfl

theorem map_guards_items (horderly : ∀ i, Orderly graph options i) {renderings : List (Rendering ι)}
    (hvalid : ∀ rendering ∈ renderings, Valid graph rendering.site) :
    (items graph options renderings).map Item.guards =
      (renderings.map Rendering.site).map fun site => (site.guard graph).toList := by
  induction renderings with
  | nil => rfl
  | cons rendering renderings ih =>
      obtain ⟨hhead, htail⟩ := List.forall_mem_cons.mp hvalid
      rw [items, List.map_cons, List.map_cons, List.map_cons, guards_item horderly hhead, ih htail]

theorem exists_of_mem_chainSites {i : ι} {site : Site ι} (hmem : site ∈ chainSites graph i) :
    ∃ index condition, (graph i).chain[index]? = some condition
      ∧ site = { node := condition.block, entry := some (i, index) } := by
  rw [chainSites, List.mem_mapIdx] at hmem
  obtain ⟨index, hindex, rfl⟩ := hmem
  exact ⟨index, _, List.getElem?_eq_getElem hindex, rfl⟩

theorem valid_of_mem_chainSites {i : ι} {site : Site ι} (hmem : site ∈ chainSites graph i) :
    Valid graph site := by
  obtain ⟨index, condition, hcondition, rfl⟩ := exists_of_mem_chainSites hmem
  rintro lead position ⟨⟩
  exact ⟨condition, hcondition, rfl⟩

theorem guards_chainSites (graph : Graph ι) (i : ι) :
    (chainSites graph i).map (fun site => (site.guard graph).toList) =
      (graph i).chain.map fun condition => [condition.guard] := by
  have hlinks := congrArg (List.map fun link : Link ι => link.2.toList) (map_link_chainSites graph i)
  rw [chainLinks, List.map_map, List.map_map] at hlinks
  exact hlinks

/-- A node that stands on its own has no guard. -/
theorem wellGuarded_singleton (horderly : ∀ i, Orderly graph options i) {site : Site ι}
    (hentry : site.entry = none) {children : List (Rendering ι)}
    (hchildren : WellGuarded graph options children) :
    WellGuarded graph options [.node site children] := by
  have hvalid : ∀ rendering ∈ [Rendering.node site children], Valid graph rendering.site := by
    intro rendering hmem lead index hsome
    rw [List.mem_singleton.mp hmem] at hsome
    cases hentry.symm.trans hsome
  refine .siblings ?_ (fun rendering hmem => carries_item horderly (hvalid rendering hmem)) ?_
  · rw [map_guards_items horderly hvalid]
    change Chained [(site.guard graph).toList]
    rw [guard_of_no_entry hentry]
    exact .unguarded
  · intro rendering hmem
    rw [List.mem_singleton.mp hmem]
    exact hchildren

/-! ### Chains stand together -/

/-- Whatever is rendered between the tags of a node stands on its own. -/
theorem entry_of_mem_childSites {node : Node ι} {site : Site ι} (hmem : site ∈ childSites options node) :
    site.entry = none := by
  obtain ⟨child, -, rfl⟩ := List.mem_map.mp hmem
  rfl

variable [DecidableEq ι]

/-- For an entry of a chain that is being expanded, its block is rendered itself and nothing else. -/
theorem rendered_of_entry (horderly : ∀ i, Orderly graph options i) {site : Site ι} {i : ι}
    (hsite : site ∈ chainSites graph i) {pass : Pass ι} (hexpanded : i ∈ pass.expanded) (depth : Nat) :
    ∃ last, rendered graph options (depth + 1) site pass =
      [.node site (renderAll graph (visit graph options depth) (rendered graph options depth)
        (childSites options (graph site.node)) last)] := by
  obtain ⟨index, condition, hcondition, rfl⟩ := exists_of_mem_chainSites hsite
  have hopens : ¬ Opens graph pass condition.block := by
    rintro ⟨hchain, -, hnew⟩
    rcases (horderly i).block condition (List.mem_of_getElem? hcondition) with hlead | ⟨hempty, -⟩
    · rw [hlead] at hnew
      exact hnew hexpanded
    · cases hempty.symm.trans hchain
  have hguard : Site.guard graph { node := condition.block, entry := some (i, index) } =
      some condition.guard := guard_of_entry rfl hcondition
  refine ⟨finalPass (isComponent options (graph condition.block).label pass), ?_⟩
  rw [rendered]
  simp only [if_neg hopens, hguard, Option.isSome_some, Bool.or_true, if_true]

theorem wellGuarded_renderAll {depth : Nat}
    (hrendered : ∀ site pass, site.entry = none →
      WellGuarded graph options (rendered graph options depth site pass))
    {sites : List (Site ι)} (hsites : ∀ site ∈ sites, site.entry = none) (pass : Pass ι) :
    WellGuarded graph options
      (renderAll graph (visit graph options depth) (rendered graph options depth) sites pass) := by
  induction sites generalizing pass with
  | nil => exact .nil
  | cons site sites ih =>
      obtain ⟨hhead, htail⟩ := List.forall_mem_cons.mp hsites
      exact (hrendered site pass hhead).append (ih htail _)

/-- A chain that is being expanded renders one node for each of its entries. -/
theorem renderAll_of_entries (horderly : ∀ i, Orderly graph options i) {depth : Nat}
    (hrendered : ∀ site pass, site.entry = none →
      WellGuarded graph options (rendered graph options depth site pass))
    {i : ι} {sites : List (Site ι)} (hsites : ∀ site ∈ sites, site ∈ chainSites graph i) {pass : Pass ι}
    (hexpanded : i ∈ pass.expanded) {renderings : List (Rendering ι)}
    (hall : renderAll graph (visit graph options (depth + 1)) (rendered graph options (depth + 1)) sites
      pass = renderings) :
    renderings.map Rendering.site = sites
      ∧ ∀ rendering ∈ renderings, WellGuarded graph options rendering.children := by
  induction sites generalizing pass renderings with
  | nil =>
      subst hall
      exact ⟨rfl, nofun⟩
  | cons site sites ih =>
      obtain ⟨hhead, htail⟩ := List.forall_mem_cons.mp hsites
      obtain ⟨last, hsite⟩ := rendered_of_entry horderly hhead hexpanded depth
      have hgrows := grows_visit graph options (depth + 1) site.node (site.guard graph) pass
      obtain ⟨hmap, hbelow⟩ := ih htail (hgrows.subset hexpanded) rfl
      rw [renderAll, hsite] at hall
      subst hall
      refine ⟨?_, List.forall_mem_cons.mpr ⟨?_, hbelow⟩⟩
      · rw [List.singleton_append, List.map_cons, hmap]
        rfl
      · exact wellGuarded_renderAll hrendered (fun _ => entry_of_mem_childSites) last

theorem renderAll_zero (graph : Graph ι) (options : Options) (sites : List (Site ι)) (pass : Pass ι) :
    renderAll graph (visit graph options 0) (rendered graph options 0) sites pass = [] := by
  induction sites generalizing pass with
  | nil => rfl
  | cons site sites ih => exact ih _

theorem wellGuarded_chain (horderly : ∀ i, Orderly graph options i) {depth : Nat}
    (hrendered : ∀ below < depth, ∀ site pass, site.entry = none →
      WellGuarded graph options (rendered graph options below site pass))
    (i : ι) (pass : Pass ι) :
    WellGuarded graph options (renderAll graph (visit graph options depth)
      (rendered graph options depth) (chainSites graph i) (recorded i pass)) := by
  cases depth with
  | zero =>
      rw [renderAll_zero]
      exact .nil
  | succ depth =>
      have hexpanded : i ∈ (recorded i pass).expanded := List.mem_cons_self
      obtain ⟨hmap, hbelow⟩ := renderAll_of_entries horderly (hrendered depth (Nat.lt_succ_self depth))
        (fun _ hsite => hsite) hexpanded rfl
      have hvalid : ∀ rendering ∈ renderAll graph (visit graph options (depth + 1))
          (rendered graph options (depth + 1)) (chainSites graph i) (recorded i pass),
          Valid graph rendering.site := by
        intro rendering hmem
        apply valid_of_mem_chainSites
        rw [← hmap]
        exact List.mem_map_of_mem hmem
      refine .siblings ?_ (fun rendering hmem => carries_item horderly (hvalid rendering hmem)) hbelow
      rw [map_guards_items horderly hvalid, hmap, guards_chainSites]
      exact (horderly i).chained

/-- **What is rendered on its own is well guarded**, whatever pass it is rendered in. -/
theorem wellGuarded_rendered (horderly : ∀ i, Orderly graph options i) (depth : Nat) (site : Site ι)
    (pass : Pass ι) (hentry : site.entry = none) :
    WellGuarded graph options (rendered graph options depth site pass) := by
  induction depth using Nat.strongRecOn generalizing site pass with
  | ind depth ih =>
      cases depth with
      | zero => exact .nil
      | succ depth =>
          rw [rendered]
          split
          · exact wellGuarded_chain horderly (fun below hbelow => ih below (Nat.lt_succ_of_lt hbelow))
              site.node pass
          · split
            · refine wellGuarded_singleton horderly hentry (wellGuarded_renderAll ?_ ?_ _)
              · exact ih depth (Nat.lt_succ_self depth)
              · exact fun _ => entry_of_mem_childSites
            · exact .nil

end Generation

/-! ### Documents -/

namespace Tree

open Generation

/-- What is asked of the chains of a document. Only elements lead a chain or are blocks of one, a block
has no chain of its own, only the first and the last entry may go without a test, and no attribute is
named like a guard once a binding is taken off. -/
structure Regular (options : Options) (t : Tree) : Prop where
  names : NamesFree t.label
  lead : t.chain ≠ [] → IsOwnElement options t.label
  block : ∀ branch ∈ t.chain, ∀ block, branch.block = some block →
    block.chain = [] ∧ IsOwnElement options block.label
  tests : ∀ k branch, t.chain[k]? = some branch → branch.test.truthy = false →
    k = 0 ∨ k + 1 = t.chain.length

/-- Guards that are given by position and test are chained. -/
theorem chained_of_tests {chain : List (Branch Tree)}
    (hguards : ∀ k branch, chain[k]? = some branch → branch.guard = Load.guardAt k branch.test)
    (htests : ∀ k branch, chain[k]? = some branch → branch.test.truthy = false →
      k = 0 ∨ k + 1 = chain.length) :
    Chained (chain.map fun branch => [branch.guard]) := by
  intro k own hown hgoesOn
  rw [List.getElem?_map, Option.map_eq_some_iff] at hown
  obtain ⟨branch, hbranch, rfl⟩ := hown
  cases k with
  | zero =>
      rw [hguards 0 branch hbranch] at hgoesOn
      simp [Load.guardAt] at hgoesOn
  | succ j =>
      have hlength : j + 1 < chain.length := (List.getElem?_eq_some_iff.mp hbranch).1
      have hprevious : chain[j]? = some chain[j] := List.getElem?_eq_getElem (Nat.lt_of_succ_lt hlength)
      refine ⟨j, [chain[j].guard], rfl, ?_, ?_⟩
      · rw [List.getElem?_map, hprevious]
        rfl
      · by_cases hj : j = 0
        · left
          rw [hguards j _ hprevious]
          simp [Load.guardAt, hj]
        · have htest : chain[j].test.truthy = true := by
            by_contra hfalsy
            have hends := htests j _ hprevious (Bool.eq_false_iff.mpr hfalsy)
            omega
          right
          rw [hguards j _ hprevious]
          simp [Load.guardAt, hj, htest]

theorem guards_chain_graph {t u : Tree} {place : Place} (hat : t.at? place = some u) :
    (t.graph place).chain.map (fun condition => [condition.guard]) =
      u.chain.map fun branch => [branch.guard] := by
  rw [graph_eq_nodeAt hat]
  apply List.ext_getElem?
  intro k
  simp only [nodeAt, conditionsAt, List.getElem?_map, List.getElem?_mapIdx, Option.map_map]
  rfl

theorem orderly_graph {t : Tree} {options : Options} (hregular : t.Everywhere (Regular options))
    (hguards : t.Everywhere fun u =>
      ∀ k branch, u.chain[k]? = some branch → branch.guard = Load.guardAt k branch.test)
    (place : Place) : Generation.Orderly t.graph options place := by
  cases hat : t.at? place with
  | none =>
      have hempty := graph_eq_empty hat
      constructor
      all_goals rw [hempty]
      · exact nofun
      · exact nofun
      · exact nofun
      · exact .nil
  | some u =>
      have hu := hregular place u hat
      have hlabel := label_graph hat
      have hchain := isEmpty_chain_graph hat
      constructor
      · rw [hlabel]
        exact hu.names
      · rw [hlabel, hchain]
        exact fun hne => hu.lead (List.isEmpty_eq_false_iff.mp hne)
      · intro condition hmem
        have hlink : (condition.block, some condition.guard) ∈ chainLinks (t.graph place) :=
          List.mem_map_of_mem hmem
        obtain ⟨i, branch, hbranch, hlink⟩ := exists_of_mem_chainLinks hat hlink
        obtain ⟨hblock, -⟩ := Prod.mk.inj hlink
        rw [hblock]
        cases hown : branch.block with
        | none => exact .inl (blockPlace_of_none place i hown)
        | some block =>
            have hbelow := at?_block hat hbranch hown
            obtain ⟨hempty, helement⟩ := hu.block branch (List.mem_of_getElem? hbranch) block hown
            rw [blockPlace_of_some place i hown, isEmpty_chain_graph hbelow, label_graph hbelow]
            exact .inr ⟨List.isEmpty_iff.mpr hempty, helement⟩
      · rw [guards_chain_graph hat]
        exact chained_of_tests (hguards place u hat) hu.tests

/-- A text is loaded as the empty text if it is empty in any way. -/
theorem settled_of_label {place : Place} {fields : Fields} {own : Label}
    (hlabel : Load.label place fields = .ok own) : Settled own := by
  obtain ⟨type, -, hlabel⟩ := bind_eq_ok hlabel
  have htext : ∀ v : Value, (v.orElse (.str "")).orElse (.str "") = v.orElse (.str "") := by
    intro v
    cases hv : v.truthy with
    | true => simp [Value.orElse, hv]
    | false => simp [Value.orElse, hv]
  cases type with
  | element =>
      change Load.elementLabel place fields = _ at hlabel
      rw [Load.elementLabel] at hlabel
      split at hlabel
      · obtain ⟨tag, -, hlabel⟩ := bind_eq_ok hlabel
        obtain ⟨attrs, -, hlabel⟩ := bind_eq_ok hlabel
        obtain ⟨events, -, hlabel⟩ := bind_eq_ok hlabel
        cases hlabel
        rfl
      · cases hlabel
  | expression =>
      cases hlabel
      exact htext _
  | text =>
      cases hlabel
      exact htext _

/-- **Guards form legal chains in the output.** A document that was loaded and generated, and whose
chains are regular, is the spelling of what its pass renders. Among siblings there, whatever carries
`wx:elif` or `wx:else` comes right after what carries `wx:if` or `wx:elif`, and an element carries one
guard if it is rendered for an entry of a chain, that of the entry, and otherwise none. -/
theorem guards_form_chains {limit depth : Nat} {data : Value} {log rest : Log} {t : Tree}
    {options : Options} (hload : Load.tree limit data log = .ok t rest)
    (hregular : t.Everywhere (Regular options))
    (hsuccess : (generate t.graph options depth []).failed = false) :
    (generate t.graph options depth []).document.toList =
      spell (documentItems options (items t.graph options (renderings t.graph options depth [])))
    ∧ WellGuarded t.graph options (renderings t.graph options depth []) := by
  have hsettled : ∀ place, Settled (t.graph place).label := by
    intro place
    cases hat : t.at? place with
    | none =>
        rw [graph_eq_empty hat]
        rfl
    | some u =>
        rw [label_graph hat]
        exact Load.everywhere_of_node settled_of_label hload place u hat
  have hguards := Load.everywhere_of_nodeWith Load.guard_of_nodeWith hload
  exact ⟨spell_generate hsettled hsuccess,
    wellGuarded_rendered (orderly_graph hregular hguards) depth { node := [] } _ rfl⟩

/-- A lead that stands for two entries of its chain. It holds the lead of another chain, which is
expanded only once, and one whose chain is taken to be expanded. -/
def twiceLed : Value :=
  .object
    [("tag", .str "p"), ("_hid", .int 1),
      ("ifConditions", .list
        [.object [("exp", .str "a")], .object [("exp", .str "b")],
          .object [("block", .object [("tag", .str "i"), ("_hid", .int 2)])]]),
      ("children", .list
        [.object [("tag", .str "b"), ("_hid", .int 3), ("ifConditions", .list [.object []])],
          .object [("tag", .str "u"), ("_hid", .int 4), ("ifConditions", .list [.object []]),
            ("ifConditionsGenerated", .bool true)]])]

def twiceLedTree : Tree :=
  .node { tag := .str "p", handle := .int 1 }
    [.node { tag := .str "b", handle := .int 3 } [] [⟨.ifTrue, .null, none⟩],
      .node { tag := .str "u", handle := .int 4, chainDone := true } [] [⟨.ifTrue, .null, none⟩]]
    [⟨.ifTrue, .str "a", none⟩, ⟨.elseIf, .str "b", none⟩,
      ⟨.otherwise, .null, some (.node { tag := .str "i", handle := .int 2 } [] [])⟩]

theorem regular_twiceLedTree : twiceLedTree.Everywhere (Regular {}) := by
  have hchild : ∀ label : Label, label.kind = .element → label.component = .null →
      label.attributes = [] →
      Everywhere (Regular {}) (.node label [] [⟨.ifTrue, .null, none⟩]) := by
    intro label hkind hnull hattrs
    have hnames : NamesFree label := by
      rw [NamesFree, hattrs]
      exact nofun
    refine everywhere_node_iff.mpr ⟨⟨hnames, fun _ => isOwnElement_of_null hkind hnull, ?_, ?_⟩, nofun, ?_⟩
    · simp [Tree.chain]
    · intro k branch hbranch _
      exact .inl (Nat.lt_one_iff.mp (List.getElem?_eq_some_iff.mp hbranch).1)
    · simp
  refine everywhere_node_iff.mpr ⟨⟨nofun, fun _ => isOwnElement_of_null rfl rfl, ?_, ?_⟩, ?_, ?_⟩
  · simp only [Tree.chain, List.forall_mem_cons]
    refine ⟨nofun, nofun, ?_, nofun⟩
    rintro block ⟨⟩
    exact ⟨rfl, isOwnElement_of_null rfl rfl⟩
  · intro k branch hbranch hfalsy
    match k, hbranch with
    | 0, _ => exact .inl rfl
    | 1, rfl => exact nomatch hfalsy
    | 2, _ => exact .inr rfl
  · rw [List.forall_mem_cons, List.forall_mem_singleton]
    exact ⟨hchild _ rfl rfl rfl, hchild _ rfl rfl rfl⟩
  · simp only [List.forall_mem_cons]
    refine ⟨nofun, nofun, ?_, nofun⟩
    rintro block ⟨⟩
    exact everywhere_leaf ⟨nofun, fun hchain => absurd rfl hchain, nofun, nofun⟩

theorem guards_form_chains_twiceLed :
    Load.tree 2 twiceLed [] = .ok twiceLedTree [] ∧ twiceLedTree.Everywhere (Regular {})
      ∧ (generate twiceLedTree.graph {} 4 []).failed = false
      ∧ WellGuarded twiceLedTree.graph {} (renderings twiceLedTree.graph {} 4 [])
      ∧ (items twiceLedTree.graph {} (renderings twiceLedTree.graph {} 4 [])).map Item.guards =
        [[.ifTrue], [.elseIf], [.otherwise]] := by
  have hload : Load.tree 2 twiceLed [] = .ok twiceLedTree [] := by rfl
  have hsuccess : (generate twiceLedTree.graph {} 4 []).failed = false := by rfl
  exact ⟨hload, regular_twiceLedTree, hsuccess,
    (guards_form_chains hload regular_twiceLedTree hsuccess).2, by rfl⟩

/-- An element with a binding for an attribute that is named like a guard. -/
def boundGuard : Tree :=
  .node { tag := .str "p", handle := .int 1, attributes := [⟨":wx:else", "x"⟩] } [] []

/-- It is not enough that no attribute is named like a guard as it stands, since a binding is written
under the name that it sets. Here a node carries `wx:else` without any chain. -/
theorem bound_name_taken_for_guard :
    Load.tree 1 (.object
        [("tag", .str "p"), ("_hid", .int 1),
          ("attrsList", .list [.object [("name", .str ":wx:else"), ("value", .str "x")]])]) [] =
        .ok boundGuard []
      ∧ (boundGuard.Everywhere fun u => u.chain = []
        ∧ ∀ attr ∈ u.label.attributes, ¬ "wx:".toList <+: attr.name.toList)
      ∧ (generate boundGuard.graph {} 1 []).failed = false
      ∧ (generate boundGuard.graph {} 1 []).document =
        "<template name=\"defaultName\"><view class=\"_p\" "
          ++ "wx:else=\"\x7b\x7b _h[ 1 ][ 'wx:else' ] \x7d\x7d\"></view></template>"
      ∧ ¬ WellGuarded boundGuard.graph {} (renderings boundGuard.graph {} 1 []) := by
  refine ⟨by rfl, everywhere_leaf ⟨rfl, by decide⟩, by rfl, by rfl, ?_⟩
  have hguards : (items boundGuard.graph {} (renderings boundGuard.graph {} 1 [])).map Item.guards =
      [[.otherwise]] := by rfl
  rintro ⟨hchained, -, -⟩
  rw [hguards] at hchained
  obtain ⟨j, previous, hj, -⟩ := hchained 0 [.otherwise] rfl (.inr List.mem_cons_self)
  exact nomatch hj

end Tree

end MiniTemplate

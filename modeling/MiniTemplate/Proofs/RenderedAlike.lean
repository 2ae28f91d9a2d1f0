import MiniTemplate.Proofs.Handles
import MiniTemplate.Proofs.RenderedPass
/-!
# One account of what is rendered

What is rendered is said in four ways, each where it is needed: as the items of a tree (`Tree.forest`),
as its nodes in the order of the output (`Tree.renderedNodes`), as a relation between a tree and the
nodes that are rendered of it (`Tree.Visits`), and as what the visits of a pass render
(`Generation.renderings`). They are one account. The first two are the same recursion, read by two
functions that say what a node adds to what lies between its tags (`Tree.Follows`). Whatever such a
function reads off the renderings of a pass over a tree is what the recursion gives
(`readings_renderings`), as long as no chain has two entries that stand for its lead. The relation
holds of the nodes that are listed and of no others (`mem_renderedNodes_iff`).
-/

namespace MiniTemplate

open Forest Markup

/-! ### Reading renderings -/

namespace Generation

variable {ι α : Type}

mutual

/-- What is read off a rendered node. What a node adds to that which is read off the nodes between its
tags is said by `own`. -/
def reading (graph : Graph ι) (own : Label → Option Guard → List α → List α) : Rendering ι → List α
  | .node site children =>
    own (graph site.node).label (site.guard graph) (readings graph own children)

def readings (graph : Graph ι) (own : Label → Option Guard → List α → List α) :
    List (Rendering ι) → List α
  | [] => []
  | rendering :: renderings => reading graph own rendering ++ readings graph own renderings

end

theorem readings_append (graph : Graph ι) (own : Label → Option Guard → List α → List α)
    (first second : List (Rendering ι)) :
    readings graph own (first ++ second) = readings graph own first ++ readings graph own second := by
  induction first with
  | nil => rfl
  | cons rendering first ih => rw [List.cons_append, readings, readings, ih, List.append_assoc]

/-- What a node adds to the items between its tags. -/
def itemOf (options : Options) (label : Label) (guard : Option Guard) (inner : List Item) : List Item :=
  [ownItem options label inner guard]

/-- What a node adds to the nodes between its tags. -/
def nodeOf (options : Options) (label : Label) (guard : Option Guard)
    (inner : List (Label × Option Guard)) : List (Label × Option Guard) :=
  (label, guard) :: if label.showsChildren options then inner else []

mutual

theorem singleton_item (graph : Graph ι) (options : Options) :
    ∀ rendering : Rendering ι, [item graph options rendering] = reading graph (itemOf options) rendering
  | .node site children => by rw [item, reading, itemOf, items_eq_readings]

theorem items_eq_readings (graph : Graph ι) (options : Options) :
    ∀ renderings : List (Rendering ι),
      items graph options renderings = readings graph (itemOf options) renderings
  | [] => rfl
  | rendering :: renderings => by
      rw [items, readings, ← singleton_item, ← items_eq_readings, List.singleton_append]

end

/-- What a list of visits that succeed renders is read visit by visit. -/
theorem readings_renderAll [DecidableEq ι] {graph : Graph ι} {options : Options} {depth : Nat}
    {own : Label → Option Guard → List α → List α} {read : Link ι → List α} {sites : List (Site ι)}
    {pass last : Pass ι} {values : List Value}
    (hall : visitAll (visit graph options depth) (sites.map (Site.link graph)) pass = .ok values last)
    (hread : ∀ site ∈ sites, ∀ a ∈ begun (visit graph options depth) depth
      (sites.map (Site.link graph)) pass, (a.node, a.guard) = Site.link graph site →
      readings graph own (rendered graph options depth site a.pass) = read (Site.link graph site)) :
    readings graph own
        (renderAll graph (visit graph options depth) (rendered graph options depth) sites pass) =
      (sites.map (Site.link graph)).flatMap read := by
  induction sites generalizing pass values with
  | nil => rfl
  | cons site sites ih =>
      obtain ⟨value, mid, rest, hfirst, hrest, -⟩ := visitAll_cons_eq_ok hall
      have hbegun : begun (visit graph options depth) depth
          ((site :: sites).map (Site.link graph)) pass =
          ⟨depth, site.node, site.guard graph, pass⟩ ::
            begun (visit graph options depth) depth (sites.map (Site.link graph)) mid := by
        rw [List.map_cons, begun, hfirst]
        rfl
      rw [hbegun] at hread
      have hhead := hread site List.mem_cons_self _ List.mem_cons_self rfl
      have htail := ih hrest fun other hother a ha =>
        hread other (List.mem_cons_of_mem site hother) a (List.mem_cons_of_mem _ ha)
      change visit graph options depth site.node (site.guard graph) pass = .ok value mid at hfirst
      rw [renderAll, readings_append, hhead, hfirst, List.map_cons, List.flatMap_cons]
      exact congrArg _ htail

end Generation

/-! ### Reading trees -/

namespace Tree

open Generation

variable {α : Type} {options : Options} {own : Label → Option Guard → List α → List α}
  {f : Tree → Option Guard → List α} {t u : Tree} {guard position : Option Guard}

/-- What the root of a tree comes to, rendered itself. -/
def ownReading (own : Label → Option Guard → List α → List α) (f : Tree → Option Guard → List α)
    (t : Tree) (guard : Option Guard) : List α :=
  own t.label guard (t.children.flatMap fun child => f child none)

/-- What an entry of the chain of a tree comes to. -/
def entryReading (own : Label → Option Guard → List α → List α) (f : Tree → Option Guard → List α)
    (t : Tree) (branch : Branch Tree) : List α :=
  match branch.block with
  | none => t.ownReading own f (some branch.guard)
  | some block => f block (some branch.guard)

/-- The second function goes through a tree as a pass does, and reads each node by the first one. What
lies between the tags counts for elements only. -/
structure Follows (options : Options) (own : Label → Option Guard → List α → List α)
    (f : Tree → Option Guard → List α) : Prop where
  eq : ∀ t guard, f t guard =
    match t.course guard with
    | .itself => t.ownReading own f guard
    | .nothing => []
    | .chain => t.chain.flatMap (t.entryReading own f)
  closed : ∀ {label}, label.Loadable → ¬ Encloses options label → ∀ guard inner,
    own label guard inner = own label guard []

/-! ### Ready visits -/

/-- What the visit to a link from a place is to come to. -/
def linkReading (own : Label → Option Guard → List α → List α) (f : Tree → Option Guard → List α)
    (t : Tree) (place : Place) (link : Link Place) : List α :=
  match t.at? link.1 with
  | none => []
  | some u => if link.1 = place then u.ownReading own f link.2 else f u link.2

theorem flatMap_mapIdx {α β γ : Type} {g : Nat → α → β} {items : List α} {h : β → List γ}
    {k : α → List γ} (hsame : ∀ i a, items[i]? = some a → h (g i a) = k a) :
    (items.mapIdx g).flatMap h = items.flatMap k := by
  induction items generalizing g with
  | nil => rfl
  | cons item items ih =>
      rw [List.mapIdx_cons, List.flatMap_cons, List.flatMap_cons, hsame 0 item rfl,
        ih fun i a ha => hsame (i + 1) a ha]

variable {place : Place} {depth : Nat} {pass last : Pass Place} {value : Value}

theorem flatMap_linkReading_children (hat : t.at? place = some u) :
    (childLinks (t.graph place)).flatMap (t.linkReading own f place) =
      u.children.flatMap fun child => f child none := by
  rw [childLinks_graph hat]
  apply flatMap_mapIdx
  intro i child hchild
  have hother := snoc_ne_self place (.child i)
  have hstep : u.step? (.child i) = some child := hchild
  simp only [linkReading, at?_snoc hat, hstep, if_neg hother]

theorem flatMap_linkReading_chain (hat : t.at? place = some u) :
    (chainLinks (t.graph place)).flatMap (t.linkReading own f place) =
      u.chain.flatMap (u.entryReading own f) := by
  rw [chainLinks_graph hat]
  apply flatMap_mapIdx
  intro i branch hbranch
  cases hblock : branch.block with
  | none =>
      simp only [linkReading, blockPlace_of_none place i hblock, hat, if_true, entryReading, hblock]
  | some block =>
      have hother := snoc_ne_self place (.block i)
      simp only [linkReading, blockPlace_of_some place i hblock, at?_block hat hbranch hblock,
        if_neg hother, entryReading, hblock]

theorem course_of_opens (hat : t.at? place = some u) (hopens : Opens t.graph pass place)
    (guard : Option Guard) : u.course guard = .chain := by
  obtain ⟨hchain, hdone, -⟩ := hopens
  rw [isEmpty_chain_graph hat] at hchain
  rw [label_graph hat] at hdone
  rw [course, hchain, hdone]
  rfl

theorem course_of_not_opens (hat : t.at? place = some u) (hopens : ¬ Opens t.graph pass place)
    (hnew : place ∉ pass.expanded) (guard : Option Guard) :
    u.course guard =
      if ((t.graph place).chain.isEmpty || guard.isSome) = true then .itself else .nothing := by
  rw [course, isEmpty_chain_graph hat]
  cases hchain : u.chain.isEmpty with
  | true => rfl
  | false =>
      have hdone : u.label.chainDone = true := by
        rw [← label_graph hat]
        refine Bool.not_eq_false _ ▸ fun hdone => hopens ⟨?_, hdone, hnew⟩
        rw [isEmpty_chain_graph hat, hchain]
      rw [hdone]
      rfl

/-- What ready visits of a depth render is read as the tree says, if they succeed. Only a lead that is
met within its own chain counts as expanded there, and it is rendered itself. -/
def Reads (own : Label → Option Guard → List α → List α) (f : Tree → Option Guard → List α) (t : Tree)
    (options : Options) (depth : Nat) : Prop :=
  ∀ (site : Site Place) {pass last : Pass Place} {value : Value} {u : Tree},
    Ready t ⟨depth, site.node, site.guard t.graph, pass⟩ → t.at? site.node = some u →
    visit t.graph options depth site.node (site.guard t.graph) pass = .ok value last →
    (site.node ∈ pass.expanded → readings t.graph own (rendered t.graph options depth site pass) =
      u.ownReading own f (site.guard t.graph))
    ∧ (site.node ∉ pass.expanded → readings t.graph own (rendered t.graph options depth site pass) =
      f u (site.guard t.graph))

namespace Reads

variable (hnested : Reads own f t options depth) {site : Site Place}
include hnested

theorem renderAll {sites : List (Site Place)} {values : List Value}
    (hready : ∀ a ∈ begun (visit t.graph options depth) depth (sites.map (Site.link t.graph)) pass,
      Ready t a ∧ (a.node ∈ a.pass.expanded ↔ a.node = place))
    (hall : visitAll (visit t.graph options depth) (sites.map (Site.link t.graph)) pass =
      .ok values last) :
    readings t.graph own (Generation.renderAll t.graph (visit t.graph options depth)
        (rendered t.graph options depth) sites pass) =
      (sites.map (Site.link t.graph)).flatMap (t.linkReading own f place) := by
  refine readings_renderAll hall fun other hother a ha hsame => ?_
  obtain ⟨hready, hheld⟩ := hready a ha
  obtain ⟨v, hat, -⟩ := hready.exists_at
  obtain ⟨piece, after, hpiece⟩ := succeeds_of_mem_begun hall ha
  have hdepth := (exists_of_mem_begun ha).1
  obtain ⟨limit, node, guard, start⟩ := a
  obtain ⟨hnode, hguard⟩ := Prod.mk.inj hsame
  dsimp only at hdepth hnode hguard hheld hat hpiece ⊢
  subst hdepth hnode hguard
  obtain ⟨hlead, hfresh⟩ := hnested other hready hat hpiece
  rw [hheld] at hlead hfresh
  simp only [linkReading, Site.link, hat]
  by_cases hplace : other.node = place
  · exact (hlead hplace).trans (if_pos hplace).symm
  · exact (hfresh hplace).trans (if_neg hplace).symm

/-- A node that is rendered itself is read with its children, if it is an element. -/
theorem ownMove (hfollows : Follows options own f) (hlabel : u.label.Loadable)
    (hready : Ready t ⟨depth + 1, site.node, site.guard t.graph, pass⟩) (hat : t.at? site.node = some u)
    (hrun : (Generation.ownMove options (t.graph site.node) (site.guard t.graph) pass).run
      (visit t.graph options depth) = .ok value last) :
    readings t.graph own [.node site (Generation.renderAll t.graph (visit t.graph options depth)
        (rendered t.graph options depth) (childSites options (t.graph site.node))
        (finalPass (isComponent options (t.graph site.node).label pass)))] =
      u.ownReading own f (site.guard t.graph) := by
  rw [readings, readings, List.append_nil, reading, ownReading, label_graph hat]
  by_cases hencloses : Encloses options (t.graph site.node).label
  · obtain ⟨v, hatv, hdepth⟩ := hready.exists_at
    obtain rfl : u = v := Option.some.inj (hat.symm.trans hatv)
    obtain ⟨-, pieces, -, hall, -⟩ := exists_of_run_ownMove hencloses hrun
    have hclear := fun i => (hready.clear_child i).of_expanded_eq
      (expanded_isComponent options (t.graph site.node).label pass)
    rw [← map_link_childSites hencloses] at hall
    have hchildren := hnested.renderAll (fun a ha => ready_of_mem_begun_children hat hclear hdepth
      (map_link_childSites hencloses ▸ ha)) hall
    rw [map_link_childSites hencloses, flatMap_linkReading_children hat, label_graph hat] at hchildren
    rw [hchildren]
  · rw [childSites, enclosed_of_not_encloses hencloses]
    rw [label_graph hat] at hencloses
    exact (hfollows.closed hlabel hencloses _ _).symm

/-- One more level of visits is read as the tree says if the level below is. -/
theorem succ (hfollows : Follows options own f) (honce : t.LeadsOnce)
    (hlabels : t.Everywhere fun u => u.label.Loadable) : Reads own f t options (depth + 1) := by
  intro site pass last value u hready hat hvisit
  have hlabel : u.label.Loadable := hlabels site.node u hat
  rw [visit_succ, move] at hvisit
  rw [rendered]
  by_cases hopens : Opens t.graph pass site.node
  · rw [if_pos hopens] at hvisit
    rw [if_pos hopens, hfollows.eq, course_of_opens hat hopens]
    refine ⟨fun hheld => absurd hheld hopens.2.2, fun _ => ?_⟩
    cases hready with
    | lead v hatv hheld => exact absurd hheld hopens.2.2
    | fresh v hatv hclear hdepth =>
        obtain rfl : u = v := Option.some.inj (hat.symm.trans hatv)
        obtain ⟨pieces, hall, -⟩ := run_descend_eq_ok hvisit
        rw [← map_link_chainSites] at hall
        have hentries := hnested.renderAll (fun a ha => ready_of_mem_begun_chain hat honce hclear hdepth
          (map_link_chainSites t.graph site.node ▸ ha)) hall
        rwa [map_link_chainSites, flatMap_linkReading_chain hat] at hentries
  · rw [if_neg hopens] at hvisit
    rw [if_neg hopens]
    by_cases hown : ((t.graph site.node).chain.isEmpty || (site.guard t.graph).isSome) = true
    · rw [if_pos hown] at hvisit
      rw [if_pos hown, hnested.ownMove hfollows hlabel hready hat hvisit]
      refine ⟨fun _ => rfl, fun hnew => ?_⟩
      rw [hfollows.eq, course_of_not_opens hat hopens hnew, if_pos hown]
    · rw [if_neg hown]
      refine ⟨fun hheld => ?_, fun hnew => ?_⟩
      · cases hready with
        | lead v hatv _ hguard => exact absurd (Bool.or_eq_true_iff.mpr (.inr hguard)) hown
        | fresh v hatv hclear => exact absurd hheld hclear.not_mem
      · rw [hfollows.eq, course_of_not_opens hat hopens hnew, if_neg hown]
        rfl

end Reads

section Pass

variable (hfollows : Follows options own f) (honce : t.LeadsOnce)
  (hlabels : t.Everywhere fun u => u.label.Loadable)
include hfollows honce hlabels

theorem reads_of_leadsOnce (depth : Nat) : Reads own f t options depth := by
  induction depth with
  | zero =>
      intro site pass last value u hready hat hvisit
      cases hvisit
  | succ depth ih => exact ih.succ hfollows honce hlabels

/-- **What a pass renders is read as the tree says.** -/
theorem readings_renderings (hdepth : 2 * t.height ≤ depth)
    (hsuccess : (generate t.graph options depth []).failed = false) :
    readings t.graph own (renderings t.graph options depth []) = f t none := by
  obtain ⟨inner, final, hvisit, -⟩ := visit_of_generate hsuccess
  have hread := reads_of_leadsOnce hfollows honce hlabels depth { node := [] }
    (ready_root hdepth rfl) rfl hvisit
  exact hread.2 List.not_mem_nil

end Pass

/-! ### The four descriptions -/

theorem showsChildren_iff {label : Label} (hlabel : label.Loadable) :
    label.showsChildren options = true ↔ Encloses options label := by
  rw [encloses_iff hlabel, Label.showsChildren, Bool.and_eq_true, Option.isNone_iff_eq_none,
    decide_eq_true_iff]

theorem forests_eq_flatMap (options : Options) (children : List Tree) :
    forests options children = children.flatMap fun child => child.forest options none := by
  induction children with
  | nil => rfl
  | cons child children ih => rw [forests, ih, List.flatMap_cons]

theorem branchForests_eq_flatMap (options : Options) (t : Tree) (branches : List (Branch Tree)) :
    branchForests options (ownItem options t.label (forests options t.children)) branches =
      branches.flatMap (t.entryReading (itemOf options) (forest options)) := by
  induction branches with
  | nil => rfl
  | cons branch branches ih =>
      obtain ⟨guard, test, block⟩ := branch
      cases block with
      | none =>
          rw [branchForests, ih, List.flatMap_cons, entryReading, ownReading, itemOf,
            ← forests_eq_flatMap]
          rfl
      | some block => rw [branchForests, ih, List.flatMap_cons, entryReading]

theorem follows_forest (options : Options) : Follows options (itemOf options) (forest options) where
  eq := by
    intro t guard
    rw [← branchForests_eq_flatMap, ownReading, ← forests_eq_flatMap]
    obtain ⟨label, children, chain⟩ := t
    rw [forest, course]
    cases hchain : chain.isEmpty with
    | true => simp [Tree.chain, hchain, itemOf, Tree.label, Tree.children]
    | false =>
        cases hdone : label.chainDone with
        | false => simp [Tree.chain, Tree.label, Tree.children, hchain, hdone]
        | true => cases guard <;> simp [Tree.chain, Tree.label, Tree.children, hchain, hdone, itemOf]
  closed := by
    intro label hlabel hencloses guard inner
    rw [encloses_iff hlabel] at hencloses
    rw [itemOf, itemOf, ownItem, ownItem]
    cases hentry : referred? options label with
    | some entry => rfl
    | none =>
        cases hkind : label.kind with
        | text => rfl
        | element => exact absurd ⟨hentry, hkind⟩ hencloses

theorem follows_renderedNodes (options : Options) :
    Follows options (nodeOf options) (renderedNodes options) where
  eq t guard := renderedNodes_eq t options guard
  closed := by
    intro label hlabel hencloses guard inner
    rw [← showsChildren_iff hlabel] at hencloses
    rw [nodeOf, nodeOf, if_neg hencloses, if_neg hencloses]

variable {node : Label × Option Guard}

theorem not_mem_ownNodes_iff (hlabel : t.label.Loadable)
    (hchildren : ∀ child ∈ t.children, node ∉ child.renderedNodes options none ↔
      ∀ u position, Visits options child none u position → node ≠ (u.label, position))
    (guard : Option Guard) :
    node ∉ t.ownNodes options guard ↔
      ∀ u position, Renders options t guard u position → node ≠ (u.label, position) := by
  rw [forall_renders_iff, ownNodes, List.mem_cons, not_or, ← showsChildren_iff hlabel]
  refine and_congr_right fun _ => ?_
  cases t.label.showsChildren options with
  | false => simp
  | true =>
      simp only [if_true, List.mem_flatMap, not_exists, not_and, forall_const]
      exact forall₂_congr hchildren

theorem not_mem_renderedNodes_iff (t : Tree) (hlabels : t.Everywhere fun u => u.label.Loadable)
    (guard : Option Guard) :
    node ∉ t.renderedNodes options guard ↔
      ∀ u position, Visits options t guard u position → node ≠ (u.label, position) := by
  induction t using Tree.induct generalizing guard with
  | hnode t hchildren hblocks =>
      obtain ⟨hlabel, hbelow, hbeside⟩ := everywhere_iff.mp hlabels
      have hown := not_mem_ownNodes_iff hlabel fun child hmem =>
        hchildren child hmem (hbelow child hmem) none
      rw [renderedNodes_eq, forall_visits_iff]
      cases t.course guard with
      | itself => exact hown guard
      | nothing => simp
      | chain =>
          simp only [List.mem_flatMap, not_exists, not_and]
          refine forall₂_congr fun branch hbranch => ?_
          rw [branchNodes, ForEntry]
          cases hblock : branch.block with
          | none => exact hown (some branch.guard)
          | some block =>
              exact hblocks branch hbranch block hblock (hbeside branch hbranch block hblock) _

/-- The nodes that are listed are those that are visited. -/
theorem mem_renderedNodes_iff (hlabels : t.Everywhere fun u => u.label.Loadable) :
    node ∈ t.renderedNodes options guard ↔
      ∃ u, Visits options t guard u node.2 ∧ u.label = node.1 := by
  rw [← not_iff_not, not_mem_renderedNodes_iff t hlabels]
  constructor
  · rintro hnone ⟨u, hvisits, hlabel⟩
    exact hnone u node.2 hvisits (hlabel ▸ rfl)
  · rintro hnone u position hvisits rfl
    exact hnone ⟨u, hvisits, rfl⟩

/-- **One account of what is rendered.** Let a pass over a tree succeed. The items of what it renders
are the forest of the tree, its nodes are those of the tree in the same order, and they are the nodes
that are visited. -/
theorem rendered_alike (honce : t.LeadsOnce) (hlabels : t.Everywhere fun u => u.label.Loadable)
    (hdepth : 2 * t.height ≤ depth) (hsuccess : (generate t.graph options depth []).failed = false) :
    items t.graph options (renderings t.graph options depth []) = t.forest options none
      ∧ readings t.graph (nodeOf options) (renderings t.graph options depth []) =
        t.renderedNodes options none
      ∧ ∀ node, node ∈ readings t.graph (nodeOf options) (renderings t.graph options depth []) ↔
        ∃ u, Visits options t none u node.2 ∧ u.label = node.1 := by
  have hnodes := readings_renderings (follows_renderedNodes options) honce hlabels hdepth hsuccess
  refine ⟨?_, hnodes, fun node => ?_⟩
  · rw [items_eq_readings]
    exact readings_renderings (follows_forest options) honce hlabels hdepth hsuccess
  · rw [hnodes, mem_renderedNodes_iff hlabels]

end Tree

end MiniTemplate

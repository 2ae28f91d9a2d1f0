import MiniTemplate.Proofs.EndAlike
import MiniTemplate.Proofs.Expansion
import MiniTemplate.Proofs.Loaded
import MiniTemplate.Proofs.Stateless
/-!
# A pass over a tree keeps nothing that matters

On the graph of a tree the memory of a pass decides one thing only, namely that a lead which is met
again as an entry of its own chain is rendered itself. Everything else is met once. To see this, look
at a visit when it begins (`Ready`): either no chain at its place or below was expanded before, or the
place is that of a lead within its own chain and no chain below its children was. Both are handed on to
the nested visits, since the visits that come before one of them stay below other places.

It follows that a pass ends as rendering without a pass does, as soon as this is known for the entries
of a chain (`Answers.succ`). If one of them stands for the lead at most, both give the same
(`answers_of_leadsOnce`).
-/

namespace MiniTemplate

open Generation

namespace Tree

/-- In every chain at most one entry stands for the lead. -/
def LeadsOnce (t : Tree) : Prop :=
  t.Everywhere fun u => u.chain.countP (fun branch => branch.block.isNone) ≤ 1

/-- No chain at a place or below was expanded. -/
def Clear (place : Place) (pass : Pass Place) : Prop :=
  ∀ other ∈ pass.expanded, ¬ place <+: other

variable {t : Tree} {options : Options}

/-! ### Where the visits of a run take place -/

theorem prefix_of_mem_nested {depth : Nat} {place : Place} {guard : Option Guard} {pass : Pass Place}
    {a : Activation Place} (hmem : a ∈ nested t.graph options depth place guard pass) :
    place <+: a.node := by
  rcases nested_cases hmem with ⟨-, hmem⟩ | ⟨-, -, start, -, hmem⟩
  · exact prefix_of_mem_links (.inr (link_mem_of_mem_begun hmem))
  · exact prefix_of_mem_links (.inl (link_mem_of_mem_begun hmem))

/-- The visits of a run stay at the place of the first one and below. -/
theorem prefix_of_mem_trace {depth : Nat} {place : Place} {guard : Option Guard} {pass : Pass Place} :
    ∀ a ∈ trace t.graph options depth place guard pass, place <+: a.node := by
  apply forall_mem_trace fun a => place <+: a.node
  · intro depth other guard pass hplace a hmem
    exact hplace.trans (prefix_of_mem_nested hmem)
  · exact List.prefix_refl place

/-- Where no chain is expanded at the place itself, all other visits are below its children. -/
theorem child_prefix_of_mem_trace {depth : Nat} {place : Place} {guard : Option Guard}
    {pass : Pass Place} (hopens : ¬ Opens t.graph pass place) {a : Activation Place}
    (hmem : a ∈ trace t.graph options depth place guard pass) (hother : a.node ≠ place) :
    ∃ i, place ++ [.child i] <+: a.node := by
  cases depth with
  | zero => exact absurd hmem List.not_mem_nil
  | succ depth =>
      rw [trace, List.mem_cons, List.mem_flatMap] at hmem
      rcases hmem with rfl | ⟨b, hb, hmem⟩
      · exact absurd rfl hother
      · have hbelow := prefix_of_mem_trace a hmem
        rcases nested_cases hb with ⟨hopens', -⟩ | ⟨-, -, start, -, hb⟩
        · exact absurd hopens' hopens
        · have hlink := link_mem_of_mem_begun hb
          cases hat : t.at? place with
          | none =>
              rw [graph_eq_empty hat] at hlink
              exact absurd hlink List.not_mem_nil
          | some u =>
              obtain ⟨i, child, -, heq, -⟩ := exists_of_mem_childLinks hat hlink
              obtain ⟨hnode, -⟩ := Prod.mk.inj heq
              exact ⟨i, hnode ▸ hbelow⟩

theorem exists_of_mem_openings {graph : Graph Place} {activations : List (Activation Place)}
    {place : Place} (hmem : place ∈ openings graph activations) :
    ∃ a ∈ activations, a.node = place := by
  obtain ⟨a, ha, hnode⟩ := List.mem_map.mp hmem
  exact ⟨a, (List.mem_filter.mp ha).1, hnode⟩

/-- What a list of visits adds to the pass lies below the places visited, and below their children
where the place itself was expanded before. -/
theorem prefix_of_mem_expanded {depth : Nat} {links : List (Link Place)} {pass last : Pass Place}
    {values : List Value}
    (hall : visitAll (visit t.graph options depth) links pass = .ok values last) {place : Place}
    (hmem : place ∈ last.expanded) (hnew : place ∉ pass.expanded) :
    ∃ link ∈ links, link.1 <+: place
      ∧ (link.1 ∈ pass.expanded → ∃ i, link.1 ++ [.child i] <+: place) := by
  have hgrows := grows_visitAll (grows_visit t.graph options depth) links pass
  rw [hall] at hgrows
  have hopening : place ∈ openings t.graph (traces t.graph options depth
      (begun (visit t.graph options depth) depth links pass)) := by
    rw [finalPass] at hgrows
    rw [hgrows.expanded_eq, List.mem_append, List.mem_reverse] at hmem
    exact hmem.resolve_right hnew
  obtain ⟨a, ha, rfl⟩ := exists_of_mem_openings hopening
  obtain ⟨b, hb, ha⟩ := List.mem_flatMap.mp ha
  refine ⟨(b.node, b.guard), link_mem_of_mem_begun hb, prefix_of_mem_trace a ha, ?_⟩
  intro hexpanded
  have hheld : b.node ∈ b.pass.expanded := expanded_subset_of_mem_begun hb hexpanded
  apply child_prefix_of_mem_trace (fun hopens => hopens.2.2 hheld) ha
  intro hsame
  exact hnew (hsame ▸ hexpanded)

/-! ### What a visit finds when it begins -/

/-- A visit is ready when no chain at its place or below was expanded, or when it renders a lead within
its own chain and no chain below the children of the lead was. A level of the tree takes two visits at
most, one that expands the chain and one for the lead itself. -/
inductive Ready (t : Tree) (a : Activation Place) : Prop where
  | fresh (u : Tree) (hat : t.at? a.node = some u) (hclear : Clear a.node a.pass)
      (hdepth : 2 * u.height ≤ a.depth)
  | lead (u : Tree) (hat : t.at? a.node = some u) (hheld : a.node ∈ a.pass.expanded)
      (hguard : a.guard.isSome = true) (hclear : ∀ i, Clear (a.node ++ [.child i]) a.pass)
      (hdepth : 2 * u.height ≤ a.depth + 1)

theorem Clear.mono {place other : Place} {pass : Pass Place} (hclear : Clear place pass)
    (hunder : place <+: other) : Clear other pass :=
  fun q hq hother => hclear q hq (hunder.trans hother)

theorem Clear.not_mem {place : Place} {pass : Pass Place} (hclear : Clear place pass) :
    place ∉ pass.expanded :=
  fun hmem => hclear place hmem (List.prefix_refl place)

/-- The entries of a list that is made by index, up to one of them. -/
theorem mapIdx_split {α β : Type} {f : Nat → α → β} {items : List α} {before after : List β} {b : β}
    (hsplit : items.mapIdx f = before ++ b :: after) :
    (∃ a, items[before.length]? = some a ∧ b = f before.length a)
      ∧ ∀ c ∈ before, ∃ i a, i < before.length ∧ items[i]? = some a ∧ c = f i a := by
  have hget : ∀ i, items[i]?.map (f i) = (before ++ b :: after)[i]? := by
    intro i
    rw [← hsplit, List.getElem?_mapIdx]
  constructor
  · have hb := hget before.length
    rw [List.getElem?_append_right (Nat.le_refl _), Nat.sub_self, List.getElem?_cons_zero] at hb
    obtain ⟨a, ha, heq⟩ := Option.map_eq_some_iff.mp hb
    exact ⟨a, ha, heq.symm⟩
  · intro c hc
    obtain ⟨i, hi, rfl⟩ := List.getElem_of_mem hc
    have hc := hget i
    rw [List.getElem?_append_left hi, List.getElem?_eq_getElem hi] at hc
    obtain ⟨a, ha, heq⟩ := Option.map_eq_some_iff.mp hc
    exact ⟨i, a, hi, ha, heq.symm⟩

/-- In a list with one entry of a kind at most, those after such an entry are of another kind. -/
theorem eq_false_of_countP_le_one {α : Type} {p : α → Bool} {items : List α}
    (hcount : items.countP p ≤ 1) {i j : Nat} {a b : α} (hlt : i < j) (ha : items[i]? = some a)
    (hb : items[j]? = some b) (hp : p a = true) : p b = false := by
  induction items generalizing i j with
  | nil => simp at ha
  | cons item items ih =>
      obtain ⟨j, rfl⟩ := Nat.exists_eq_succ_of_ne_zero (Nat.ne_of_gt (Nat.zero_lt_of_lt hlt))
      rw [List.getElem?_cons_succ] at hb
      cases i with
      | zero =>
          rw [List.getElem?_cons_zero, Option.some_inj] at ha
          rw [List.countP_cons_of_pos (ha ▸ hp)] at hcount
          have hnone := List.countP_eq_zero.mp (Nat.le_zero.mp (Nat.le_of_succ_le_succ hcount))
          exact Bool.eq_false_iff.mpr (hnone b (List.mem_of_getElem? hb))
      | succ i =>
          rw [List.getElem?_cons_succ] at ha
          have hle : items.countP p ≤ (item :: items).countP p :=
            (List.sublist_cons_self item items).countP_le
          exact ih (Nat.le_trans hle hcount) (Nat.lt_of_succ_lt_succ hlt) ha hb

theorem not_prefix_of_snoc (place : Place) (step : Step) : ¬ place ++ [step] <+: place := by
  intro hunder
  have hlength := hunder.length_le
  rw [List.length_append, List.length_singleton] at hlength
  omega

theorem snoc_ne_self (place : Place) (step : Step) : place ++ [step] ≠ place :=
  fun hsame => not_prefix_of_snoc place step (hsame.symm ▸ List.prefix_refl place)

theorem isNone_of_blockPlace {place : Place} {index : Nat} {branch : Branch Tree}
    (hsame : blockPlace place index branch = place) : branch.block.isNone = true := by
  cases hblock : branch.block with
  | none => rfl
  | some block =>
      rw [blockPlace_of_some place index hblock] at hsame
      exact absurd hsame (snoc_ne_self place (.block index))

variable {depth : Nat} {place : Place} {u : Tree} {pass : Pass Place} {a : Activation Place}

/-- Each child of a node that is rendered itself finds nothing below it expanded: the children before
it are at other places. -/
theorem ready_of_mem_begun_children (hat : t.at? place = some u)
    (hclear : ∀ i, Clear (place ++ [.child i]) pass) (hdepth : 2 * u.height ≤ depth + 2)
    (hmem : a ∈ begun (visit t.graph options depth) depth (childLinks (t.graph place)) pass) :
    Ready t a ∧ (a.node ∈ a.pass.expanded ↔ a.node = place) := by
  obtain ⟨hdepth', before, after, values, hlinks, hbefore⟩ := exists_of_mem_begun hmem
  rw [childLinks_graph hat] at hlinks
  obtain ⟨⟨child, hchild, heq⟩, hearlier⟩ := mapIdx_split hlinks
  obtain ⟨hnode, -⟩ := Prod.mk.inj heq
  have hstep : u.step? (.child before.length) = some child := hchild
  have hlower := height_lt_of_step? hstep
  have hclear' : Clear a.node a.pass := by
    rw [hnode]
    intro other hother hbelow
    by_cases hold : other ∈ pass.expanded
    · exact hclear _ other hold hbelow
    · obtain ⟨link, hlink, hunder, -⟩ := prefix_of_mem_expanded hbefore hother hold
      obtain ⟨i, sibling, hlt, -, rfl⟩ := hearlier link hlink
      have hindex := Step.child.inj (step_eq_of_common_place hunder hbelow)
      omega
  refine ⟨.fresh child ?_ hclear' (by omega), fun hheld => absurd hheld hclear'.not_mem, ?_⟩
  · rw [hnode, at?_snoc hat, hstep]
  · intro hsame
    exact absurd (hnode.symm.trans hsame) (snoc_ne_self place (.child before.length))

/-- What lies below a lead after some entries of its chain was expanded by one of them: below a child of
the lead if that entry stands for the lead, and below its block otherwise. -/
theorem step_of_mem_expanded_chain (hat : t.at? place = some u) (hclear : Clear place pass)
    {before after : List (Link Place)} {link : Link Place} {last : Pass Place} {values : List Value}
    (hlinks : chainLinks (t.graph place) = before ++ link :: after)
    (hbefore : visitAll (visit t.graph options depth) before (recorded place pass) = .ok values last)
    {other : Place} (hother : other ∈ last.expanded) {step : Step}
    (hbelow : place ++ [step] <+: other) :
    (∃ k, step = .child k ∧ ∃ link ∈ before, link.1 = place)
      ∨ ∃ i, i < before.length ∧ step = .block i := by
  have hnew : other ∉ (recorded place pass).expanded := by
    intro hold
    rcases List.mem_cons.mp hold with rfl | hold
    · exact not_prefix_of_snoc other step hbelow
    · exact hclear other hold ((List.prefix_append place [step]).trans hbelow)
  obtain ⟨link, hlink, hunder, hlead⟩ := prefix_of_mem_expanded hbefore hother hnew
  rw [chainLinks_graph hat] at hlinks
  obtain ⟨i, sibling, hlt, -, rfl⟩ := (mapIdx_split hlinks).2 link hlink
  cases hblock : sibling.block with
  | none =>
      have hplace := blockPlace_of_none place i hblock
      rw [hplace] at hlead
      obtain ⟨k, hchild⟩ := hlead List.mem_cons_self
      exact .inl ⟨k, step_eq_of_common_place hbelow hchild, _, hlink, hplace⟩
  | some block =>
      rw [blockPlace_of_some place i hblock] at hunder
      exact .inr ⟨i, hlt, step_eq_of_common_place hbelow hunder⟩

/-- The first entry of a chain that stands for the lead finds nothing expanded below the children of the
lead. -/
theorem ready_of_first_lead (hat : t.at? place = some u) (hclear : Clear place pass)
    (hdepth : 2 * u.height ≤ depth + 1) {before after : List (Link Place)} {guard : Guard}
    {last : Pass Place} {values : List Value}
    (hlinks : chainLinks (t.graph place) = before ++ (place, some guard) :: after)
    (hbefore : visitAll (visit t.graph options depth) before (recorded place pass) = .ok values last)
    (hfirst : ∀ link ∈ before, link.1 ≠ place) (hheld : place ∈ last.expanded) :
    Ready t ⟨depth, place, some guard, last⟩ := by
  refine .lead u hat hheld rfl ?_ hdepth
  intro k other hother hbelow
  rcases step_of_mem_expanded_chain hat hclear hlinks hbefore hother hbelow with
    ⟨-, -, link, hlink, hlead⟩ | ⟨i, -, hstep⟩
  · exact hfirst link hlink hlead
  · exact nomatch hstep

/-- Each entry of a chain finds nothing below its block expanded. -/
theorem ready_of_block (hat : t.at? place = some u) (hclear : Clear place pass)
    (hdepth : 2 * u.height ≤ depth + 1)
    (hmem : a ∈ begun (visit t.graph options depth) depth (chainLinks (t.graph place))
      (recorded place pass)) (hother : a.node ≠ place) :
    Ready t a ∧ a.node ∉ a.pass.expanded := by
  obtain ⟨hdepth', before, after, values, hsplit, hbefore⟩ := exists_of_mem_begun hmem
  have hlinks := hsplit
  rw [chainLinks_graph hat] at hlinks
  obtain ⟨branch, hbranch, heq⟩ := (mapIdx_split hlinks).1
  obtain ⟨hnode, -⟩ := Prod.mk.inj heq
  cases hblock : branch.block with
  | none => exact absurd (hnode.trans (blockPlace_of_none place _ hblock)) hother
  | some block =>
      rw [blockPlace_of_some place _ hblock] at hnode
      have hclear' : Clear a.node a.pass := by
        rw [hnode]
        intro other hexpanded hbelow
        rcases step_of_mem_expanded_chain hat hclear hsplit hbefore hexpanded hbelow with
          ⟨k, hstep, -⟩ | ⟨i, hlt, hstep⟩
        · exact nomatch hstep
        · have hindex := Step.block.inj hstep
          omega
      have hstep : u.step? (.block before.length) = some block := by
        rw [step?, hbranch]
        exact hblock
      have hlower := height_lt_of_step? hstep
      refine ⟨.fresh block ?_ hclear' (by omega), hclear'.not_mem⟩
      rw [hnode, at?_snoc hat, hstep]

/-- Where one entry of each chain stands for the lead at most, all entries are ready. -/
theorem ready_of_mem_begun_chain (hat : t.at? place = some u) (honce : t.LeadsOnce)
    (hclear : Clear place pass) (hdepth : 2 * u.height ≤ depth + 1)
    (hmem : a ∈ begun (visit t.graph options depth) depth (chainLinks (t.graph place))
      (recorded place pass)) :
    Ready t a ∧ (a.node ∈ a.pass.expanded ↔ a.node = place) := by
  by_cases hlead : a.node = place
  · have hheld : place ∈ a.pass.expanded := expanded_subset_of_mem_begun hmem List.mem_cons_self
    refine ⟨?_, fun _ => hlead, fun _ => hlead ▸ hheld⟩
    obtain ⟨rfl, before, after, values, hsplit, hbefore⟩ := exists_of_mem_begun hmem
    have hlinks := hsplit
    rw [chainLinks_graph hat] at hlinks
    obtain ⟨⟨branch, hbranch, heq⟩, hearlier⟩ := mapIdx_split hlinks
    obtain ⟨hnode, hguard⟩ := Prod.mk.inj heq
    have hnone := isNone_of_blockPlace (hnode.symm.trans hlead)
    obtain ⟨depth, node, guard, last⟩ := a
    dsimp only at *
    subst hlead hguard
    refine ready_of_first_lead hat hclear hdepth hsplit hbefore ?_ hheld
    intro link hlink hsame
    obtain ⟨i, sibling, hlt, hsibling, rfl⟩ := hearlier link hlink
    have hsome := eq_false_of_countP_le_one (honce node u hat) hlt hsibling hbranch
      (isNone_of_blockPlace hsame)
    rw [hnone] at hsome
    exact nomatch hsome
  · obtain ⟨hready, hnew⟩ := ready_of_block hat hclear hdepth hmem hlead
    exact ⟨hready, fun hheld => absurd hheld hnew, fun hsame => absurd hsame hlead⟩

theorem Ready.exists_at (hready : Ready t a) :
    ∃ u, t.at? a.node = some u ∧ 2 * u.height ≤ a.depth + 1 := by
  cases hready with
  | fresh u hat hclear hdepth => exact ⟨u, hat, Nat.le_succ_of_le hdepth⟩
  | lead u hat hheld hguard hclear hdepth => exact ⟨u, hat, hdepth⟩

theorem Ready.clear_child (hready : Ready t a) (i : Nat) : Clear (a.node ++ [.child i]) a.pass := by
  cases hready with
  | fresh u hat hclear hdepth => exact hclear.mono (List.prefix_append a.node [.child i])
  | lead u hat hheld hguard hclear hdepth => exact hclear i

theorem Clear.of_expanded_eq {other : Pass Place} (hclear : Clear place pass)
    (hsame : other.expanded = pass.expanded) : Clear place other :=
  fun q hq => hclear q (hsame ▸ hq)

theorem ready_of_mem_nested (honce : t.LeadsOnce) {guard : Option Guard}
    (hready : Ready t ⟨depth + 1, place, guard, pass⟩)
    (hmem : a ∈ nested t.graph options depth place guard pass) : Ready t a := by
  rcases nested_cases hmem with ⟨hopens, hmem⟩ | ⟨-, -, start, hsame, hmem⟩
  · cases hready with
    | fresh u hat hclear hdepth => exact (ready_of_mem_begun_chain hat honce hclear hdepth hmem).1
    | lead u hat hheld => exact absurd hheld hopens.2.2
  · obtain ⟨u, hat, hdepth⟩ := hready.exists_at
    have hclear := fun i => (hready.clear_child i).of_expanded_eq hsame
    exact (ready_of_mem_begun_children hat hclear hdepth hmem).1

/-- All visits of a run that begins with a ready one are ready. -/
theorem ready_of_mem_trace (honce : t.LeadsOnce) {guard : Option Guard}
    (hready : Ready t ⟨depth, place, guard, pass⟩) :
    ∀ a ∈ trace t.graph options depth place guard pass, Ready t a :=
  forall_mem_trace (Ready t) (fun _ _ _ _ hready _ hmem => ready_of_mem_nested honce hready hmem)
    depth place guard pass hready

/-! ### A ready visit gives what the tree gives -/

theorem outcome_isComponent {ι : Type} (options : Options) (label : Label) (pass : Pass ι) :
    outcome (isComponent options label pass) = isReference options label := by
  rw [isComponent, isReference]
  split
  · rfl
  · rw [bind_apply]
    cases Markup.importOf? options label.tag with
    | error failure => rfl
    | ok found => cases found <;> rfl

theorem ownMove_of_encloses {ι : Type} {node : Node ι} (hencloses : Encloses options node.label)
    (guard : Option Guard) (pass : Pass ι) :
    ownMove options node guard pass =
      match Markup.startTag options node.label guard with
      | .error failure => .halt (.error failure (finalPass (isComponent options node.label pass)))
      | .ok (start, tag) =>
        .descend (childLinks node) (finalPass (isComponent options node.label pass))
          (finishElement start tag) := by
  obtain ⟨hreference, hkind⟩ := hencloses
  rw [← outcome_isComponent options node.label pass] at hreference
  rw [ownMove]
  cases hcomponent : isComponent options node.label pass with
  | error failure last =>
      rw [hcomponent] at hreference
      cases hreference
  | ok component last =>
      rw [hcomponent] at hreference
      cases hreference
      rw [hkind]
      rfl

/-- An element that is rendered has a start tag and all its children. -/
theorem exists_of_run_ownMove {ι : Type} {node : Node ι} (hencloses : Encloses options node.label)
    {nested : Visit ι} {guard : Option Guard} {pass last : Pass ι} {value : Value}
    (hrun : (ownMove options node guard pass).run nested = .ok value last) :
    ∃ written pieces, Markup.startTag options node.label guard = .ok written
      ∧ visitAll nested (childLinks node) (finalPass (isComponent options node.label pass)) =
        .ok pieces last
      ∧ finishElement written.1 written.2 pieces = .ok value := by
  rw [ownMove_of_encloses hencloses] at hrun
  cases hstart : Markup.startTag options node.label guard with
  | error failure =>
      rw [hstart] at hrun
      exact nomatch hrun
  | ok written =>
      rw [hstart] at hrun
      obtain ⟨pieces, hall, hfinish⟩ := run_descend_eq_ok hrun
      exact ⟨written, pieces, rfl, hall, hfinish⟩

/-- A node with nothing between its tags gives the same whenever it is rendered. -/
theorem ownMove_of_not_encloses {ι : Type} {node : Node ι} (hencloses : ¬ Encloses options node.label)
    (children : Except Failure (List Value)) (position guard : Option Guard) (pass : Pass ι) :
    ownMove options node guard pass =
      .halt (ofExcept (ownMarkup options node.label children position)
        (finalPass (isComponent options node.label pass))) := by
  have hreference := outcome_isComponent options node.label pass
  rw [ownMove, ownMarkup, ← hreference]
  cases hcomponent : isComponent options node.label pass with
  | error failure last => rfl
  | ok component last =>
      rw [hcomponent] at hreference
      cases component with
      | true => cases Markup.componentOf options node.label <;> rfl
      | false =>
          cases hkind : node.label.kind with
          | text => rfl
          | element => exact absurd ⟨hreference.symm, hkind⟩ hencloses

/-- What the visit to a link from a place is to give. -/
def linkMarkup (t : Tree) (options : Options) (place : Place) (link : Link Place) :
    Except Failure Value :=
  match t.at? link.1 with
  | none => .ok (.str "")
  | some u => if link.1 = place then u.own options link.2 else u.markup options link.2

theorem mapM_mapIdx {α β : Type} {f : Nat → α → β} {items : List α} {g : β → Except Failure Value}
    {h : α → Except Failure Value} (hsame : ∀ i a, items[i]? = some a → g (f i a) = h a) :
    (items.mapIdx f).mapM g = items.mapM h := by
  induction items generalizing f with
  | nil => rfl
  | cons item items ih =>
      rw [List.mapIdx_cons, List.mapM_cons, List.mapM_cons, hsame 0 item rfl,
        ih fun i a ha => hsame (i + 1) a ha]

theorem mapM_linkMarkup_children (hat : t.at? place = some u) (options : Options) :
    (childLinks (t.graph place)).mapM (t.linkMarkup options place) = markups options u.children := by
  rw [childLinks_graph hat, markups_eq_mapM]
  apply mapM_mapIdx
  intro i child hchild
  have hother := snoc_ne_self place (.child i)
  have hstep : u.step? (.child i) = some child := hchild
  simp only [linkMarkup, at?_snoc hat, hstep, if_neg hother]

theorem mapM_linkMarkup_chain (hat : t.at? place = some u) (options : Options) :
    (chainLinks (t.graph place)).mapM (t.linkMarkup options place) =
      u.chain.mapM (branchMarkup options (u.own options)) := by
  rw [chainLinks_graph hat]
  apply mapM_mapIdx
  intro i branch hbranch
  cases hblock : branch.block with
  | none =>
      simp only [linkMarkup, blockPlace_of_none place i hblock, hat, if_true, branchMarkup, hblock]
  | some block =>
      have hother := snoc_ne_self place (.block i)
      simp only [linkMarkup, blockPlace_of_some place i hblock, at?_block hat hbranch hblock,
        if_neg hother, branchMarkup, hblock]

theorem isEmpty_chain_graph (hat : t.at? place = some u) :
    (t.graph place).chain.isEmpty = u.chain.isEmpty := by
  rw [graph_eq_nodeAt hat]
  cases hchain : u.chain <;> simp [nodeAt, conditionsAt, hchain]

theorem label_graph (hat : t.at? place = some u) : (t.graph place).label = u.label := by
  rw [graph_eq_nodeAt hat, nodeAt]

/-- What a ready visit does, and what the tree says there: the chain is expanded in a clear place, or
the node is rendered itself, or it is a lead whose chain counts as expanded and gives nothing. -/
theorem Ready.cases {guard : Option Guard} (hready : Ready t ⟨depth + 1, place, guard, pass⟩)
    (hat : t.at? place = some u) (options : Options) :
    (Opens t.graph pass place ∧ Clear place pass ∧ 2 * u.height ≤ depth + 1)
    ∨ (visit t.graph options (depth + 1) place guard pass =
        (ownMove options (t.graph place) guard pass).run (visit t.graph options depth)
      ∧ (if place ∈ pass.expanded then u.own options guard else u.markup options guard)
        = u.own options guard)
    ∨ (visit t.graph options (depth + 1) place guard pass = .ok (.str "") pass
      ∧ (if place ∈ pass.expanded then u.own options guard else u.markup options guard)
        = .ok (.str "")) := by
  rw [visit_succ, move]
  cases hready with
  | lead v hatv hheld hguard =>
      -- a lead within its own chain comes with the guard of its entry
      change guard.isSome = true at hguard
      rw [if_neg fun hopens => hopens.2.2 hheld, hguard, Bool.or_true, if_pos rfl, if_pos hheld]
      exact .inr (.inl ⟨rfl, rfl⟩)
  | fresh v hatv hclear hdepth =>
      obtain rfl : u = v := Option.some.inj (hat.symm.trans hatv)
      by_cases hopens : Opens t.graph pass place
      · exact .inl ⟨hopens, hclear, hdepth⟩
      rw [if_neg hopens, if_neg hclear.not_mem, isEmpty_chain_graph hat]
      cases hchain : u.chain.isEmpty with
      | true => exact .inr (.inl ⟨rfl, markup_of_no_chain hchain options guard⟩)
      | false =>
          have hdone : u.label.chainDone = true := by
            rw [← label_graph hat]
            refine Bool.not_eq_false _ ▸ fun hdone => hopens ⟨?_, hdone, hclear.not_mem⟩
            rw [isEmpty_chain_graph hat, hchain]
          rw [markup_of_done hchain hdone, Bool.false_or]
          cases guard with
          | none => exact .inr (.inr ⟨rfl, rfl⟩)
          | some guard => exact .inr (.inl ⟨rfl, rfl⟩)

/-- Visits of a depth end as the tree says whenever they are ready, the values being related. Only a lead
that is met within its own chain counts as expanded there, and it is rendered itself. -/
def Answers (related : Value → Value → Prop) (t : Tree) (options : Options) (depth : Nat) : Prop :=
  ∀ {place : Place} {guard : Option Guard} {pass : Pass Place} {u : Tree},
    Ready t ⟨depth, place, guard, pass⟩ → t.at? place = some u →
    EndAlike related (outcome (visit t.graph options depth place guard pass))
      (if place ∈ pass.expanded then u.own options guard else u.markup options guard)

namespace Answers

variable {related : Value → Value → Prop} {guard : Option Guard}

theorem zero : Answers related t options 0 := by
  intro place guard pass u hready hat
  obtain ⟨v, -, hdepth⟩ := hready.exists_at
  have hpos := v.height_pos
  dsimp only at hdepth
  omega

theorem alike_link (hnested : Answers related t options depth) {links : List (Link Place)}
    (ha : a ∈ begun (visit t.graph options depth) depth links pass)
    (hready : Ready t a ∧ (a.node ∈ a.pass.expanded ↔ a.node = place)) :
    EndAlike related (outcome (visit t.graph options depth a.node a.guard a.pass))
      (t.linkMarkup options place (a.node, a.guard)) := by
  obtain ⟨hready, hheld⟩ := hready
  obtain ⟨v, hat, -⟩ := hready.exists_at
  have hdepth := (exists_of_mem_begun ha).1
  obtain ⟨limit, node, guard, last⟩ := a
  cases hdepth
  have hend := hnested hready hat
  simp only [hheld] at hend
  simp only [linkMarkup, hat]
  exact hend

/-- A node whose children find nothing expanded ends, rendered itself, as the tree says. -/
theorem alike_own (hrespected : Respected related) (hnested : Answers related t options depth)
    (hready : Ready t ⟨depth + 1, place, guard, pass⟩) (hat : t.at? place = some u) :
    EndAlike related
      (outcome ((ownMove options (t.graph place) guard pass).run (visit t.graph options depth)))
      (u.own options guard) := by
  obtain ⟨v, hatv, hdepth⟩ := hready.exists_at
  obtain rfl : u = v := Option.some.inj (hat.symm.trans hatv)
  rw [own, ← label_graph hat]
  by_cases hencloses : Encloses options (t.graph place).label
  · rw [ownMove_of_encloses hencloses, ownMarkup_of_encloses hencloses]
    cases Markup.startTag options (t.graph place).label guard with
    | error failure => exact .error failure
    | ok written =>
        have hclear := fun i => (hready.clear_child i).of_expanded_eq
          (expanded_isComponent options (t.graph place).label pass)
        have hchildren := alike_visitAll depth fun a ha =>
          hnested.alike_link ha (ready_of_mem_begun_children hat hclear hdepth ha)
        rw [mapM_linkMarkup_children hat] at hchildren
        change EndAlike _ (outcome ((Move.descend _ _ (finishElement written.1 written.2)).run _))
          (markups options u.children >>= finishElement written.1 written.2)
        rw [outcome_run_descend]
        exact hchildren.bind fun pieces others => hrespected.element written.1 written.2
  · rw [ownMove_of_not_encloses hencloses (markups options u.children) guard, Move.run,
      outcome_ofExcept]
    exact .refl hrespected.refl _

/-- The entries of a chain end as the tree says. This is what depends on how many of them stand for
the lead. -/
def Entries (related : Value → Value → Prop) (t : Tree) (options : Options) (depth : Nat) : Prop :=
  ∀ {place : Place} {pass : Pass Place} {u : Tree}, t.at? place = some u → Clear place pass →
    2 * u.height ≤ depth + 1 →
    ∀ a ∈ begun (visit t.graph options depth) depth (chainLinks (t.graph place)) (recorded place pass),
      EndAlike related (outcome (visit t.graph options depth a.node a.guard a.pass))
        (t.linkMarkup options place (a.node, a.guard))

/-- One more level of visits ends as the tree says if the level below does. -/
theorem succ (hrespected : Respected related) (hnested : Answers related t options depth)
    (hentries : Entries related t options depth) : Answers related t options (depth + 1) := by
  intro place guard pass u hready hat
  rcases hready.cases hat options with ⟨hopens, hclear, hdepth⟩ | ⟨hvisit, htree⟩ | ⟨hvisit, htree⟩
  · rw [if_neg hopens.2.2, visit_succ, move, if_pos hopens, outcome_run_descend]
    obtain ⟨hchain, hdone, -⟩ := hopens
    rw [isEmpty_chain_graph hat] at hchain
    rw [label_graph hat] at hdone
    rw [markup_of_chain hchain hdone, ← mapM_linkMarkup_chain hat]
    exact (alike_visitAll depth (hentries hat hclear hdepth)).bind fun pieces others =>
      hrespected.chain
  · rw [hvisit, htree]
    exact hnested.alike_own hrespected hready hat
  · rw [hvisit, htree]
    exact .ok (hrespected.refl _)

end Answers

/-- **A ready visit gives what the tree gives.** -/
theorem answers_of_leadsOnce (honce : t.LeadsOnce) (depth : Nat) : Answers Eq t options depth := by
  induction depth with
  | zero => exact Answers.zero
  | succ depth ih =>
      refine ih.succ respected_eq fun hat hclear hdepth a ha => ?_
      exact ih.alike_link ha (ready_of_mem_begun_chain hat honce hclear hdepth ha)

theorem outcome_of_ready (honce : t.LeadsOnce) {guard : Option Guard}
    (hready : Ready t ⟨depth, place, guard, pass⟩) (hat : t.at? place = some u) (options : Options) :
    outcome (visit t.graph options depth place guard pass) =
      if place ∈ pass.expanded then u.own options guard else u.markup options guard :=
  (answers_of_leadsOnce honce depth hready hat).eq

/-! ### Whole documents -/

theorem ready_root (hdepth : 2 * t.height ≤ depth) (hfresh : pass.expanded = []) :
    Ready t ⟨depth, [], none, pass⟩ := by
  refine .fresh t rfl ?_ hdepth
  intro other hother
  rw [hfresh] at hother
  exact absurd hother List.not_mem_nil

/-- A visit to the root in a new pass gives the markup of the tree. -/
theorem outcome_visit_root (honce : t.LeadsOnce) (hdepth : 2 * t.height ≤ depth)
    (hfresh : pass.expanded = []) (options : Options) :
    outcome (visit t.graph options depth [] none pass) = t.markup options none := by
  rw [outcome_of_ready honce (ready_root hdepth hfresh) rfl, hfresh, if_neg List.not_mem_nil]

theorem outcome_document (honce : t.LeadsOnce) (hdepth : 2 * t.height ≤ depth)
    (hfresh : pass.expanded = []) (options : Options) :
    outcome (Generation.document t.graph options depth [] pass) = t.document options := by
  rw [Generation.document, bind_apply, document, ← outcome_visit_root honce hdepth hfresh options]
  cases visit t.graph options depth [] none pass <;> rfl

/-- A document that was generated, however deep visits were allowed to nest, is that of the tree. -/
theorem document_of_generate (honce : t.LeadsOnce)
    (hsuccess : (generate t.graph options depth []).failed = false) :
    t.document options = .ok (generate t.graph options depth []).document := by
  obtain ⟨inner, last, hvisit, hdocument⟩ := visit_of_generate hsuccess
  have hdeep := visit_eq_ok_of_le (Nat.le_add_right depth (2 * t.height)) hvisit
  have hmarkup := outcome_visit_root honce (Nat.le_add_left (2 * t.height) depth)
    (rfl : ({ log := [.generating options.name] } : Pass Place).expanded = []) options
  rw [hdeep] at hmarkup
  rw [hdocument, document, ← hmarkup]
  rfl

/-- A visit outside of a chain gives what the subtree at its place gives in a pass of its own. -/
theorem outcome_of_mem_trace (honce : t.LeadsOnce) (hdepth : 2 * t.height ≤ depth)
    (hfresh : pass.expanded = []) (hmem : a ∈ trace t.graph options depth [] none pass)
    (hguard : a.guard = none) :
    ∃ u, t.at? a.node = some u
      ∧ outcome (visit t.graph options a.depth a.node none a.pass) = u.markup options none := by
  have hready := ready_of_mem_trace honce (ready_root hdepth hfresh) a hmem
  cases hready with
  | fresh u hat hclear hheight =>
      have houtcome : outcome (visit t.graph options a.depth a.node a.guard a.pass) = _ :=
        outcome_of_ready honce (.fresh u hat hclear hheight) hat options
      rw [if_neg hclear.not_mem, hguard] at houtcome
      exact ⟨u, hat, houtcome⟩
  | lead u hat hheld hsome =>
      rw [hguard] at hsome
      exact nomatch hsome

/-- **A pass over a loaded tree gives what rendering without a pass gives.** If no chain has two
entries that stand for its lead, then the document, or the failure in its place, is that of the tree,
provided that visits may nest twice as deep as the document does. In a pass that succeeds, every node
that is visited as a child, and so without a guard, gives the markup that it gives as the root of a
document of its own. -/
theorem pass_refines_rendering {limit depth : Nat} {data : Value} {log rest : Log} {t : Tree}
    (hload : Load.tree limit data log = .ok t rest) (honce : t.LeadsOnce)
    (hdepth : 2 * limit ≤ depth) (options : Options) :
    (∀ pass : Pass Place, pass.expanded = [] →
      outcome (Generation.document t.graph options depth [] pass) = t.document options)
    ∧ (match t.document options with
      | .ok document =>
        (generate t.graph options depth []).document = document
          ∧ (generate t.graph options depth []).failed = false
      | .error failure =>
        (generate t.graph options depth []).document = failure.report.document options.name
          ∧ (generate t.graph options depth []).failed = true)
    ∧ ∀ (pass last : Pass Place) (value : Value), pass.expanded = [] →
      visit t.graph options depth [] none pass = .ok value last →
      ∀ a ∈ trace t.graph options depth [] none pass, a.guard = none →
        ∃ u own after, t.at? a.node = some u
          ∧ visit t.graph options a.depth a.node none a.pass = .ok own after
          ∧ ∀ fresh : Pass Place, fresh.expanded = [] →
            outcome (visit u.graph options depth [] none fresh) = .ok own := by
  have hheight : 2 * t.height ≤ depth := by
    have hle : t.height ≤ limit := Load.height_le_of_node hload
    omega
  refine ⟨fun pass hfresh => outcome_document honce hheight hfresh options, ?_, ?_⟩
  · have hdocument : outcome (Generation.document t.graph options depth []
        { log := [.generating options.name] }) = t.document options :=
      outcome_document honce hheight rfl options
    rw [← hdocument, generate]
    cases hrun : Generation.document t.graph options depth []
        { log := [.generating options.name] } with
    | ok document pass =>
        simp only [EStateM.run, hrun, outcome]
        trivial
    | error failure pass =>
        simp only [EStateM.run, hrun, outcome]
        trivial
  · intro pass last value hfresh hvisit a hmem hguard
    obtain ⟨u, hat, houtcome⟩ := outcome_of_mem_trace honce hheight hfresh hmem hguard
    obtain ⟨own, after, hown⟩ := succeeds_of_mem_trace hvisit hmem
    rw [hguard] at hown
    refine ⟨u, own, after, hat, hown, ?_⟩
    intro fresh hfresh'
    have hlower : 2 * u.height ≤ depth := by
      have hle := height_le_of_at? hat
      omega
    rw [outcome_visit_root (Everywhere.of_at? honce hat) hlower hfresh', ← houtcome, hown]
    rfl

/-- A lead with a child that leads a chain itself, and a block that does so too. -/
def branching : Value :=
  .object
    [("tag", .str "p"), ("_hid", .int 4),
      ("ifConditions", .list
        [.object [("exp", .str "a")],
          .object [("block", .object
            [("tag", .str "i"), ("_hid", .int 5), ("ifConditions", .list [.object []])])]]),
      ("children", .list
        [.object [("tag", .str "b"), ("_hid", .int 6), ("ifConditions", .list [.object []])],
          .object [("type", .int 3), ("text", .str "one")]])]

def branchingTree : Tree :=
  .node { tag := .str "p", handle := .int 4 }
    [.node { tag := .str "b", handle := .int 6 } [] [⟨.ifTrue, .null, none⟩],
      .node { kind := .text, text := .str "one", static := true } [] []]
    [⟨.ifTrue, .str "a", none⟩,
      ⟨.otherwise, .null,
        some (.node { tag := .str "i", handle := .int 5 } [] [⟨.ifTrue, .null, none⟩])⟩]

def branchingDocument : String :=
  "<template name=\"defaultName\"><view wx:if=\"\x7b\x7b _h[ 4 ]._if \x7d\x7d\" class=\"_p\">"
    ++ "<label wx:if=\"\x7b\x7b _h[ 6 ]._if \x7d\x7d\" class=\"_b\"></label>one</view>"
    ++ "<label wx:if=\"\x7b\x7b _h[ 5 ]._if \x7d\x7d\" class=\"_i\"></label></template>"

theorem leadsOnce_branchingTree : branchingTree.LeadsOnce := by
  have hsingle : ∀ label : Label, (Tree.node label [] [⟨.ifTrue, .null, none⟩]).LeadsOnce := by
    intro label
    refine everywhere_node_iff.mpr ⟨Nat.le_refl 1, nofun, ?_⟩
    intro branch hmem block hblock
    rw [List.mem_singleton.mp hmem] at hblock
    exact nomatch hblock
  refine everywhere_node_iff.mpr ⟨by decide, ?_, ?_⟩
  · intro child hmem
    rcases List.mem_cons.mp hmem with rfl | hmem
    · exact hsingle _
    · rw [List.mem_singleton.mp hmem]
      exact everywhere_node_iff.mpr ⟨by decide, nofun, nofun⟩
  · intro branch hmem block hblock
    rcases List.mem_cons.mp hmem with rfl | hmem
    · exact nomatch hblock
    · rw [List.mem_singleton.mp hmem] at hblock
      cases hblock
      exact hsingle _

theorem pass_refines_rendering_branching :
    Load.tree 2 branching [] = .ok branchingTree [] ∧ branchingTree.LeadsOnce ∧ 2 * 2 ≤ 4
      ∧ (generate branchingTree.graph {} 4 []).document = branchingDocument
      ∧ (generate branchingTree.graph {} 4 []).failed = false := by
  have hload : Load.tree 2 branching [] = .ok branchingTree [] := by rfl
  have hrefines := pass_refines_rendering hload leadsOnce_branchingTree (Nat.le_refl 4) {}
  refine ⟨hload, leadsOnce_branchingTree, Nat.le_refl 4, ?_⟩
  have hdocument : branchingTree.document {} = .ok branchingDocument := by rfl
  rw [hdocument] at hrefines
  exact hrefines.2.1

end Tree

end MiniTemplate

import Mathlib.Data.Fintype.Card
import Mathlib.Data.List.MinMax
import Mathlib.Logic.Relation
import Mathlib.Order.Nat
import MiniTemplate.Proofs.Expansion
/-!
# How deep visits nest

Links may run in circles, so no measure of the graph alone bounds the visits that are under way at
once. What bounds them is that a circle has to go through a chain. A chain is expanded once in a pass,
and between two expansions a visit only goes down from a block through nodes that lead no chain, of
which there is no circle by assumption.

The measure of a visit counts the chains that are still to be expanded, each at the most that can nest
until the next expansion, and on top of them how far the node is from the end of its descent. It goes
down with every nested visit (`measure_lt_of_mem_nested`). So the limit on the depth is not reached,
and any limit that is high enough gives the same result.
-/

namespace MiniTemplate

open Relation

/-! ### Markup never complains about depth -/

/-- A step that does not fail because of the depth. -/
def Shallow {α : Type} (x : Except Failure α) : Prop :=
  x ≠ .error .tooDeep

namespace Shallow

variable {α β : Type}

theorem ok (a : α) : Shallow (.ok a : Except Failure α) := nofun

theorem bind {x : Except Failure α} {f : α → Except Failure β} (hx : Shallow x)
    (hf : ∀ a, Shallow (f a)) : Shallow (x >>= f) := by
  cases x with
  | error failure => exact fun heq => hx (congrArg Except.error (Except.error.inj heq))
  | ok a => exact hf a

theorem mapM {f : α → Except Failure β} (hf : ∀ a, Shallow (f a)) (items : List α) :
    Shallow (items.mapM f) := by
  induction items with
  | nil => exact .ok []
  | cons a items ih =>
      rw [List.mapM_cons]
      exact .bind (hf a) fun b => .bind ih fun bs => .ok (b :: bs)

end Shallow

namespace Markup

theorem shallow_handleOf (label : Label) : Shallow (handleOf label) := by
  rw [handleOf]
  split <;> nofun

theorem shallow_lookupOf (label : Label) (field : String) : Shallow (lookupOf label field) :=
  .bind (shallow_handleOf label) fun handle => .ok (lookup handle field)

theorem shallow_boundPart (label : Label) (bound : Bool) (field : String) :
    Shallow (boundPart label bound field) := by
  rw [boundPart]
  split
  · exact .bind (shallow_lookupOf label field) fun text => .ok [text]
  · exact .ok []

theorem shallow_classAttribute (label : Label) : Shallow (classAttribute label) := by
  refine .bind ?_ fun static => .bind (shallow_boundPart label _ _) fun bound => .ok _
  rw [staticClasses]
  split <;> nofun

theorem shallow_styleAttribute (label : Label) : Shallow (styleAttribute label) := by
  refine .bind ?_ fun static => .bind (shallow_boundPart label _ _) fun bound => ?_
  · rw [staticStyles]
    split <;> nofun
  · split <;> nofun

theorem shallow_plainAttributes (label : Label) : Shallow (plainAttributes label) := by
  refine .bind (.mapM (fun attr => ?_) label.attributes) fun attributes => ?_
  · rw [attributeMarkup]
    split
    · exact .ok none
    · split
      · exact .bind (shallow_handleOf label) fun handle => .ok _
      · exact .ok _
  · split <;> nofun

theorem shallow_eventType (event : String) (tag : Value) : Shallow (eventType event tag) := by
  rw [eventType]
  split
  · refine .bind ?_ fun field => .ok _
    rw [isTextField.eq_def]
    split
    · exact .ok _
    · split <;> nofun
  · exact .ok _

theorem shallow_listenerAttributes (label : Label) : Shallow (listenerAttributes label) := by
  rw [listenerAttributes]
  split
  · exact .ok ""
  · refine .bind (.mapM (fun listener => ?_) _) fun attributes =>
      .bind (shallow_handleOf label) fun handle => .ok _
    exact .bind (shallow_eventType listener.event _) fun type => .ok _

theorem shallow_joinFrom (index : Nat) (pieces : List Value) : Shallow (joinFrom index pieces) := by
  induction pieces generalizing index with
  | nil => exact .ok ""
  | cons piece pieces ih =>
      cases piece with
      | str s => exact .bind (ih (index + 1)) fun rest => .ok (s ++ rest)
      | _ => nofun

theorem shallow_join (pieces : List Value) : Shallow (join pieces) :=
  shallow_joinFrom 0 pieces

theorem shallow_loopAttributes (label : Label) : Shallow (loopAttributes label) := by
  rw [loopAttributes]
  split
  · refine .bind (shallow_lookupOf label "li") fun items => .bind ?_ fun key => .ok _
    rw [loopKey]
    split <;> nofun
  · exact .ok ""

theorem shallow_guardAttribute (label : Label) (guard : Option Guard) :
    Shallow (guardAttribute label guard) := by
  rcases guard with _ | guard
  · exact .ok ""
  · cases guard with
    | ifTrue => exact .bind (shallow_lookupOf label "_if") fun test => .ok _
    | elseIf => exact .bind (shallow_lookupOf label "_if") fun test => .ok _
    | otherwise => exact .ok _

theorem shallow_resolveTag (options : Options) (tag : Value) : Shallow (resolveTag options tag) := by
  rw [resolveTag.eq_def]
  split
  · exact .ok _
  · split <;> nofun

theorem shallow_startTag (options : Options) (label : Label) (guard : Option Guard) :
    Shallow (startTag options label guard) := by
  rw [startTag]
  split
  · nofun
  · exact .bind (shallow_resolveTag options label.tag) fun tag =>
      .bind (shallow_loopAttributes label) fun loop =>
      .bind (shallow_guardAttribute label guard) fun guarded =>
      .bind (shallow_classAttribute label) fun classes =>
      .bind (shallow_styleAttribute label) fun style =>
      .bind (shallow_plainAttributes label) fun attributes =>
      .bind (shallow_listenerAttributes label) fun listeners =>
      .bind (shallow_join _) fun start => .ok _

theorem shallow_textOf (label : Label) : Shallow (textOf label) := by
  rw [textOf]
  split
  · exact .ok _
  · exact .bind (shallow_lookupOf label "t") fun text => .ok _

theorem shallow_importOf? (options : Options) (tag : Value) : Shallow (importOf? options tag) := by
  rw [importOf?.eq_def]
  split
  · exact .ok _
  · split <;> nofun

theorem shallow_componentOf (options : Options) (label : Label) :
    Shallow (componentOf options label) := by
  refine .bind (shallow_importOf? options label.tag) fun found => ?_
  split <;> nofun

end Markup

namespace Generation

variable {ι : Type} [Fintype ι]

/-! ### The measure of a visit -/

/-- The nodes that lead a chain. -/
def leads (graph : Graph ι) : Finset ι :=
  Finset.univ.filter fun i => (graph i).chain.isEmpty = false

/-- The nodes that lead no chain. -/
def plains (graph : Graph ι) : Finset ι :=
  Finset.univ.filter fun i => (graph i).chain.isEmpty = true

/-- A step from a node to one of its children, neither of which leads a chain. -/
def PlainChild (graph : Graph ι) (i j : ι) : Prop :=
  (graph i).chain = [] ∧ (graph j).chain = [] ∧ j ∈ (graph i).children

open Classical in
/-- The nodes below a node on paths that avoid chains. -/
noncomputable def plainsBelow (graph : Graph ι) (i : ι) : Finset ι :=
  (plains graph).filter fun j => TransGen (PlainChild graph) i j

/-- The leads whose chain may still be expanded. -/
def pending [DecidableEq ι] (graph : Graph ι) (pass : Pass ι) : Finset ι :=
  (leads graph).filter fun i => i ∉ pass.expanded

/-- At most so many visits nest from an expansion to the next one: the expansion itself, a lead that
it renders as its block, and the nodes without a chain below that. -/
def stride (graph : Graph ι) : Nat :=
  (plains graph).card + 2

/-- How many visits can nest from here to the end of the descent, if no chain is expanded. -/
noncomputable def reach (graph : Graph ι) (i : ι) (guard : Option Guard) : Nat :=
  if (graph i).chain.isEmpty then (plainsBelow graph i).card + 2
  else if guard.isSome then stride graph
  else 1

noncomputable def measure [DecidableEq ι] (graph : Graph ι) (i : ι) (guard : Option Guard)
    (pass : Pass ι) : Nat :=
  (pending graph pass).card * stride graph + reach graph i guard

theorem mem_plains {graph : Graph ι} {i : ι} : i ∈ plains graph ↔ (graph i).chain = [] := by
  simp only [plains, Finset.mem_filter, Finset.mem_univ, true_and, List.isEmpty_iff]

theorem mem_plainsBelow {graph : Graph ι} {i j : ι} :
    j ∈ plainsBelow graph i ↔ (graph j).chain = [] ∧ TransGen (PlainChild graph) i j := by
  classical
  rw [plainsBelow, Finset.mem_filter, mem_plains]

variable {graph : Graph ι}

theorem card_plainsBelow_lt_of_child (hacyclic : ∀ i, ¬ TransGen (PlainChild graph) i i) {i j : ι}
    (hchild : PlainChild graph i j) :
    (plainsBelow graph j).card < (plainsBelow graph i).card := by
  apply Finset.card_lt_card
  refine ⟨fun k hk => ?_, fun hsubset => ?_⟩
  · obtain ⟨hplain, hpath⟩ := mem_plainsBelow.mp hk
    exact mem_plainsBelow.mpr ⟨hplain, .head hchild hpath⟩
  · -- the child is below the node, but not below itself
    have hmem : j ∈ plainsBelow graph i := mem_plainsBelow.mpr ⟨hchild.2.1, .single hchild⟩
    exact hacyclic j (mem_plainsBelow.mp (hsubset hmem)).2

theorem card_plainsBelow_lt (hacyclic : ∀ i, ¬ TransGen (PlainChild graph) i i) {i : ι}
    (hplain : (graph i).chain = []) : (plainsBelow graph i).card < (plains graph).card := by
  apply Finset.card_lt_card
  refine ⟨fun j hj => mem_plains.mpr (mem_plainsBelow.mp hj).1, fun hsubset => ?_⟩
  exact hacyclic i (mem_plainsBelow.mp (hsubset (mem_plains.mpr hplain))).2

theorem reach_pos (graph : Graph ι) (i : ι) (guard : Option Guard) : 0 < reach graph i guard := by
  rw [reach, stride]
  split
  · omega
  · split <;> omega

theorem reach_le_stride (hacyclic : ∀ i, ¬ TransGen (PlainChild graph) i i) (i : ι)
    (guard : Option Guard) : reach graph i guard ≤ stride graph := by
  rw [reach, stride]
  split
  · rename_i hempty
    have hlt := card_plainsBelow_lt hacyclic (List.isEmpty_iff.mp hempty)
    omega
  · split <;> omega

/-- A child that is visited without a guard is nearer to the end of the descent than its parent. -/
theorem reach_child_lt (hacyclic : ∀ i, ¬ TransGen (PlainChild graph) i i) {i j : ι}
    {guard : Option Guard} (hown : ((graph i).chain.isEmpty || guard.isSome) = true)
    (hchild : j ∈ (graph i).children) : reach graph j none < reach graph i guard := by
  have hstride : stride graph = (plains graph).card + 2 := rfl
  cases hi : (graph i).chain.isEmpty with
  | true =>
      have hreach : reach graph i guard = (plainsBelow graph i).card + 2 := by rw [reach, hi]; rfl
      cases hj : (graph j).chain.isEmpty with
      | true =>
          have hplain : PlainChild graph i j :=
            ⟨List.isEmpty_iff.mp hi, List.isEmpty_iff.mp hj, hchild⟩
          have hlt := card_plainsBelow_lt_of_child hacyclic hplain
          have hreachj : reach graph j none = (plainsBelow graph j).card + 2 := by
            rw [reach, hj]
            rfl
          omega
      | false =>
          have hreachj : reach graph j none = 1 := by rw [reach, hj]; rfl
          omega
  | false =>
      rw [hi, Bool.false_or] at hown
      have hreach : reach graph i guard = stride graph := by rw [reach, hi, hown]; rfl
      cases hj : (graph j).chain.isEmpty with
      | true =>
          have hlt := card_plainsBelow_lt hacyclic (List.isEmpty_iff.mp hj)
          have hreachj : reach graph j none = (plainsBelow graph j).card + 2 := by
            rw [reach, hj]
            rfl
          omega
      | false =>
          have hreachj : reach graph j none = 1 := by rw [reach, hj]; rfl
          omega

variable [DecidableEq ι]

theorem card_pending_mono (graph : Graph ι) {pass last : Pass ι}
    (hsubset : pass.expanded ⊆ last.expanded) :
    (pending graph last).card ≤ (pending graph pass).card := by
  apply Finset.card_le_card
  intro i hi
  obtain ⟨hlead, hnew⟩ := Finset.mem_filter.mp hi
  exact Finset.mem_filter.mpr ⟨hlead, fun hold => hnew (hsubset hold)⟩

theorem card_pending_recorded {pass : Pass ι} {i : ι} (hopens : Opens graph pass i) :
    (pending graph (recorded i pass)).card < (pending graph pass).card := by
  apply Finset.card_lt_card
  refine ⟨fun j hj => ?_, fun hsubset => ?_⟩
  · obtain ⟨hlead, hnew⟩ := Finset.mem_filter.mp hj
    exact Finset.mem_filter.mpr ⟨hlead, fun hold => hnew (List.mem_cons_of_mem i hold)⟩
  · have hlead : i ∈ leads graph := Finset.mem_filter.mpr ⟨Finset.mem_univ i, hopens.1⟩
    have hmem := hsubset (Finset.mem_filter.mpr ⟨hlead, hopens.2.2⟩)
    exact (Finset.mem_filter.mp hmem).2 List.mem_cons_self

theorem measure_pos (graph : Graph ι) (i : ι) (guard : Option Guard) (pass : Pass ι) :
    0 < measure graph i guard pass :=
  Nat.add_pos_right _ (reach_pos graph i guard)

theorem measure_le (hacyclic : ∀ i, ¬ TransGen (PlainChild graph) i i) (i : ι)
    (guard : Option Guard) (pass : Pass ι) :
    measure graph i guard pass ≤ ((leads graph).card + 1) * ((plains graph).card + 2) := by
  have hpending : (pending graph pass).card ≤ (leads graph).card :=
    Finset.card_le_card (Finset.filter_subset _ _)
  calc measure graph i guard pass
      ≤ (pending graph pass).card * stride graph + stride graph :=
        Nat.add_le_add_left (reach_le_stride hacyclic i guard) _
    _ = ((pending graph pass).card + 1) * stride graph := (Nat.succ_mul _ _).symm
    _ ≤ ((leads graph).card + 1) * stride graph := Nat.mul_le_mul_right _ (by omega)

/-! ### Nested visits are smaller -/

theorem measure_lt_of_mem_nested (hacyclic : ∀ i, ¬ TransGen (PlainChild graph) i i)
    {options : Options} {depth : Nat} {i : ι} {guard : Option Guard} {pass : Pass ι}
    {a : Activation ι} (hmem : a ∈ nested graph options depth i guard pass) :
    measure graph a.node a.guard a.pass < measure graph i guard pass := by
  rcases nested_cases hmem with ⟨hopens, hmem⟩ | ⟨-, hown, start, hsame, hmem⟩
  · -- an expansion pays for the way to the next one
    have hsubset := expanded_subset_of_mem_begun hmem
    have hfewer := card_pending_recorded hopens
    have hpending := card_pending_mono graph hsubset
    have hreach := reach_le_stride hacyclic a.node a.guard
    have hpos := reach_pos graph i guard
    calc measure graph a.node a.guard a.pass
        ≤ (pending graph a.pass).card * stride graph + stride graph := Nat.add_le_add_left hreach _
      _ = ((pending graph a.pass).card + 1) * stride graph := (Nat.succ_mul _ _).symm
      _ ≤ (pending graph pass).card * stride graph := Nat.mul_le_mul_right _ (by omega)
      _ < measure graph i guard pass := by rw [measure]; omega
  · have hsubset := expanded_subset_of_mem_begun hmem
    obtain ⟨child, hchild, hpair⟩ := List.mem_map.mp (link_mem_of_mem_begun hmem)
    obtain ⟨hnode, hguard⟩ := Prod.mk.inj hpair
    rw [hsame] at hsubset
    have hpending := Nat.mul_le_mul_right (stride graph) (card_pending_mono graph hsubset)
    have hreach := reach_child_lt hacyclic hown hchild
    rw [hnode, hguard] at hreach
    rw [measure, measure]
    omega

/-! ### The limit is not reached -/

theorem nesting_le_measure (hacyclic : ∀ i, ¬ TransGen (PlainChild graph) i i) (options : Options)
    (depth : Nat) (i : ι) (guard : Option Guard) (pass : Pass ι) :
    nesting graph options depth i guard pass ≤ measure graph i guard pass := by
  induction depth generalizing i guard pass with
  | zero => exact Nat.zero_le _
  | succ depth ih =>
      have hpos := measure_pos graph i guard pass
      have hall : ∀ n ∈ (nested graph options depth i guard pass).map (fun a =>
          nesting graph options depth a.node a.guard a.pass), n ≤ measure graph i guard pass - 1 := by
        intro n hn
        obtain ⟨a, ha, rfl⟩ := List.mem_map.mp hn
        have hlt := measure_lt_of_mem_nested hacyclic ha
        have hle := ih a.node a.guard a.pass
        omega
      have hmax := List.max_le_of_forall_le _ _ hall
      rw [Nat.bot_eq_zero] at hmax
      rw [nesting]
      omega

/-- Two limits that are both high enough give the same. -/
theorem visit_eq_of_measure_le (hacyclic : ∀ i, ¬ TransGen (PlainChild graph) i i)
    (options : Options) {depth other : Nat} {i : ι} {guard : Option Guard} {pass : Pass ι}
    (hdepth : measure graph i guard pass ≤ depth) (hother : measure graph i guard pass ≤ other) :
    visit graph options depth i guard pass = visit graph options other i guard pass := by
  have hpos := measure_pos graph i guard pass
  induction depth generalizing other i guard pass with
  | zero => omega
  | succ depth ih =>
      obtain ⟨other, rfl⟩ := Nat.exists_eq_succ_of_ne_zero (show other ≠ 0 by omega)
      rw [visit_succ, visit_succ]
      refine Move.run_congr depth fun a ha => ?_
      have hlt := measure_lt_of_mem_nested hacyclic ha
      exact ih (by omega) (by omega) (measure_pos graph a.node a.guard a.pass)

omit [Fintype ι] [DecidableEq ι] in
/-- A list of visits that fails has a visit that fails in the same way. -/
theorem exists_of_visitAll_eq_error {visit : Visit ι} (depth : Nat) {links : List (Link ι)}
    {pass last : Pass ι} {failure : Failure}
    (hrun : visitAll visit links pass = .error failure last) :
    ∃ a ∈ begun visit depth links pass, visit a.node a.guard a.pass = .error failure last := by
  induction links generalizing pass with
  | nil => exact nomatch hrun
  | cons link links ih =>
      cases hvisit : visit link.1 link.2 pass with
      | error first mid =>
          rw [visitAll_cons_of_error hvisit] at hrun
          obtain ⟨rfl, rfl⟩ := EStateM.Result.error.inj hrun
          exact ⟨⟨depth, link.1, link.2, pass⟩, List.mem_cons_self, hvisit⟩
      | ok value mid =>
          rw [visitAll_cons_of_ok hvisit] at hrun
          cases hrest : visitAll visit links mid with
          | ok values final =>
              rw [hrest] at hrun
              exact nomatch hrun
          | error second final =>
              rw [hrest] at hrun
              obtain ⟨rfl, rfl⟩ := EStateM.Result.error.inj hrun
              obtain ⟨a, ha, herror⟩ := ih hrest
              refine ⟨a, ?_, herror⟩
              rw [begun, hvisit]
              exact List.mem_cons_of_mem _ ha

omit [Fintype ι] [DecidableEq ι] in
theorem shallow_outcome_ofExcept {α : Type} {x : Except Failure α} (hx : Shallow x)
    (pass : Pass ι) : Shallow (outcome (ofExcept x pass)) := by
  cases x with
  | error failure => exact hx
  | ok a => exact .ok a

omit [Fintype ι] [DecidableEq ι] in
theorem shallow_isComponent (options : Options) (label : Label) (pass : Pass ι) :
    Shallow (outcome (isComponent options label pass)) := by
  have himport := Markup.shallow_importOf? options label.tag
  rw [isComponent]
  split
  · exact .ok false
  · rw [bind_apply]
    cases hfound : Markup.importOf? options label.tag with
    | error failure =>
        rw [hfound] at himport
        exact fun heq => himport (congrArg Except.error (Except.error.inj heq))
    | ok found => cases found <;> exact .ok _

/-- A move that does not end because of the depth, whatever the nested visits give. -/
def Move.Shallow : Move ι → Prop
  | .halt result => MiniTemplate.Shallow (outcome result)
  | .descend _ _ finish => ∀ pieces, MiniTemplate.Shallow (finish pieces)

omit [Fintype ι] [DecidableEq ι] in
/-- Whatever a node does when it is rendered itself, it does not complain about the depth. -/
theorem shallow_ownMove (options : Options) (node : Node ι) (guard : Option Guard) (pass : Pass ι) :
    (ownMove options node guard pass).Shallow := by
  have hcomponent := shallow_isComponent options node.label pass
  rw [ownMove]
  cases hrun : isComponent options node.label pass with
  | error failure last =>
      rw [hrun] at hcomponent
      exact fun heq => hcomponent (congrArg Except.error (Except.error.inj heq))
  | ok component last =>
      cases component with
      | true =>
          refine shallow_outcome_ofExcept ?_ last
          rw [map_eq_pure_bind]
          exact .bind (Markup.shallow_componentOf options node.label) fun text => .ok _
      | false =>
          cases node.label.kind with
          | text => exact shallow_outcome_ofExcept (Markup.shallow_textOf node.label) last
          | element =>
              have hstart := Markup.shallow_startTag options node.label guard
              cases hwritten : Markup.startTag options node.label guard with
              | error failure =>
                  rw [hwritten] at hstart
                  exact fun heq => hstart (congrArg Except.error (Except.error.inj heq))
              | ok written =>
                  exact fun pieces => .bind (Markup.shallow_join pieces) fun inner => .ok _

omit [Fintype ι] in
theorem shallow_move (graph : Graph ι) (options : Options) (i : ι) (guard : Option Guard)
    (pass : Pass ι) :
    (move graph options i guard pass).Shallow := by
  rw [move]
  split
  · exact fun pieces => .bind (Markup.shallow_join _) fun inner => .ok _
  · split
    · exact shallow_ownMove options (graph i) guard pass
    · exact .ok _

theorem shallow_visit (hacyclic : ∀ i, ¬ TransGen (PlainChild graph) i i) (options : Options)
    {depth : Nat} {i : ι} {guard : Option Guard} {pass : Pass ι}
    (hdepth : measure graph i guard pass ≤ depth) :
    Shallow (outcome (visit graph options depth i guard pass)) := by
  induction depth generalizing i guard pass with
  | zero =>
      have hpos := measure_pos graph i guard pass
      omega
  | succ depth ih =>
      have hmove := shallow_move graph options i guard pass
      have hnested : ∀ a ∈ nested graph options depth i guard pass,
          Shallow (outcome (visit graph options depth a.node a.guard a.pass)) := by
        intro a ha
        have hlt := measure_lt_of_mem_nested hacyclic ha
        exact ih (by omega)
      rw [nested] at hnested
      rw [visit_succ]
      cases hm : move graph options i guard pass with
      | halt result =>
          rw [hm] at hmove
          exact hmove
      | descend links start finish =>
          rw [hm] at hmove hnested
          rw [Move.run]
          cases hrun : visitAll (visit graph options depth) links start with
          | ok pieces last => exact shallow_outcome_ofExcept (hmove pieces) last
          | error failure last =>
              obtain ⟨a, ha, herror⟩ := exists_of_visitAll_eq_error depth hrun
              have hshallow := hnested a ha
              rw [herror] at hshallow
              exact hshallow

/-- **Visits end on every graph whose circles go through chains.** With `C` nodes that lead a chain and
`M` that lead none, of which no path of children runs in a circle, at most `(C + 1) * (M + 2)` visits
are under way at once, whatever the limit. So every limit from there on gives the same result, and it
is not that the nodes nest too deep. -/
theorem visits_nest_boundedly (graph : Graph ι) (hacyclic : ∀ i, ¬ TransGen (PlainChild graph) i i)
    (options : Options) (i : ι) (guard : Option Guard) (pass : Pass ι) :
    (∀ depth, nesting graph options depth i guard pass
        ≤ ((leads graph).card + 1) * ((plains graph).card + 2))
      ∧ ∀ depth, ((leads graph).card + 1) * ((plains graph).card + 2) ≤ depth →
          visit graph options depth i guard pass =
              visit graph options (((leads graph).card + 1) * ((plains graph).card + 2)) i guard pass
            ∧ ∀ last, visit graph options depth i guard pass ≠ .error .tooDeep last := by
  have hmeasure := measure_le hacyclic i guard pass
  refine ⟨fun depth => ?_, fun depth hdepth => ⟨?_, fun last heq => ?_⟩⟩
  · exact (nesting_le_measure hacyclic options depth i guard pass).trans hmeasure
  · exact visit_eq_of_measure_le hacyclic options (hmeasure.trans hdepth) hmeasure
  · have hshallow := shallow_visit hacyclic options (hmeasure.trans hdepth)
    rw [heq] at hshallow
    exact hshallow rfl

/-- A lead that is a block of its own chain, and beside it a paragraph that has the lead as its child
and is its child and the other block. -/
def circular : Graph Bool
  | false =>
    { label := { tag := .str "div", handle := .int 1 }
      children := [true]
      chain := [{ guard := .ifTrue, block := false }, { guard := .otherwise, block := true }] }
  | true => { label := { tag := .str "p" }, children := [false] }

theorem visits_nest_boundedly_circular :
    (∀ i, ¬ TransGen (PlainChild circular) i i)
      ∧ ((leads circular).card + 1) * ((plains circular).card + 2) = 6
      ∧ (∀ depth, nesting circular {} depth false none {} ≤ 6)
      ∧ ∀ depth, 6 ≤ depth → visit circular {} depth false none {} = visit circular {} 6 false none {}
          ∧ ∀ last, visit circular {} depth false none {} ≠ .error .tooDeep last := by
  have hnone : ∀ i j, ¬ PlainChild circular i j := by
    rintro (_ | _) j ⟨hi, hj, hchild⟩
    · exact nomatch hi
    · obtain rfl := List.mem_singleton.mp hchild
      exact nomatch hj
  have hacyclic : ∀ i, ¬ TransGen (PlainChild circular) i i := by
    intro i hpath
    obtain ⟨j, hstep, -⟩ := TransGen.head'_iff.mp hpath
    exact hnone i j hstep
  have hbound : ((leads circular).card + 1) * ((plains circular).card + 2) = 6 := by decide
  have hnest := visits_nest_boundedly circular hacyclic {} false none {}
  rw [hbound] at hnest
  exact ⟨hacyclic, hbound, hnest⟩

end Generation

end MiniTemplate

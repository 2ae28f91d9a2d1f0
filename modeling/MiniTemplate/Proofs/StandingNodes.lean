import Mathlib.Data.List.Induction
import Mathlib.Data.Set.Function
import MiniTemplate.Proofs.LoadingStep
/-!
# Where loaded nodes stand

Each position of a document that is loaded has a place in the tree, and what stands there is what the
data at the position comes to alone (`at?_standing`). Different positions have different places, and
every node of the tree stands at the place of a position (`bijOn_standing`). The links of the node are
those of the data: its children are the children that are not left out, in their order, and an entry of
its chain leads to its block, or to the node itself if it has none (`Stands`).
-/

namespace MiniTemplate

/-! ### Children that are left out do not count -/

theorem countP_take_succ {α : Type} (p : α → Bool) {l : List α} {i : Nat} {a : α}
    (ha : l[i]? = some a) :
    (l.take (i + 1)).countP p = (l.take i).countP p + if p a then 1 else 0 := by
  rw [List.take_add_one, ha, List.countP_append, Option.toList_some, List.countP_singleton]

theorem countP_take_lt {α : Type} (p : α → Bool) {l : List α} {i j : Nat} {a : α}
    (ha : l[i]? = some a) (hp : p a = true) (hlt : i < j) :
    (l.take i).countP p < (l.take j).countP p := by
  have hsucc := countP_take_succ p ha
  rw [if_pos hp] at hsucc
  have hsub : (l.take (i + 1)).Sublist (l.take j) := List.take_sublist_take_left hlt
  have hle := hsub.countP_le (p := p)
  omega

/-- The items that count are numbered without gaps. -/
theorem map_countP_take_zipIdx {α : Type} (p : α → Bool) (l : List α) :
    (l.zipIdx.filter fun x => p x.1).map (fun x => (l.take x.2).countP p) =
      List.range (l.countP p) := by
  induction l using List.reverseRecOn with
  | nil => rfl
  | append_singleton l a ih =>
      have hearlier : ∀ x ∈ l.zipIdx.filter fun x => p x.1,
          ((l ++ [a]).take x.2).countP p = (l.take x.2).countP p := by
        intro x hx
        have hlt := List.snd_lt_of_mem_zipIdx (List.mem_of_mem_filter hx)
        rw [List.take_append_of_le_length (by omega)]
      rw [List.zipIdx_append, List.filter_append, List.map_append, List.map_congr_left hearlier, ih,
        List.countP_append, List.countP_singleton]
      cases hp : p a with
      | false => simp [hp]
      | true => simp [hp, List.range_succ]

namespace Load

variable {depth : Nat}

theorem ChildrenRead.getElem?_of_node {index : Nat} {items : List Value} {children : List Tree}
    {log : Log} (hread : ChildrenRead depth index items children log) {k : Nat} {w : Value}
    (hw : items[k]? = some w) (hnode : isBranch w = false) :
    ∃ u own, children[(items.take k).countP fun w => !isBranch w]? = some u
      ∧ tree depth w [] = .ok u own := by
  induction hread generalizing k with
  | nil => exact nomatch hw
  | branch hbranch _ ih =>
      cases k with
      | zero =>
          cases hw
          rw [hbranch] at hnode
          exact nomatch hnode
      | succ k =>
          rw [List.take_succ_cons, List.countP_cons_of_neg (by simp [hbranch])]
          exact ih hw
  | node hfirst hchild _ ih =>
      cases k with
      | zero =>
          cases hw
          exact ⟨_, _, rfl, hchild⟩
      | succ k =>
          rw [List.take_succ_cons, List.countP_cons_of_pos (by simp [hfirst])]
          exact ih hw

theorem ChildrenRead.length_children {index : Nat} {items : List Value} {children : List Tree}
    {log : Log} (hread : ChildrenRead depth index items children log) :
    children.length = items.countP fun w => !isBranch w := by
  induction hread with
  | nil => rfl
  | branch hbranch _ ih => rw [List.countP_cons_of_neg (by simp [hbranch]), ih]
  | node hnode _ _ ih => rw [List.countP_cons_of_pos (by simp [hnode]), List.length_cons, ih]

theorem ChainRead.getElem?_of_block {index : Nat} {items : List Value}
    {chain : List (Branch Tree)} {log : Log} (hread : ChainRead depth index items chain log)
    {k : Nat} {w : Value} (hw : items[k]?.bind Value.block? = some w) :
    ∃ u own, chain[k]?.bind Branch.block = some u ∧ tree depth w [] = .ok u own := by
  induction hread generalizing k with
  | nil => exact nomatch hw
  | lead hblock _ ih =>
      cases k with
      | zero => cases hblock.symm.trans hw
      | succ k => exact ih hw
  | block hblock hdata _ ih =>
      cases k with
      | zero =>
          cases hblock.symm.trans hw
          exact ⟨_, _, rfl, hdata⟩
      | succ k => exact ih hw

/-- An entry has a block in the tree exactly if it has one in the data. -/
theorem ChainRead.map_isSome {index : Nat} {items : List Value} {chain : List (Branch Tree)} {log : Log}
    (hread : ChainRead depth index items chain log) :
    chain.map (fun branch => branch.block.isSome) = items.map fun item => item.block?.isSome := by
  induction hread with
  | nil => rfl
  | lead hblock _ ih =>
      rw [List.map_cons, List.map_cons, hblock, ih]
      rfl
  | block hblock _ _ ih =>
      rw [List.map_cons, List.map_cons, hblock, ih]
      rfl

/-! ### Steps -/

section Steps

variable {data : Value} {t : Tree} {log : Log}

theorem NodeRead.step? (hread : NodeRead depth data t log) {s : Step} {w : Value}
    (hfollow : data.follow? s = some w) :
    ∃ u own, t.step? (data.standingStep s) = some u ∧ tree depth w [] = .ok u own := by
  obtain ⟨first, second, hchildren, hchain, -⟩ := hread.parts
  cases s with
  | child k =>
      obtain ⟨hw, hnode⟩ := follow?_child_iff.mp hfollow
      exact hchildren.getElem?_of_node hw hnode
  | block k => exact hchain.getElem?_of_block (follow?_block_iff.mp hfollow)

theorem NodeRead.exists_follow? (hread : NodeRead depth data t log) {s : Step} {u : Tree}
    (hstep : t.step? s = some u) : ∃ s' w, data.follow? s' = some w ∧ data.standingStep s' = s := by
  obtain ⟨first, second, hchildren, hchain, -⟩ := hread.parts
  cases s with
  | child m =>
      -- the number of a child in the tree is that of an item which counts
      have hlt : m < t.children.length := (List.getElem?_eq_some_iff.mp hstep).1
      rw [hchildren.length_children, ← List.mem_range, ← map_countP_take_zipIdx, List.mem_map] at hlt
      obtain ⟨⟨w, k⟩, hmem, hcount⟩ := hlt
      obtain ⟨hzip, hnode⟩ := List.mem_filter.mp hmem
      have hw : (data.items "children")[k]? = some w := List.mem_zipIdx_iff_getElem?.mp hzip
      refine ⟨.child k, w, follow?_child_iff.mpr ⟨hw, by simpa using hnode⟩, ?_⟩
      rw [Value.standingStep, hcount]
  | block k =>
      have hsome : (t.chain.map fun branch => branch.block.isSome)[k]? = some true := by
        obtain ⟨branch, hbranch, hblock⟩ := Option.bind_eq_some_iff.mp hstep
        rw [List.getElem?_map, hbranch, Option.map_some, hblock]
        rfl
      rw [hchain.map_isSome, List.getElem?_map, Option.map_eq_some_iff] at hsome
      obtain ⟨item, hitem, hblock⟩ := hsome
      obtain ⟨w, hw⟩ := Option.isSome_iff_exists.mp hblock
      refine ⟨.block k, w, follow?_block_iff.mpr ?_, rfl⟩
      rw [hitem]
      exact hw

end Steps

end Load

namespace Value

/-- Different steps that are loaded become different steps of the tree. -/
theorem eq_of_standingStep {v first second : Value} {s s' : Step} (hfirst : v.follow? s = some first)
    (hsecond : v.follow? s' = some second) (hsame : v.standingStep s = v.standingStep s') :
    s = s' := by
  cases s with
  | child i =>
      cases s' with
      | child j =>
          obtain ⟨hi, hinode⟩ := Load.follow?_child_iff.mp hfirst
          obtain ⟨hj, hjnode⟩ := Load.follow?_child_iff.mp hsecond
          have hcount := Step.child.inj hsame
          rcases Nat.lt_trichotomy i j with hlt | rfl | hlt
          · have hless := countP_take_lt (fun w => !Load.isBranch w) hi (by simp [hinode]) hlt
            omega
          · rfl
          · have hless := countP_take_lt (fun w => !Load.isBranch w) hj (by simp [hjnode]) hlt
            omega
      | block j => exact nomatch hsame
  | block i =>
      cases s' with
      | child j => exact nomatch hsame
      | block j => exact hsame

theorem injOn_standing (v : Value) :
    Set.InjOn v.standing {place | (v.loadedAt? place).isSome = true} := by
  intro place hplace other hother hsame
  obtain ⟨first, hfirst⟩ := Option.isSome_iff_exists.mp hplace
  obtain ⟨second, hsecond⟩ := Option.isSome_iff_exists.mp hother
  clear hplace hother
  induction place generalizing v other with
  | nil =>
      cases other with
      | nil => rfl
      | cons s other => exact nomatch hsame
  | cons s place ih =>
      obtain ⟨w, hw, hfirst⟩ := loadedAt?_cons_eq_some_iff.mp hfirst
      rw [standing_cons hw] at hsame
      cases other with
      | nil => exact nomatch hsame
      | cons s' other =>
          obtain ⟨w', hw', hsecond⟩ := loadedAt?_cons_eq_some_iff.mp hsecond
          rw [standing_cons hw'] at hsame
          obtain ⟨hstep, hrest⟩ := List.cons.inj hsame
          cases eq_of_standingStep hw hw' hstep
          cases hw.symm.trans hw'
          rw [ih w hrest hfirst hsecond]

end Value

namespace Load

/-! ### Places -/

section Standing

variable {depth : Nat} {data : Value} {t : Tree} {log : Log}

/-- **At the place of a position stands what the data there comes to alone.** -/
theorem at?_standing (hrun : tree depth data [] = .ok t log) {place : Place} {v : Value}
    (hat : data.loadedAt? place = some v) :
    ∃ u own, t.at? (data.standing place) = some u ∧ tree depth v [] = .ok u own := by
  induction place generalizing depth data t log with
  | nil =>
      cases hat
      exact ⟨t, log, rfl, hrun⟩
  | cons s place ih =>
      obtain ⟨w, hw, hat⟩ := Value.loadedAt?_cons_eq_some_iff.mp hat
      cases depth with
      | zero => exact nomatch hrun
      | succ depth =>
          obtain ⟨next, own, hstep, hnext⟩ := (nodeRead_of_tree hrun).step? hw
          obtain ⟨u, inner, hu, halone⟩ := ih hnext hat
          obtain ⟨outer, houter, -⟩ := tree_of_node (Nat.le_succ depth) halone
          refine ⟨u, outer, ?_, houter⟩
          rw [Value.standing_cons hw, Tree.at?, hstep]
          exact hu

theorem exists_standing (hrun : tree depth data [] = .ok t log) {place : Place} {u : Tree}
    (hat : t.at? place = some u) :
    ∃ position v, data.loadedAt? position = some v ∧ data.standing position = place := by
  induction place generalizing depth data t log with
  | nil => exact ⟨[], data, rfl, rfl⟩
  | cons s place ih =>
      obtain ⟨next, hstep, hat⟩ := Option.bind_eq_some_iff.mp hat
      cases depth with
      | zero => exact nomatch hrun
      | succ depth =>
          have hread := nodeRead_of_tree hrun
          obtain ⟨s', w, hw, hstanding⟩ := hread.exists_follow? hstep
          obtain ⟨found, own, hfound, hnext⟩ := hread.step? hw
          rw [hstanding] at hfound
          cases hfound.symm.trans hstep
          obtain ⟨position, v, hposition, hplace⟩ := ih hnext hat
          refine ⟨s' :: position, v, Value.loadedAt?_cons_eq_some_iff.mpr ⟨w, hw, hposition⟩, ?_⟩
          rw [Value.standing_cons hw, hstanding, hplace]

/-- **Positions that are loaded and nodes of the tree correspond to each other.** -/
theorem bijOn_standing (hrun : tree depth data [] = .ok t log) :
    Set.BijOn data.standing {place | (data.loadedAt? place).isSome = true}
      {place | (t.at? place).isSome = true} := by
  refine ⟨?_, data.injOn_standing, ?_⟩
  · intro place hplace
    obtain ⟨v, hv⟩ := Option.isSome_iff_exists.mp hplace
    obtain ⟨u, own, hu, -⟩ := at?_standing hrun hv
    exact Option.isSome_iff_exists.mpr ⟨u, hu⟩
  · intro place hplace
    obtain ⟨u, hu⟩ := Option.isSome_iff_exists.mp hplace
    obtain ⟨position, v, hv, hposition⟩ := exists_standing hrun hu
    exact ⟨position, Option.isSome_iff_exists.mpr ⟨v, hv⟩, hposition⟩

end Standing

end Load

namespace Tree

theorem children_nodeAt (place : Place) (u : Tree) :
    (nodeAt place u).children = (List.range u.children.length).map fun k => place ++ [.child k] := by
  apply List.ext_getElem?
  intro k
  simp only [nodeAt, List.getElem?_mapIdx, List.getElem?_map]
  by_cases hk : k < u.children.length
  · simp [hk]
  · simp [hk]

theorem blocks_nodeAt (place : Place) (u : Tree) :
    (nodeAt place u).chain.map Condition.block =
      (u.chain.map fun branch => branch.block.isSome).mapIdx fun k own =>
        if own then place ++ [.block k] else place := by
  apply List.ext_getElem?
  intro k
  simp [nodeAt, conditionsAt, Function.comp_def]

end Tree

namespace Load

/-- The node at the place of a position has the label and the links of the data there. -/
structure Stands (data : Value) (t : Tree) (position : Place) (v : Value) : Prop where
  label : ∃ fields, v = .object fields
    ∧ Load.label [] fields = .ok (t.graph (data.standing position)).label
  children : (t.graph (data.standing position)).children =
    ((v.items "children").zipIdx.filter fun item => !isBranch item.1).map fun item =>
      data.standing (position ++ [.child item.2])
  blocks : (t.graph (data.standing position)).chain.map Condition.block =
    (v.items "ifConditions").mapIdx fun k entry =>
      if entry.block?.isSome then data.standing (position ++ [.block k]) else data.standing position

theorem stands_of_loadedAt? {depth : Nat} {data v : Value} {t : Tree} {log : Log} {position : Place}
    (hrun : tree depth data [] = .ok t log) (hat : data.loadedAt? position = some v) :
    Stands data t position v := by
  obtain ⟨u, own, hu, halone⟩ := at?_standing hrun hat
  cases depth with
  | zero => exact nomatch halone
  | succ depth =>
      have hread := nodeRead_of_tree halone
      obtain ⟨first, second, hchildren, hchain, -⟩ := hread.parts
      have hnode := Tree.graph_eq_nodeAt hu
      refine ⟨?_, ?_, ?_⟩
      · rw [hnode]
        exact hread.label
      · have hranks := map_countP_take_zipIdx (fun w => !isBranch w) (v.items "children")
        simp only [Value.standing_snoc hat, Value.standingStep]
        rw [hnode, Tree.children_nodeAt, hchildren.length_children, ← hranks, List.map_map]
        rfl
      · simp only [Value.standing_snoc hat, Value.standingStep]
        rw [hnode, Tree.blocks_nodeAt, hchain.map_isSome]
        apply List.ext_getElem?
        intro k
        simp [Function.comp_def]

end Load

end MiniTemplate

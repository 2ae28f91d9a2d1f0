import MiniTemplate.Proofs.Descent
/-!
# Trees as graphs

In the graph of a tree a node is known by its place, and all links but one kind lead further down: the
children of the node at a place stand one step below it, and so do the blocks of its chain. Only an
entry without a block leads back to the place itself. This module says what stands at a place, which
links leave it, and that the trees below it are lower.
-/

namespace MiniTemplate

open Generation

namespace Tree

/-! ### Places -/

theorem at?_append (t : Tree) (place rest : Place) :
    t.at? (place ++ rest) = (t.at? place).bind fun u => u.at? rest := by
  induction place generalizing t with
  | nil => rfl
  | cons step place ih =>
      rw [List.cons_append, at?, at?, Option.bind_assoc]
      cases t.step? step with
      | none => rfl
      | some u => exact ih u

theorem at?_snoc {t u : Tree} {place : Place} (hat : t.at? place = some u) (step : Step) :
    t.at? (place ++ [step]) = u.step? step := by
  rw [at?_append, hat]
  change (u.step? step).bind some = u.step? step
  exact Option.bind_fun_some _

theorem graph_eq_nodeAt {t u : Tree} {place : Place} (hat : t.at? place = some u) :
    t.graph place = nodeAt place u := by
  rw [graph, hat]

theorem graph_eq_empty {t : Tree} {place : Place} (hat : t.at? place = none) :
    t.graph place = {} := by
  rw [graph, hat]

/-- A property that holds of all subtrees. -/
def Everywhere (holds : Tree → Prop) (t : Tree) : Prop :=
  ∀ place u, t.at? place = some u → holds u

theorem Everywhere.of_at? {holds : Tree → Prop} {t u : Tree} {place : Place}
    (ht : t.Everywhere holds) (hat : t.at? place = some u) : u.Everywhere holds := by
  intro rest v hrest
  apply ht (place ++ rest) v
  rw [at?_append, hat]
  exact hrest

theorem everywhere_node_iff {holds : Tree → Prop} {label : Label} {children : List Tree}
    {chain : List (Branch Tree)} :
    (Tree.node label children chain).Everywhere holds ↔
      holds (.node label children chain) ∧ (∀ child ∈ children, child.Everywhere holds)
        ∧ ∀ branch ∈ chain, ∀ block, branch.block = some block → block.Everywhere holds := by
  constructor
  · intro ht
    refine ⟨ht [] _ rfl, ?_, ?_⟩
    · intro child hmem
      obtain ⟨i, hi⟩ := List.mem_iff_getElem?.mp hmem
      have hat : (Tree.node label children chain).at? [.child i] = some child :=
        Option.bind_eq_some_iff.mpr ⟨child, hi, rfl⟩
      exact ht.of_at? hat
    · intro branch hmem block hblock
      obtain ⟨i, hi⟩ := List.mem_iff_getElem?.mp hmem
      have hstep : (Tree.node label children chain).step? (.block i) = some block :=
        Option.bind_eq_some_iff.mpr ⟨branch, hi, hblock⟩
      have hat : (Tree.node label children chain).at? [.block i] = some block :=
        Option.bind_eq_some_iff.mpr ⟨block, hstep, rfl⟩
      exact ht.of_at? hat
  · rintro ⟨hroot, hchildren, hblocks⟩ place u hat
    cases place with
    | nil =>
        cases hat
        exact hroot
    | cons step place =>
        obtain ⟨v, hstep, hbelow⟩ := Option.bind_eq_some_iff.mp hat
        cases step with
        | child i => exact hchildren v (List.mem_of_getElem? hstep) place u hbelow
        | block i =>
            obtain ⟨branch, hbranch, hblock⟩ := Option.bind_eq_some_iff.mp hstep
            exact hblocks branch (List.mem_of_getElem? hbranch) v hblock place u hbelow

theorem everywhere_iff {holds : Tree → Prop} {t : Tree} :
    t.Everywhere holds ↔
      holds t ∧ (∀ child ∈ t.children, child.Everywhere holds)
        ∧ ∀ branch ∈ t.chain, ∀ block, branch.block = some block → block.Everywhere holds := by
  obtain ⟨label, children, chain⟩ := t
  exact everywhere_node_iff

theorem everywhere_leaf {holds : Tree → Prop} {label : Label} (hroot : holds (.node label [] [])) :
    (Tree.node label [] []).Everywhere holds :=
  everywhere_node_iff.mpr ⟨hroot, nofun, nofun⟩

/-! ### Links -/

/-- Where an entry of the chain at a place leads to. -/
def blockPlace (place : Place) (index : Nat) (branch : Branch Tree) : Place :=
  if branch.block.isSome then place ++ [.block index] else place

theorem childLinks_graph {t u : Tree} {place : Place} (hat : t.at? place = some u) :
    childLinks (t.graph place) = u.children.mapIdx fun i _ => (place ++ [.child i], none) := by
  rw [graph_eq_nodeAt hat]
  simp only [childLinks, nodeAt, List.mapIdx_eq_zipIdx_map, List.map_map, Function.comp_def]

theorem chainLinks_graph {t u : Tree} {place : Place} (hat : t.at? place = some u) :
    chainLinks (t.graph place) =
      u.chain.mapIdx fun i branch => (blockPlace place i branch, some branch.guard) := by
  rw [graph_eq_nodeAt hat]
  simp only [chainLinks, nodeAt, conditionsAt, blockPlace, List.mapIdx_eq_zipIdx_map, List.map_map,
    Function.comp_def]

theorem exists_of_mem_childLinks {t u : Tree} {place : Place} (hat : t.at? place = some u)
    {link : Link Place} (hmem : link ∈ childLinks (t.graph place)) :
    ∃ i child, u.children[i]? = some child ∧ link = (place ++ [.child i], none)
      ∧ t.at? (place ++ [.child i]) = some child := by
  rw [childLinks_graph hat, List.mem_mapIdx] at hmem
  obtain ⟨i, hi, rfl⟩ := hmem
  have hchild : u.children[i]? = some u.children[i] := List.getElem?_eq_getElem hi
  exact ⟨i, u.children[i], hchild, rfl, (at?_snoc hat (.child i)).trans hchild⟩

theorem exists_of_mem_chainLinks {t u : Tree} {place : Place} (hat : t.at? place = some u)
    {link : Link Place} (hmem : link ∈ chainLinks (t.graph place)) :
    ∃ i branch, u.chain[i]? = some branch ∧ link = (blockPlace place i branch, some branch.guard) := by
  rw [chainLinks_graph hat, List.mem_mapIdx] at hmem
  obtain ⟨i, hi, rfl⟩ := hmem
  exact ⟨i, u.chain[i], List.getElem?_eq_getElem hi, rfl⟩

theorem blockPlace_of_none (place : Place) (index : Nat) {branch : Branch Tree}
    (hblock : branch.block = none) : blockPlace place index branch = place := by
  rw [blockPlace, hblock]
  rfl

theorem blockPlace_of_some (place : Place) (index : Nat) {branch : Branch Tree} {block : Tree}
    (hblock : branch.block = some block) :
    blockPlace place index branch = place ++ [.block index] := by
  rw [blockPlace, hblock]
  rfl

theorem at?_block {t u block : Tree} {place : Place} (hat : t.at? place = some u) {i : Nat}
    {branch : Branch Tree} (hbranch : u.chain[i]? = some branch)
    (hblock : branch.block = some block) : t.at? (place ++ [.block i]) = some block := by
  rw [at?_snoc hat, step?, hbranch]
  exact hblock

/-- Links lead to a place or to one below it. -/
theorem prefix_of_mem_links {t : Tree} {place : Place} {link : Link Place}
    (hmem : link ∈ childLinks (t.graph place) ∨ link ∈ chainLinks (t.graph place)) :
    place <+: link.1 := by
  cases hat : t.at? place with
  | none =>
      rw [graph_eq_empty hat] at hmem
      simp [childLinks, chainLinks] at hmem
  | some u =>
      rcases hmem with hmem | hmem
      · obtain ⟨i, child, -, rfl, -⟩ := exists_of_mem_childLinks hat hmem
        exact List.prefix_append place [.child i]
      · obtain ⟨i, branch, -, rfl⟩ := exists_of_mem_chainLinks hat hmem
        cases hblock : branch.block with
        | none =>
            exact (blockPlace_of_none place i hblock).symm ▸ List.prefix_refl place
        | some block =>
            rw [blockPlace_of_some place i hblock]
            exact List.prefix_append place [.block i]

/-- The places below two different steps have nothing in common. -/
theorem step_eq_of_common_place {place other : Place} {first second : Step}
    (hfirst : place ++ [first] <+: other) (hsecond : place ++ [second] <+: other) :
    first = second := by
  obtain ⟨rest, rfl⟩ := hfirst
  obtain ⟨more, heq⟩ := hsecond
  rw [List.append_assoc, List.append_assoc] at heq
  exact (List.cons.inj (List.append_cancel_left heq)).1.symm

/-! ### Height -/

mutual

/-- How many nodes stand on the longest way down. -/
def height : Tree → Nat
  | .node _ children chain => max (heights children) (branchHeights chain) + 1

def heights : List Tree → Nat
  | [] => 0
  | child :: children => max child.height (heights children)

def branchHeights : List (Branch Tree) → Nat
  | [] => 0
  | ⟨_, _, none⟩ :: branches => branchHeights branches
  | ⟨_, _, some block⟩ :: branches => max block.height (branchHeights branches)

end

theorem heights_le_iff (children : List Tree) (bound : Nat) :
    heights children ≤ bound ↔ ∀ child ∈ children, child.height ≤ bound := by
  induction children with
  | nil => simp [heights]
  | cons child children ih => rw [heights, Nat.max_le, List.forall_mem_cons, ih]

theorem branchHeights_le_iff (branches : List (Branch Tree)) (bound : Nat) :
    branchHeights branches ≤ bound ↔
      ∀ branch ∈ branches, ∀ block, branch.block = some block → block.height ≤ bound := by
  induction branches with
  | nil => simp [branchHeights]
  | cons branch branches ih =>
      obtain ⟨guard, test, block⟩ := branch
      cases block with
      | none => simp [branchHeights, ih]
      | some block =>
          rw [branchHeights, Nat.max_le, List.forall_mem_cons, ih]
          simp only [Option.some.injEq, forall_eq']

theorem height_le_succ_iff (t : Tree) (bound : Nat) :
    t.height ≤ bound + 1 ↔ (∀ child ∈ t.children, child.height ≤ bound)
      ∧ ∀ branch ∈ t.chain, ∀ block, branch.block = some block → block.height ≤ bound := by
  obtain ⟨label, children, chain⟩ := t
  rw [height, Nat.succ_le_succ_iff, Nat.max_le, heights_le_iff, branchHeights_le_iff]
  rfl

theorem height_pos (t : Tree) : 0 < t.height := by
  obtain ⟨label, children, chain⟩ := t
  exact Nat.succ_pos _

theorem height_lt_of_step? {t u : Tree} {step : Step} (hstep : t.step? step = some u) :
    u.height < t.height := by
  obtain ⟨bound, hbound⟩ := Nat.exists_eq_succ_of_ne_zero (Nat.ne_of_gt t.height_pos)
  have hparts := (height_le_succ_iff t bound).mp (Nat.le_of_eq hbound)
  rw [hbound]
  cases step with
  | child i => exact Nat.lt_succ_of_le (hparts.1 u (List.mem_of_getElem? hstep))
  | block i =>
      obtain ⟨branch, hbranch, hblock⟩ := Option.bind_eq_some_iff.mp hstep
      exact Nat.lt_succ_of_le (hparts.2 branch (List.mem_of_getElem? hbranch) u hblock)

theorem height_le_of_at? {t u : Tree} {place : Place} (hat : t.at? place = some u) :
    u.height ≤ t.height := by
  induction place generalizing t with
  | nil =>
      cases hat
      exact Nat.le_refl _
  | cons step place ih =>
      obtain ⟨v, hstep, hat⟩ := Option.bind_eq_some_iff.mp hat
      exact Nat.le_trans (ih hat) (Nat.le_of_lt (height_lt_of_step? hstep))

/-- What holds of a tree whenever it holds of its children and of the blocks of its chain, holds of all
trees. -/
theorem induct {holds : Tree → Prop}
    (hnode : ∀ t : Tree, (∀ child ∈ t.children, holds child) →
      (∀ branch ∈ t.chain, ∀ block, branch.block = some block → holds block) → holds t)
    (t : Tree) : holds t := by
  have hbounded : ∀ bound (t : Tree), t.height ≤ bound → holds t := by
    intro bound
    induction bound with
    | zero =>
        intro t hle
        have hpos := t.height_pos
        omega
    | succ bound ih =>
        intro t hle
        obtain ⟨hchildren, hblocks⟩ := (height_le_succ_iff t bound).mp hle
        apply hnode t
        · exact fun child hmem => ih child (hchildren child hmem)
        · exact fun branch hmem block hblock => ih block (hblocks branch hmem block hblock)
  exact hbounded t.height t (Nat.le_refl _)

end Tree

end MiniTemplate

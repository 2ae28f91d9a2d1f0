import Mathlib.Data.List.Induction
import Mathlib.Data.Set.Finite.Lattice
import MiniTemplate.Proofs.Footprint
import MiniTemplate.Proofs.TreeGraph
/-!
# References between the nodes of a tree

In the graph of a tree a reference leads one step down, or from an entry of a chain back to the node that
leads it (`Tree.eq_of_refers`). So the nodes that the root reaches are the places of the tree, which are
finitely many, and no node is referred to from two others. The only cycles are those of a node with an
entry of its own chain.
-/

namespace MiniTemplate

/-- A step of a node refers to a node: to a child, or to the block of an entry of the chain. -/
def Graph.Refers {ι : Type} (graph : Graph ι) (node : ι) (s : Step) (other : ι) : Prop :=
  match s with
  | .child i => (graph node).children[i]? = some other
  | .block i => ∃ condition, (graph node).chain[i]? = some condition ∧ condition.block = other

theorem Graph.exists_refers_of_links {ι : Type} {graph : Graph ι} {node other : ι}
    (hlinks : graph.Links node other) : ∃ s, graph.Refers node s other := by
  rcases hlinks with hchild | ⟨condition, hcondition, hblock⟩
  · obtain ⟨i, hi⟩ := List.mem_iff_getElem?.mp hchild
    exact ⟨.child i, hi⟩
  · obtain ⟨i, hi⟩ := List.mem_iff_getElem?.mp hcondition
    exact ⟨.block i, condition, hi, hblock⟩

theorem Graph.Refers.links {ι : Type} {graph : Graph ι} {node other : ι} {s : Step}
    (hrefers : graph.Refers node s other) : graph.Links node other := by
  cases s with
  | child i => exact .inl (List.mem_of_getElem? hrefers)
  | block i =>
      obtain ⟨condition, hcondition, hblock⟩ := hrefers
      exact .inr ⟨condition, List.mem_of_getElem? hcondition, hblock⟩

namespace Tree

variable {t : Tree}

theorem refers_child_iff {u : Tree} {place other : Place} (hat : t.at? place = some u) (i : Nat) :
    t.graph.Refers place (.child i) other ↔
      (u.step? (.child i)).isSome = true ∧ place ++ [.child i] = other := by
  show (t.graph place).children[i]? = some other ↔ _
  rw [graph_eq_nodeAt hat, nodeAt, List.getElem?_mapIdx, Option.map_eq_some_iff,
    Option.isSome_iff_exists, exists_and_right]
  rfl

theorem refers_block_iff {u : Tree} {place other : Place} (hat : t.at? place = some u) (i : Nat) :
    t.graph.Refers place (.block i) other ↔
      ∃ branch, u.chain[i]? = some branch ∧ blockPlace place i branch = other := by
  show (∃ condition, (t.graph place).chain[i]? = some condition ∧ condition.block = other) ↔ _
  rw [graph_eq_nodeAt hat, nodeAt, conditionsAt]
  simp only [List.getElem?_mapIdx, Option.map_eq_some_iff]
  constructor
  · intro hrefers
    obtain ⟨condition, ⟨branch, hbranch, rfl⟩, hblock⟩ := hrefers
    exact ⟨branch, hbranch, hblock⟩
  · intro hbranch
    obtain ⟨branch, hbranch, hblock⟩ := hbranch
    exact ⟨_, ⟨branch, hbranch, rfl⟩, hblock⟩

theorem exists_at?_of_refers {place other : Place} {s : Step} (hrefers : t.graph.Refers place s other) :
    ∃ u, t.at? place = some u := by
  cases hat : t.at? place with
  | some u => exact ⟨u, rfl⟩
  | none => cases s <;> simp [Graph.Refers, graph_eq_empty hat] at hrefers

/-- **A reference leads one step down**, or from an entry of its chain back to the node itself. -/
theorem eq_of_refers {place other : Place} {s : Step} (hrefers : t.graph.Refers place s other) :
    (other = place ++ [s] ∧ (t.at? other).isSome = true) ∨ (other = place ∧ ∃ i, s = .block i) := by
  obtain ⟨u, hat⟩ := exists_at?_of_refers hrefers
  cases s with
  | child i =>
      obtain ⟨hchild, rfl⟩ := (refers_child_iff hat i).mp hrefers
      rw [at?_snoc hat]
      exact .inl ⟨rfl, hchild⟩
  | block i =>
      obtain ⟨branch, hbranch, hother⟩ := (refers_block_iff hat i).mp hrefers
      cases hblock : branch.block with
      | none =>
          rw [blockPlace_of_none place i hblock] at hother
          exact .inr ⟨hother.symm, i, rfl⟩
      | some block =>
          rw [blockPlace_of_some place i hblock] at hother
          rw [← hother, at?_block hat hbranch hblock]
          exact .inl ⟨rfl, rfl⟩

theorem refers_of_at?_snoc {place : Place} {s : Step} (hat : (t.at? (place ++ [s])).isSome = true) :
    t.graph.Refers place s (place ++ [s]) := by
  obtain ⟨w, hw⟩ := Option.isSome_iff_exists.mp hat
  rw [at?_append] at hw
  obtain ⟨u, hu, -⟩ := Option.bind_eq_some_iff.mp hw
  rw [at?_snoc hu] at hat
  cases s with
  | child i => exact (refers_child_iff hu i).mpr ⟨hat, rfl⟩
  | block i =>
      obtain ⟨block, hblock⟩ := Option.isSome_iff_exists.mp hat
      obtain ⟨branch, hbranch, hblock⟩ := Option.bind_eq_some_iff.mp hblock
      exact (refers_block_iff hu i).mpr ⟨branch, hbranch, blockPlace_of_some place i hblock⟩

/-- The nodes that the root leads to are those of the tree. -/
theorem reaches_root_iff (t : Tree) (place : Place) :
    t.graph.Reaches [] place ↔ (t.at? place).isSome = true := by
  constructor
  · intro hreaches
    induction hreaches with
    | refl => rfl
    | tail _ hlinks ih =>
        obtain ⟨s, hrefers⟩ := Graph.exists_refers_of_links hlinks
        rcases eq_of_refers hrefers with ⟨-, hat⟩ | ⟨rfl, -⟩
        · exact hat
        · exact ih
  · intro hat
    induction place using List.reverseRecOn with
    | nil => exact .refl
    | append_singleton place s ih =>
        have hrefers := refers_of_at?_snoc hat
        obtain ⟨u, hu⟩ := exists_at?_of_refers hrefers
        exact (ih (Option.isSome_iff_exists.mpr ⟨u, hu⟩)).tail hrefers.links

/-- **Each node is referred to by one step of one node**, itself apart. -/
theorem eq_of_refers_of_refers {place first second : Place} {s s' : Step}
    (hfirst : t.graph.Refers first s place) (hsecond : t.graph.Refers second s' place)
    (hneFirst : first ≠ place) (hneSecond : second ≠ place) : first = second ∧ s = s' := by
  rcases eq_of_refers hfirst with ⟨hplace, -⟩ | ⟨hplace, -⟩
  · rcases eq_of_refers hsecond with ⟨hplace', -⟩ | ⟨hplace', -⟩
    · obtain ⟨hparent, hstep⟩ := List.append_inj' (hplace.symm.trans hplace') rfl
      exact ⟨hparent, List.singleton_inj.mp hstep⟩
    · exact absurd hplace'.symm hneSecond
  · exact absurd hplace.symm hneFirst

theorem exists_block_of_refers_self {place : Place} {s : Step} (hrefers : t.graph.Refers place s place) :
    ∃ i, s = .block i := by
  rcases eq_of_refers hrefers with ⟨hplace, -⟩ | ⟨-, hblock⟩
  · have hlength := congrArg List.length hplace
    simp at hlength
  · exact hblock

/-! ### Trees are finite -/

theorem finite_steps (t : Tree) : {s | (t.step? s).isSome = true}.Finite := by
  have hchildren := (Set.finite_lt_nat t.children.length).image Step.child
  have hblocks := (Set.finite_lt_nat t.chain.length).image Step.block
  apply (hchildren.union hblocks).subset
  intro s hs
  obtain ⟨u, hu⟩ := Option.isSome_iff_exists.mp hs
  cases s with
  | child i => exact .inl ⟨i, (List.getElem?_eq_some_iff.mp hu).1, rfl⟩
  | block i =>
      obtain ⟨branch, hbranch, -⟩ := Option.bind_eq_some_iff.mp hu
      exact .inr ⟨i, (List.getElem?_eq_some_iff.mp hbranch).1, rfl⟩

theorem finite_places (t : Tree) : {place | (t.at? place).isSome = true}.Finite := by
  induction t using Tree.induct with
  | hnode t hchildren hblocks =>
      have hbelow : ∀ s u, t.step? s = some u → {place | (u.at? place).isSome = true}.Finite := by
        intro s u hu
        cases s with
        | child i => exact hchildren u (List.mem_of_getElem? hu)
        | block i =>
            obtain ⟨branch, hbranch, hblock⟩ := Option.bind_eq_some_iff.mp hu
            exact hblocks branch (List.mem_of_getElem? hbranch) u hblock
      have hparts : ∀ s ∈ {s | (t.step? s).isSome = true},
          ((s :: ·) '' {rest | (t.at? (s :: rest)).isSome = true}).Finite := by
        intro s hs
        obtain ⟨u, hu⟩ := Option.isSome_iff_exists.mp hs
        apply Set.Finite.image
        simpa only [at?, hu, Option.bind_some] using hbelow s u hu
      apply ((Set.Finite.biUnion t.finite_steps hparts).insert []).subset
      intro place hplace
      cases place with
      | nil => exact .inl rfl
      | cons s rest =>
          obtain ⟨w, hw⟩ := Option.isSome_iff_exists.mp hplace
          obtain ⟨u, hu, -⟩ := Option.bind_eq_some_iff.mp hw
          refine .inr (Set.mem_biUnion (Option.isSome_iff_exists.mpr ⟨u, hu⟩) ?_)
          exact ⟨rest, hplace, rfl⟩

end Tree

end MiniTemplate

import Mathlib.Data.Set.Card
import MiniTemplate.Proofs.StandingNodes
import MiniTemplate.Proofs.TreeReferences
/-!
# Loading neither loses nor duplicates nodes

Every position that is reached is either loaded or reported as skipped. What is reported about a node is
what is reported about its children and then about its blocks, each in their order, so the reports of
the whole document list the skipped positions without repetition, in the order of positions
(`reports_of_tree`). Since the positions that are loaded correspond to the nodes of the tree, the nodes
and the reports together are as many as the positions that are reached (`ncard_reached`).
-/

namespace MiniTemplate

/-! ### Lists of positions in their order -/

/-- A list holds exactly the positions with a property, each once and in their order. -/
structure Enumerates (holds : Place → Prop) (places : List Place) : Prop where
  ordered : places.Pairwise Place.Before
  mem_iff : ∀ place, place ∈ places ↔ holds place

namespace Enumerates

variable {holds other : Place → Prop} {places others : List Place}

theorem nil (hnone : ∀ place, ¬ holds place) : Enumerates holds [] :=
  ⟨.nil, fun place => ⟨fun hmem => absurd hmem List.not_mem_nil, fun h => absurd h (hnone place)⟩⟩

theorem singleton (place : Place) : Enumerates (· = place) [place] :=
  ⟨List.pairwise_singleton _ place, fun _ => List.mem_singleton⟩

theorem congr (hplaces : Enumerates holds places) (hiff : ∀ place, holds place ↔ other place) :
    Enumerates other places :=
  ⟨hplaces.ordered, fun place => (hplaces.mem_iff place).trans (hiff place)⟩

theorem append (hplaces : Enumerates holds places) (hothers : Enumerates other others)
    (hbefore : ∀ first second, holds first → other second → Place.Before first second) :
    Enumerates (fun place => holds place ∨ other place) (places ++ others) := by
  constructor
  · refine List.pairwise_append.mpr ⟨hplaces.ordered, hothers.ordered, ?_⟩
    intro first hfirst second hsecond
    exact hbefore first second ((hplaces.mem_iff first).mp hfirst) ((hothers.mem_iff second).mp hsecond)
  · intro place
    rw [List.mem_append, hplaces.mem_iff, hothers.mem_iff]

/-- The same positions below a step. -/
theorem below (hplaces : Enumerates holds places) (s : Step) :
    Enumerates (fun place => ∃ rest, place = s :: rest ∧ holds rest) (places.map (s :: ·)) := by
  constructor
  · exact List.pairwise_map.mpr (hplaces.ordered.imp .cons)
  · intro place
    rw [List.mem_map]
    constructor
    · intro hmem
      obtain ⟨rest, hrest, rfl⟩ := hmem
      exact ⟨rest, rfl, (hplaces.mem_iff rest).mp hrest⟩
    · intro hplace
      obtain ⟨rest, rfl, hrest⟩ := hplace
      exact ⟨rest, (hplaces.mem_iff rest).mpr hrest, rfl⟩

theorem nodup (hplaces : Enumerates holds places) : places.Nodup :=
  hplaces.ordered.imp Place.Before.ne

end Enumerates

/-! ### What is reported -/

/-- The skipped positions below a step to the given data: the step itself if it is skipped, and those of
the data if not. -/
def SkippedVia (s : Step) (w : Value) (place : Place) : Prop :=
  ∃ rest, place = s :: rest ∧ ((s.skips w = true ∧ rest = []) ∨ (s.skips w = false ∧ w.SkippedAt rest))

theorem Value.skippedAt_iff (v : Value) (place : Place) :
    v.SkippedAt place ↔ ∃ s w, v.step? s = some w ∧ SkippedVia s w place := by
  cases place with
  | nil =>
      refine ⟨fun h => absurd h v.not_skippedAt_nil, fun h => ?_⟩
      obtain ⟨s, w, -, rest, hplace, -⟩ := h
      exact nomatch hplace
  | cons s rest =>
      rw [Value.skippedAt_cons_iff]
      constructor
      · intro hcases
        rcases hcases with ⟨w, hstep, hskips, hrest⟩ | ⟨w, hfollow, hrest⟩
        · exact ⟨s, w, hstep, rest, rfl, .inl ⟨hskips, hrest⟩⟩
        · obtain ⟨hstep, hskips⟩ := Value.follow?_eq_some_iff.mp hfollow
          exact ⟨s, w, hstep, rest, rfl, .inr ⟨hskips, hrest⟩⟩
      · intro hvia
        obtain ⟨s', w, hstep, rest', hplace, hcases⟩ := hvia
        cases hplace
        rcases hcases with ⟨hskips, hrest⟩ | ⟨hskips, hrest⟩
        · exact .inl ⟨w, hstep, hskips, hrest⟩
        · exact .inr ⟨w, Value.follow?_eq_some_iff.mpr ⟨hstep, hskips⟩, hrest⟩

/-- The skipped positions below the steps of a loop, where `found` gives the data that a step leads
to. -/
def SkippedAmong (steps : Nat → Step) (found : Nat → Option Value) (place : Place) : Prop :=
  ∃ k w, found k = some w ∧ SkippedVia (steps k) w place

theorem SkippedVia.before {s s' : Step} {w w' : Value} {first second : Place}
    (hfirst : SkippedVia s w first) (hsecond : SkippedVia s' w' second) (hbefore : s.Before s') :
    first.Before second := by
  obtain ⟨rest, rfl, -⟩ := hfirst
  obtain ⟨rest', rfl, -⟩ := hsecond
  exact .rel hbefore

/-- The positions of the first item of a loop come before those of the others. -/
theorem Enumerates.loop {steps : Nat → Step} {found : Nat → Option Value} {places others : List Place}
    (hsteps : ∀ k, (steps 0).Before (steps (k + 1)))
    (hplaces : Enumerates (fun place => ∃ w, found 0 = some w ∧ SkippedVia (steps 0) w place) places)
    (hothers : Enumerates (SkippedAmong (fun k => steps (k + 1)) fun k => found (k + 1)) others) :
    Enumerates (SkippedAmong steps found) (places ++ others) := by
  refine (hplaces.append hothers ?_).congr ?_
  · intro first second hfirst hsecond
    obtain ⟨w, -, hfirst⟩ := hfirst
    obtain ⟨k, w', -, hsecond⟩ := hsecond
    exact hfirst.before hsecond (hsteps k)
  · intro place
    constructor
    · intro hcases
      rcases hcases with ⟨w, hw, hvia⟩ | ⟨k, w, hw, hvia⟩
      · exact ⟨0, w, hw, hvia⟩
      · exact ⟨k + 1, w, hw, hvia⟩
    · intro hamong
      obtain ⟨k, w, hw, hvia⟩ := hamong
      cases k with
      | zero => exact .inl ⟨w, hw, hvia⟩
      | succ k => exact .inr ⟨k, w, hw, hvia⟩

/-- Exactly the skipped positions are reported, in their order. -/
def Reports (holds : Place → Prop) (log : Log) : Prop :=
  ∃ places, log = places.map Event.branchSkipped ∧ Enumerates holds places

theorem Reports.append_loop {steps : Nat → Step} {found : Nat → Option Value} {log rest : Log}
    (hsteps : ∀ k, (steps 0).Before (steps (k + 1)))
    (hlog : Reports (fun place => ∃ w, found 0 = some w ∧ SkippedVia (steps 0) w place) log)
    (hrest : Reports (SkippedAmong (fun k => steps (k + 1)) fun k => found (k + 1)) rest) :
    Reports (SkippedAmong steps found) (log ++ rest) := by
  obtain ⟨places, rfl, hplaces⟩ := hlog
  obtain ⟨others, rfl, hothers⟩ := hrest
  exact ⟨places ++ others, List.map_append.symm, .loop hsteps hplaces hothers⟩

/-- What is reported about a node below a step that is taken. -/
theorem Reports.below {s : Step} {w : Value} {log : Log} (hskips : s.skips w = false)
    (hlog : Reports w.SkippedAt log) :
    Reports (SkippedVia s w) (log.map (Event.under [s])) := by
  obtain ⟨places, rfl, hplaces⟩ := hlog
  refine ⟨places.map (s :: ·), ?_, (hplaces.below s).congr fun place => ?_⟩
  · rw [List.map_map, List.map_map]
    rfl
  · simp [SkippedVia, hskips]

theorem Reports.skipped {s : Step} {w : Value} (hskips : s.skips w = true) :
    Reports (SkippedVia s w) [.branchSkipped [s]] := by
  refine ⟨[[s]], rfl, (Enumerates.singleton [s]).congr fun place => ?_⟩
  simp [SkippedVia, hskips]

theorem Reports.some {s : Step} {w : Value} {found : Option Value} {log : Log}
    (hfound : found = Option.some w) (hlog : Reports (SkippedVia s w) log) :
    Reports (fun place => ∃ w, found = Option.some w ∧ SkippedVia s w place) log := by
  obtain ⟨places, hlog, hplaces⟩ := hlog
  refine ⟨places, hlog, hplaces.congr fun place => ?_⟩
  rw [hfound]
  simp

theorem Reports.none {s : Step} {found : Option Value} (hfound : found = Option.none) :
    Reports (fun place => ∃ w, found = Option.some w ∧ SkippedVia s w place) [] := by
  refine ⟨[], rfl, .nil fun place hsome => ?_⟩
  obtain ⟨w, hw, -⟩ := hsome
  exact nomatch hfound.symm.trans hw

theorem Reports.loop_nil {steps : Nat → Step} {found : Nat → Option Value}
    (hfound : ∀ k, found k = Option.none) : Reports (SkippedAmong steps found) [] := by
  refine ⟨[], rfl, .nil fun place hamong => ?_⟩
  obtain ⟨k, w, hw, -⟩ := hamong
  exact nomatch (hfound k).symm.trans hw

namespace Load

section Loops

variable {depth : Nat}
  (hnodes : ∀ w u own, tree depth w [] = .ok u own → Reports w.SkippedAt own)

include hnodes

theorem ChildrenRead.reports {index : Nat} {items : List Value} {children : List Tree} {log : Log}
    (hread : ChildrenRead depth index items children log) :
    Reports (SkippedAmong (fun k => .child (index + k)) fun k => items[k]?) log := by
  have hsteps : ∀ index k : Nat, (Step.child (index + 0)).Before (.child (index + (k + 1))) :=
    fun index k => .children (by omega)
  induction hread with
  | nil index => exact .loop_nil fun _ => rfl
  | @branch index item items children log hbranch _ ih =>
      simp only [Nat.add_right_comm index 1] at ih
      have hfirst : Reports (SkippedVia (.child index) item) [.branchSkipped [.child index]] :=
        .skipped hbranch
      show Reports _ ([.branchSkipped [.child index]] ++ log)
      exact .append_loop (hsteps index) (.some rfl hfirst) ih
  | @node index item items child children own log hnode hchild _ ih =>
      simp only [Nat.add_right_comm index 1] at ih
      exact .append_loop (hsteps index) (.some rfl (.below hnode (hnodes _ _ _ hchild))) ih

theorem ChainRead.reports {index : Nat} {items : List Value} {chain : List (Branch Tree)} {log : Log}
    (hread : ChainRead depth index items chain log) :
    Reports (SkippedAmong (fun k => .block (index + k)) fun k => items[k]?.bind Value.block?) log := by
  have hsteps : ∀ index k : Nat, (Step.block (index + 0)).Before (.block (index + (k + 1))) :=
    fun index k => .blocks (by omega)
  induction hread with
  | nil index => exact .loop_nil fun _ => rfl
  | @lead index fields items chain log hblock _ ih =>
      simp only [Nat.add_right_comm index 1] at ih
      exact .append_loop (hsteps index) (.none hblock) ih
  | @block index fields data items block chain own log hblock hdata _ ih =>
      simp only [Nat.add_right_comm index 1] at ih
      exact .append_loop (hsteps index) (.some hblock (.below rfl (hnodes _ _ _ hdata))) ih

end Loops

/-- **What is reported about a tree are its skipped positions**, each once and in their order. -/
theorem reports_of_tree {depth : Nat} {data : Value} {t : Tree} {log : Log}
    (hrun : tree depth data [] = .ok t log) : Reports data.SkippedAt log := by
  induction depth generalizing data t log with
  | zero => exact nomatch hrun
  | succ depth ih =>
      obtain ⟨first, second, hchildren, hchain, rfl⟩ := (nodeRead_of_tree hrun).parts
      obtain ⟨places, rfl, hplaces⟩ := hchildren.reports fun _ _ _ => ih
      obtain ⟨others, rfl, hothers⟩ := hchain.reports fun _ _ _ => ih
      refine ⟨places ++ others, List.map_append.symm, (hplaces.append hothers ?_).congr ?_⟩
      · intro place other hplace hother
        obtain ⟨i, w, -, hplace⟩ := hplace
        obtain ⟨j, w', -, hother⟩ := hother
        exact hplace.before hother (.childBlock _ _)
      · intro place
        rw [Value.skippedAt_iff]
        simp only [SkippedAmong, Nat.zero_add]
        constructor
        · intro hcases
          rcases hcases with ⟨k, w, hw, hvia⟩ | ⟨k, w, hw, hvia⟩
          · exact ⟨.child k, w, hw, hvia⟩
          · exact ⟨.block k, w, hw, hvia⟩
        · intro hstep
          obtain ⟨s, w, hw, hvia⟩ := hstep
          cases s with
          | child k => exact .inl ⟨k, w, hw, hvia⟩
          | block k => exact .inr ⟨k, w, hw, hvia⟩

end Load

/-! ### Counting -/

/-- How many records of the log say that the child at a place was skipped. -/
def skipRecords (log : Log) (place : Place) : Nat :=
  log.countP fun event =>
    event.level = .debug ∧ event.message = "Skipping chain branch at " ++ place.text

theorem message_branchSkipped (place : Place) :
    (Event.branchSkipped place).message = "Skipping chain branch at " ++ place.text :=
  rfl

/-- The record of a place has a text of its own. -/
theorem message_branchSkipped_eq_iff (place other : Place) :
    (Event.branchSkipped other).message = "Skipping chain branch at " ++ place.text ↔ other = place := by
  rw [message_branchSkipped]
  constructor
  · intro heq
    have hlists := congrArg String.toList heq
    simp only [String.toList_append, List.append_right_inj] at hlists
    exact Place.eq_of_text (String.toList_injective hlists)
  · intro heq
    rw [heq]

theorem skipRecords_map_branchSkipped (places : List Place) (place : Place) :
    skipRecords (places.map Event.branchSkipped) place = places.count place := by
  rw [skipRecords, List.countP_map, List.count]
  apply List.countP_congr
  intro other _
  rw [Function.comp_apply, decide_eq_true_iff, beq_iff_eq, message_branchSkipped_eq_iff]
  exact and_iff_right rfl

namespace Reports

variable {holds : Place → Prop} {log : Log}

theorem skipRecords_eq_one (hlog : Reports holds log) {place : Place} (hholds : holds place) :
    skipRecords log place = 1 := by
  obtain ⟨places, rfl, hplaces⟩ := hlog
  rw [skipRecords_map_branchSkipped]
  exact List.count_eq_one_of_mem hplaces.nodup ((hplaces.mem_iff place).mpr hholds)

theorem skipRecords_eq_zero (hlog : Reports holds log) {place : Place} (hholds : ¬ holds place) :
    skipRecords log place = 0 := by
  obtain ⟨places, rfl, hplaces⟩ := hlog
  rw [skipRecords_map_branchSkipped]
  exact List.count_eq_zero_of_not_mem fun hmem => hholds ((hplaces.mem_iff place).mp hmem)

theorem finite (hlog : Reports holds log) : {place | holds place}.Finite := by
  obtain ⟨places, -, hplaces⟩ := hlog
  apply places.finite_toSet.subset
  intro place hplace
  exact (hplaces.mem_iff place).mpr hplace

theorem ncard_eq_length (hlog : Reports holds log) : {place | holds place}.ncard = log.length := by
  obtain ⟨places, rfl, hplaces⟩ := hlog
  have hset : {place | holds place} = ↑places.toFinset := by
    ext place
    simp [hplaces.mem_iff]
  rw [hset, Set.ncard_coe_finset, List.toFinset_card_of_nodup hplaces.nodup, List.length_map]

end Reports

/-! ### Conservation -/

/-- What is reached in the data is accounted for by the nodes of the tree and the records of the log. The
last two fields hold of the graph of any tree (`Tree.eq_of_refers_of_refers`,
`Tree.exists_block_of_refers_self`), whatever data it was loaded from. They say what kind of graph the
positions correspond to. -/
structure Conserves (data : Value) (t : Tree) (log : Log) : Prop where
  /-- a child that is skipped has one record and no node -/
  skipped : ∀ place, data.SkippedAt place → skipRecords log place = 1 ∧ data.loadedAt? place = none
  /-- a position that is loaded has no record, and its node stands at its place -/
  loaded : ∀ place v, data.loadedAt? place = some v →
    skipRecords log place = 0 ∧ Load.Stands data t place v
  /-- all that is reached is one of the two -/
  reached : ∀ place, data.Reached place ↔ (data.loadedAt? place).isSome = true ∨ data.SkippedAt place
  /-- the positions that are loaded and the nodes correspond to each other -/
  nodes : Set.BijOn data.standing {place | (data.loadedAt? place).isSome = true}
    {place | t.graph.Reaches [] place}
  /-- the records are those of the skipped children, in the order of loading -/
  records : Reports data.SkippedAt log
  finite : {place | data.Reached place}.Finite
  count : {place | t.graph.Reaches [] place}.ncard + log.length = {place | data.Reached place}.ncard
  /-- no node of a tree is referred to twice by others -/
  references : ∀ place first second s s', t.graph.Refers first s place →
    t.graph.Refers second s' place → first ≠ place → second ≠ place → first = second ∧ s = s'
  /-- a node of a tree refers to itself by entries of its chain only -/
  selfReferences : ∀ place s, t.graph.Refers place s place → ∃ i, s = .block i

theorem Value.setOf_reached (data : Value) :
    {place | data.Reached place} =
      {place | (data.loadedAt? place).isSome = true} ∪ {place | data.SkippedAt place} := by
  ext place
  exact data.reached_iff place

namespace Load

section Run

variable {depth : Nat} {data : Value} {t : Tree} {log : Log}

theorem bijOn_standing_reaches (hrun : tree depth data [] = .ok t log) :
    Set.BijOn data.standing {place | (data.loadedAt? place).isSome = true}
      {place | t.graph.Reaches [] place} := by
  simp only [Tree.reaches_root_iff]
  exact bijOn_standing hrun

/-- The positions that are loaded are as many as the nodes, hence finitely many. -/
theorem finite_loaded (hrun : tree depth data [] = .ok t log) :
    {place | (data.loadedAt? place).isSome = true}.Finite :=
  (bijOn_standing hrun).finite_iff_finite.mpr t.finite_places

theorem ncard_reached (hrun : tree depth data [] = .ok t log) :
    {place | t.graph.Reaches [] place}.ncard + log.length = {place | data.Reached place}.ncard := by
  have hreports := reports_of_tree hrun
  have hdisjoint : Disjoint {place | (data.loadedAt? place).isSome = true}
      {place | data.SkippedAt place} := by
    apply Set.disjoint_left.mpr
    intro place hloaded hskipped
    have hloaded : (data.loadedAt? place).isSome = true := hloaded
    rw [hskipped.not_loaded] at hloaded
    exact nomatch hloaded
  rw [Value.setOf_reached, Set.ncard_union_eq hdisjoint (finite_loaded hrun) hreports.finite,
    hreports.ncard_eq_length, (bijOn_standing_reaches hrun).ncard_eq]

end Run

/-- **Loading neither loses nor duplicates nodes.** What is reported in a run accounts, together with the
nodes of the tree, for every position that is reached. -/
theorem tree_conserves {depth : Nat} {data : Value} {t : Tree} {log last : Log}
    (hrun : tree depth data log = .ok t last) :
    ∃ own, last = log ++ own ∧ Conserves data t own := by
  obtain ⟨own, halone, hlast⟩ := tree_of_node (Nat.le_refl depth) hrun
  rw [funext Event.under_nil, List.map_id'] at hlast
  have hreports := reports_of_tree halone
  refine ⟨own, hlast, ?_⟩
  exact
    { skipped := fun place hskipped => ⟨hreports.skipRecords_eq_one hskipped, hskipped.not_loaded⟩
      loaded := by
        intro place v hat
        refine ⟨hreports.skipRecords_eq_zero fun hskipped => ?_, stands_of_loadedAt? halone hat⟩
        exact nomatch hskipped.not_loaded.symm.trans hat
      reached := data.reached_iff
      nodes := bijOn_standing_reaches halone
      records := hreports
      finite := by
        rw [Value.setOf_reached]
        exact (finite_loaded halone).union hreports.finite
      count := ncard_reached halone
      references := fun _ _ _ _ _ => Tree.eq_of_refers_of_refers
      selfReferences := fun _ _ => Tree.exists_block_of_refers_self }

/-- The first child leads a chain. Its first entry stands for the child, and the block of the second one
has a branch among its own children. The second child is the branch of the first one. -/
def branching : Value :=
  .object
    [("tag", .str "div"),
      ("children", .list
        [.object
            [("tag", .str "p"),
              ("ifConditions", .list
                [.object [("exp", .str "a"), ("block", .null)],
                  .object
                    [("block", .object
                      [("tag", .str "i"),
                        ("children", .list
                          [.object [("elseif", .str "b"), ("tag", .str "u")],
                            .object [("type", .int 3)]])])]])],
          .object [("tag", .str "i"), ("else", .bool true)],
          .object [("type", .int 3), ("text", .str "end")]])]

theorem tree_conserves_branching :
    ∃ t, tree 4 branching [] = .ok t
        [.branchSkipped [.child 0, .block 1, .child 0], .branchSkipped [.child 1]]
      ∧ Conserves branching t
        [.branchSkipped [.child 0, .block 1, .child 0], .branchSkipped [.child 1]] := by
  have hrun : ∃ t, tree 4 branching [] = .ok t
      [.branchSkipped [.child 0, .block 1, .child 0], .branchSkipped [.child 1]] := ⟨_, rfl⟩
  obtain ⟨t, hrun⟩ := hrun
  obtain ⟨own, hown, hconserves⟩ := tree_conserves hrun
  rw [List.nil_append] at hown
  exact ⟨t, hrun, hown ▸ hconserves⟩

end Load

end MiniTemplate

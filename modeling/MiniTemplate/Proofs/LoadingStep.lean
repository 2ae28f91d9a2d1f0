import MiniTemplate.Proofs.LoadedAlone
import MiniTemplate.Proofs.Loaded
/-!
# Loading one node

What the loading of a node comes to, in terms of its children and blocks loaded alone. It succeeds
exactly if `NodeRead` holds, where `ChildrenRead` and `ChainRead` say what is made of each item,
following the two loops, and what is reported. If it is malformed, `Stops` says where: the complaint is
about the node itself, or it is that of the first child or block that is malformed, all those before it
being sound.
-/

namespace MiniTemplate

/-! ### Items of a node -/

theorem Value.items_object {fields : Fields} {key : String} {items : List Value}
    (hitems : (fields.get key).orElse (.list []) = .list items) :
    (Value.object fields).items key = items := by
  rw [Value.items]
  rw [Value.orElse] at hitems
  split at hitems
  · rw [hitems]
  · cases hitems
    cases hget : fields.get key with
    | list found =>
        cases found with
        | nil => rfl
        | cons first found =>
            rename_i hunset
            rw [hget] at hunset
            exact absurd rfl hunset
    | _ => rfl

namespace Load

theorem bind_eq_error {α β : Type} {x : Load α} {f : α → Load β} {log last : Log} {fault : LoadFault}
    (hbind : (x >>= f) log = .error fault last) :
    x log = .error fault last ∨ ∃ a mid, x log = .ok a mid ∧ f a mid = .error fault last := by
  change EStateM.bind x f log = _ at hbind
  rw [EStateM.bind] at hbind
  cases hx : x log with
  | error found mid =>
      rw [hx] at hbind
      cases hbind
      exact .inl rfl
  | ok a mid =>
      rw [hx] at hbind
      exact .inr ⟨a, mid, rfl, hbind⟩

theorem ofExcept_eq_ok {α : Type} {x : Except LoadFault α} {log last : Log} {a : α}
    (hrun : ofExcept x log = .ok a last) : x = .ok a ∧ last = log := by
  cases x with
  | ok b =>
      cases hrun
      exact ⟨rfl, rfl⟩
  | error fault => cases hrun

theorem blockFrom_eq (load : Place → Value → Load Tree) (place : Place) (index : Nat)
    (fields : Fields) :
    blockFrom load place index fields = match (Value.object fields).block? with
      | none => pure none
      | some data => some <$> load (place ++ [.block index]) data := by
  rw [blockFrom, Value.block?]
  cases fields.get "block" <;> rfl

/-! ### A node that is loaded -/

/-- The children made of the items from entry `index` on, and what is reported about them. -/
inductive ChildrenRead (depth : Nat) : Nat → List Value → List Tree → Log → Prop where
  | nil (index : Nat) : ChildrenRead depth index [] [] []
  | branch {index : Nat} {item : Value} {items : List Value} {children : List Tree} {log : Log}
      (hbranch : isBranch item = true) (hrest : ChildrenRead depth (index + 1) items children log) :
      ChildrenRead depth index (item :: items) children (.branchSkipped [.child index] :: log)
  | node {index : Nat} {item : Value} {items : List Value} {child : Tree} {children : List Tree}
      {own log : Log} (hnode : isBranch item = false) (hchild : tree depth item [] = .ok child own)
      (hrest : ChildrenRead depth (index + 1) items children log) :
      ChildrenRead depth index (item :: items) (child :: children)
        (own.map (Event.under [.child index]) ++ log)

/-- The entries made of the items from entry `index` on, and what is reported about them. -/
inductive ChainRead (depth : Nat) : Nat → List Value → List (Branch Tree) → Log → Prop where
  | nil (index : Nat) : ChainRead depth index [] [] []
  | lead {index : Nat} {fields : Fields} {items : List Value} {chain : List (Branch Tree)} {log : Log}
      (hblock : (Value.object fields).block? = none)
      (hrest : ChainRead depth (index + 1) items chain log) :
      ChainRead depth index (.object fields :: items)
        (⟨guardAt index (fields.get "exp"), fields.get "exp", none⟩ :: chain) log
  | block {index : Nat} {fields : Fields} {data : Value} {items : List Value} {block : Tree}
      {chain : List (Branch Tree)} {own log : Log} (hblock : (Value.object fields).block? = some data)
      (hdata : tree depth data [] = .ok block own)
      (hrest : ChainRead depth (index + 1) items chain log) :
      ChainRead depth index (.object fields :: items)
        (⟨guardAt index (fields.get "exp"), fields.get "exp", some block⟩ :: chain)
        (own.map (Event.under [.block index]) ++ log)

theorem childrenRead_of_childrenFrom {depth index : Nat} {items : List Value} {log last : Log}
    {children : List Tree}
    (hrun : childrenFrom (node depth) [] index items log = .ok children last) :
    ∃ own, ChildrenRead depth index items children own ∧ last = log ++ own := by
  induction items generalizing index log children with
  | nil =>
      cases hrun
      exact ⟨[], .nil index, (List.append_nil last).symm⟩
  | cons item items ih =>
      rw [childrenFrom] at hrun
      split at hrun
      · rename_i hbranch
        obtain ⟨_, mid, hreport, hrun⟩ := bind_eq_ok hrun
        cases hreport
        obtain ⟨own, hread, rfl⟩ := ih hrun
        refine ⟨_, .branch hbranch hread, ?_⟩
        rw [List.append_assoc]
        rfl
      · rename_i hnode
        obtain ⟨child, mid, hchild, hrun⟩ := bind_eq_ok hrun
        obtain ⟨others, mid', hothers, hrun⟩ := bind_eq_ok hrun
        cases hrun
        obtain ⟨own, halone, rfl⟩ := tree_of_node (Nat.le_refl depth) hchild
        obtain ⟨rest, hread, rfl⟩ := ih hothers
        refine ⟨_, .node (Bool.eq_false_iff.mpr hnode) halone hread, ?_⟩
        rw [List.append_assoc]
        rfl

/-- The block of an entry is loaded if the entry has one. -/
theorem blockFrom_eq_ok {depth index : Nat} {fields : Fields} {log last : Log} {block : Option Tree}
    (hrun : blockFrom (node depth) [] index fields log = .ok block last) :
    ((Value.object fields).block? = none ∧ block = none ∧ last = log)
      ∨ ∃ data found own, (Value.object fields).block? = some data ∧ block = some found
        ∧ tree depth data [] = .ok found own ∧ last = log ++ own.map (Event.under [.block index]) := by
  rw [blockFrom_eq] at hrun
  cases hdata : (Value.object fields).block? with
  | none =>
      rw [hdata] at hrun
      cases hrun
      exact .inl ⟨rfl, rfl, rfl⟩
  | some data =>
      rw [hdata] at hrun
      dsimp only at hrun
      rw [map_eq_pure_bind] at hrun
      obtain ⟨found, mid, hfound, hrun⟩ := bind_eq_ok hrun
      cases hrun
      obtain ⟨own, halone, hlast⟩ := tree_of_node (Nat.le_refl depth) hfound
      exact .inr ⟨data, found, own, rfl, rfl, halone, hlast⟩

theorem chainRead_of_chainFrom {depth index : Nat} {items : List Value} {log last : Log}
    {branches : List (Branch Tree)}
    (hrun : chainFrom (node depth) [] index items log = .ok branches last) :
    ∃ own, ChainRead depth index items branches own ∧ last = log ++ own := by
  induction items generalizing index log branches with
  | nil =>
      cases hrun
      exact ⟨[], .nil index, (List.append_nil last).symm⟩
  | cons item items ih =>
      cases item with
      | object fields =>
          obtain ⟨block, mid, hblock, hrun⟩ := bind_eq_ok hrun
          obtain ⟨others, mid', hothers, hrun⟩ := bind_eq_ok hrun
          cases hrun
          obtain ⟨rest, hread, rfl⟩ := ih hothers
          rcases blockFrom_eq_ok hblock with
            ⟨hnone, rfl, rfl⟩ | ⟨data, found, own, hdata, rfl, halone, rfl⟩
          · exact ⟨rest, .lead hnone hread, rfl⟩
          · exact ⟨_, .block hdata halone hread, List.append_assoc _ _ _⟩
      | _ => cases hrun

/-- What a node is made of, and what is reported about it. -/
structure NodeRead (depth : Nat) (data : Value) (t : Tree) (log : Log) : Prop where
  label : ∃ fields, data = .object fields ∧ Load.label [] fields = .ok t.label
  lists : ∀ fields : Fields, data = .object fields →
    (fields.get "children").orElse (.list []) = .list (data.items "children")
      ∧ (fields.get "ifConditions").orElse (.list []) = .list (data.items "ifConditions")
  parts : ∃ first second, ChildrenRead depth 0 (data.items "children") t.children first
    ∧ ChainRead depth 0 (data.items "ifConditions") t.chain second ∧ log = first ++ second

theorem childrenRead_of_children {depth : Nat} {fields : Fields} {log last : Log} {found : List Tree}
    (hrun : children (node depth) [] fields log = .ok found last) :
    (fields.get "children").orElse (.list []) = .list ((Value.object fields).items "children")
      ∧ ∃ own, ChildrenRead depth 0 ((Value.object fields).items "children") found own
        ∧ last = log ++ own := by
  rw [children] at hrun
  cases hitems : (fields.get "children").orElse (.list []) with
  | list items =>
      rw [hitems] at hrun
      rw [Value.items_object hitems]
      exact ⟨rfl, childrenRead_of_childrenFrom hrun⟩
  | _ =>
      rw [hitems] at hrun
      cases hrun

theorem chainRead_of_chain {depth : Nat} {fields : Fields} {log last : Log}
    {found : List (Branch Tree)} (hrun : chain (node depth) [] fields log = .ok found last) :
    (fields.get "ifConditions").orElse (.list []) = .list ((Value.object fields).items "ifConditions")
      ∧ ∃ own, ChainRead depth 0 ((Value.object fields).items "ifConditions") found own
        ∧ last = log ++ own := by
  rw [chain] at hrun
  cases hitems : (fields.get "ifConditions").orElse (.list []) with
  | list items =>
      rw [hitems] at hrun
      rw [Value.items_object hitems]
      exact ⟨rfl, chainRead_of_chainFrom hrun⟩
  | _ =>
      rw [hitems] at hrun
      cases hrun

/-- What a node that is loaded comes to. -/
theorem nodeRead_of_tree {depth : Nat} {data : Value} {t : Tree} {last : Log}
    (hrun : tree (depth + 1) data [] = .ok t last) : NodeRead depth data t last := by
  change nodeWith (node depth) [] data [] = .ok t last at hrun
  cases data with
  | object fields =>
      obtain ⟨own, first, hown, hrun⟩ := bind_eq_ok hrun
      obtain ⟨children, second, hchildren, hrun⟩ := bind_eq_ok hrun
      obtain ⟨chain, third, hchain, hrun⟩ := bind_eq_ok hrun
      cases hrun
      obtain ⟨hlabel, rfl⟩ := ofExcept_eq_ok hown
      obtain ⟨hchildrenList, ofChildren, hchildrenRead, hsecond⟩ := childrenRead_of_children hchildren
      obtain ⟨hchainList, ofChain, hchainRead, hthird⟩ := chainRead_of_chain hchain
      rw [List.nil_append] at hsecond
      rw [hsecond] at hthird
      refine ⟨⟨fields, rfl, hlabel⟩, fun found hfound => ?_, ofChildren, ofChain, hchildrenRead,
        hchainRead, hthird⟩
      cases hfound
      exact ⟨hchildrenList, hchainList⟩
  | _ => cases hrun

/-! ### A node that loads -/

theorem bind_of_ok {α β : Type} {x : Load α} {log mid : Log} {a : α} (hx : x log = .ok a mid)
    (f : α → Load β) : (x >>= f) log = f a mid := by
  change EStateM.bind x f log = f a mid
  rw [EStateM.bind, hx]

theorem childrenFrom_of_childrenRead {depth index : Nat} {items : List Value} {children : List Tree}
    {own : Log} (hread : ChildrenRead depth index items children own) (log : Log) :
    childrenFrom (node depth) [] index items log = .ok children (log ++ own) := by
  induction hread generalizing log with
  | nil =>
      rw [List.append_nil]
      rfl
  | @branch index item items children own hbranch _ ih =>
      have hreport : report (.branchSkipped [.child index]) log =
          .ok () (log ++ [.branchSkipped [.child index]]) := by rfl
      rw [List.append_cons, ← ih, childrenFrom, if_pos hbranch]
      exact bind_of_ok hreport _
  | @node index item items child children own rest hnode hchild _ ih =>
      rw [childrenFrom, if_neg (by simp [hnode]), bind_of_ok (node_of_tree hchild _ log),
        bind_of_ok (ih _), ← List.append_assoc]
      rfl

theorem chainFrom_of_chainRead {depth index : Nat} {items : List Value} {chain : List (Branch Tree)}
    {own : Log} (hread : ChainRead depth index items chain own) (log : Log) :
    chainFrom (node depth) [] index items log = .ok chain (log ++ own) := by
  induction hread generalizing log with
  | nil =>
      rw [List.append_nil]
      rfl
  | @lead index fields items chain own hblock _ ih =>
      have hnone : blockFrom (node depth) [] index fields log = .ok none log := by
        rw [blockFrom_eq, hblock]
        rfl
      rw [chainFrom, bind_of_ok hnone, bind_of_ok (ih log)]
      rfl
  | @block index fields data items block chain own rest hblock hdata _ ih =>
      have hsome : blockFrom (node depth) [] index fields log =
          .ok (some block) (log ++ own.map (Event.under [.block index])) := by
        rw [blockFrom_eq, hblock]
        dsimp only
        rw [map_eq_pure_bind, bind_of_ok (node_of_tree hdata _ log)]
        rfl
      rw [chainFrom, bind_of_ok hsome, bind_of_ok (ih _), ← List.append_assoc]
      rfl

/-- A node loads if its parts do. -/
theorem tree_of_nodeRead {depth : Nat} {data : Value} {t : Tree} {log : Log}
    (hread : NodeRead depth data t log) : tree (depth + 1) data [] = .ok t log := by
  obtain ⟨fields, rfl, hlabel⟩ := hread.label
  obtain ⟨hchildrenList, hchainList⟩ := hread.lists fields rfl
  obtain ⟨first, second, hchildren, hchain, rfl⟩ := hread.parts
  have hown : (liftM (Load.label [] fields) : Load Label) [] = .ok t.label [] := by
    rw [hlabel]
    rfl
  have hfirst : children (node depth) [] fields [] = .ok t.children first := by
    rw [children, hchildrenList]
    exact childrenFrom_of_childrenRead hchildren []
  have hsecond : chain (node depth) [] fields first = .ok t.chain (first ++ second) := by
    rw [chain, hchainList]
    exact chainFrom_of_chainRead hchain first
  show nodeWith (node depth) [] (.object fields) [] = _
  rw [nodeWith, bind_of_ok hown, bind_of_ok hfirst, bind_of_ok hsecond]
  cases t
  rfl

/-! ### A node that is malformed -/

/-- Where a malformed node stops: at itself, or at a child or block. All that is loaded before is sound.
A complaint about an entry of the chain comes when the children and the earlier blocks are loaded. -/
inductive Stops (depth : Nat) (data : Value) (cause : Malformed) : Location → Prop where
  | own (part : NodePart) (hearlier : ∀ k, part = .condition k → ∀ s w, s.Before (.block k) →
      data.follow? s = some w → LoadsAlone depth w) : Stops depth data cause (.tree [] part)
  | below {s : Step} {w : Value} {rest : Location} {log : Log} (hfollow : data.follow? s = some w)
      (hbelow : tree depth w [] = .error (.malformed cause rest) log)
      (hearlier : ∀ s' w', s'.Before s → data.follow? s' = some w' → LoadsAlone depth w') :
      Stops depth data cause (rest.under [s])

theorem ChildrenRead.loadsAlone {depth index : Nat} {items : List Value} {children : List Tree}
    {log : Log} (hread : ChildrenRead depth index items children log) :
    ∀ w ∈ items, isBranch w = false → LoadsAlone depth w := by
  induction hread with
  | nil => exact fun w hmem => absurd hmem List.not_mem_nil
  | branch hbranch _ ih =>
      intro w hmem hnode
      rcases List.mem_cons.mp hmem with rfl | hmem
      · rw [hbranch] at hnode
        cases hnode
      · exact ih w hmem hnode
  | node _ hchild _ ih =>
      intro w hmem hnode
      rcases List.mem_cons.mp hmem with rfl | hmem
      · exact ⟨_, _, hchild⟩
      · exact ih w hmem hnode

section Malformed

variable {depth index : Nat} {items : List Value} {log last : Log} {cause : Malformed}
  {location : Location}

/-- The children stop at the first one that is malformed. -/
theorem childrenFrom_malformed
    (hrun : childrenFrom (node depth) [] index items log = .error (.malformed cause location) last) :
    ∃ k w rest own, items[k]? = some w ∧ isBranch w = false
      ∧ tree depth w [] = .error (.malformed cause rest) own
      ∧ location = rest.under [.child (index + k)]
      ∧ ∀ j w', j < k → items[j]? = some w' → isBranch w' = false → LoadsAlone depth w' := by
  induction items generalizing index log with
  | nil => cases hrun
  | cons item items ih =>
      rw [childrenFrom] at hrun
      -- a later child is found by the induction, if the first one is not what stops
      have hlater : ∀ {mid : Log}, (isBranch item = false → LoadsAlone depth item) →
          childrenFrom (node depth) [] (index + 1) items mid = .error (.malformed cause location) last →
          ∃ k w rest own, (item :: items)[k]? = some w ∧ isBranch w = false
            ∧ tree depth w [] = .error (.malformed cause rest) own
            ∧ location = rest.under [.child (index + k)]
            ∧ ∀ j w', j < k → (item :: items)[j]? = some w' → isBranch w' = false →
              LoadsAlone depth w' := by
        intro mid hfirst hrun
        obtain ⟨k, w, rest, own, hw, hnode, hstops, hlocation, hearlier⟩ := ih hrun
        refine ⟨k + 1, w, rest, own, hw, hnode, hstops, ?_, ?_⟩
        · rw [hlocation, Nat.add_assoc, Nat.add_comm 1 k]
        · intro j w' hj hw' hnode'
          cases j with
          | zero =>
              cases hw'
              exact hfirst hnode'
          | succ j => exact hearlier j w' (Nat.lt_of_succ_lt_succ hj) hw' hnode'
      split at hrun
      · rename_i hbranch
        rcases bind_eq_error hrun with hreport | ⟨_, mid, -, hrun⟩
        · cases hreport
        · refine hlater (fun hnode => ?_) hrun
          rw [hbranch] at hnode
          cases hnode
      · rename_i hnode
        rcases bind_eq_error hrun with hchild | ⟨child, mid, hchild, hrun⟩
        · obtain ⟨rest, own, hstops, hlocation⟩ := tree_of_node_malformed (Nat.le_refl depth) hchild
          refine ⟨0, item, rest, own, rfl, Bool.eq_false_iff.mpr hnode, hstops, hlocation, ?_⟩
          exact fun j w' hj => absurd hj (Nat.not_lt_zero j)
        · rcases bind_eq_error hrun with hrest | ⟨others, mid', -, hdone⟩
          · obtain ⟨own, halone, -⟩ := tree_of_node (Nat.le_refl depth) hchild
            exact hlater (fun _ => ⟨child, own, halone⟩) hrest
          · cases hdone

theorem blockFrom_malformed {fields : Fields}
    (hrun : blockFrom (node depth) [] index fields log = .error (.malformed cause location) last) :
    ∃ data rest own, (Value.object fields).block? = some data
      ∧ tree depth data [] = .error (.malformed cause rest) own
      ∧ location = rest.under [.block index] := by
  rw [blockFrom_eq] at hrun
  cases hdata : (Value.object fields).block? with
  | none =>
      rw [hdata] at hrun
      cases hrun
  | some data =>
      rw [hdata] at hrun
      dsimp only at hrun
      rw [map_eq_pure_bind] at hrun
      rcases bind_eq_error hrun with hload | ⟨found, mid, -, hdone⟩
      · obtain ⟨rest, own, hstops, hlocation⟩ := tree_of_node_malformed (Nat.le_refl depth) hload
        exact ⟨data, rest, own, rfl, hstops, hlocation⟩
      · cases hdone

/-- The chain stops at the first entry that is no object or has a block that is malformed. -/
theorem chainFrom_malformed
    (hrun : chainFrom (node depth) [] index items log = .error (.malformed cause location) last) :
    ∃ k, (∀ j w, j < k → items[j]?.bind Value.block? = some w → LoadsAlone depth w)
      ∧ (location = .tree [] (.condition (index + k))
        ∨ ∃ w rest own, items[k]?.bind Value.block? = some w
          ∧ tree depth w [] = .error (.malformed cause rest) own
          ∧ location = rest.under [.block (index + k)]) := by
  induction items generalizing index log with
  | nil => cases hrun
  | cons item items ih =>
      have hfirst : ∀ j w, j < 0 → (item :: items)[j]?.bind Value.block? = some w →
          LoadsAlone depth w := fun j w hj => absurd hj (Nat.not_lt_zero j)
      cases item with
      | object fields =>
          rcases bind_eq_error hrun with hblock | ⟨block, mid, hblock, hrun⟩
          · exact ⟨0, hfirst, .inr (blockFrom_malformed hblock)⟩
          · rcases bind_eq_error hrun with hrest | ⟨others, mid', -, hdone⟩
            · obtain ⟨k, hearlier, hstops⟩ := ih hrest
              refine ⟨k + 1, ?_, ?_⟩
              · intro j w hj hw
                cases j with
                | zero =>
                    rcases blockFrom_eq_ok hblock with
                      ⟨hnone, -⟩ | ⟨data, found, own, hdata, -, halone, -⟩
                    · cases hnone.symm.trans hw
                    · cases hdata.symm.trans hw
                      exact ⟨found, own, halone⟩
                | succ j => exact hearlier j w (Nat.lt_of_succ_lt_succ hj) hw
              · rw [Nat.add_right_comm] at hstops
                exact hstops
            · cases hdone
      | _ =>
          cases hrun
          exact ⟨0, hfirst, .inl rfl⟩

theorem follow?_child_iff {data w : Value} {k : Nat} :
    data.follow? (.child k) = some w ↔ (data.items "children")[k]? = some w ∧ isBranch w = false :=
  Value.follow?_eq_some_iff

theorem follow?_block_iff {data w : Value} {k : Nat} :
    data.follow? (.block k) = some w ↔ (data.items "ifConditions")[k]?.bind Value.block? = some w := by
  rw [Value.follow?_eq_some_iff]
  exact and_iff_left rfl

theorem stops_of_children {fields : Fields}
    (hrun : children (node depth) [] fields log = .error (.malformed cause location) last) :
    Stops depth (.object fields) cause location := by
  rw [children] at hrun
  cases hitems : (fields.get "children").orElse (.list []) with
  | list items =>
      rw [hitems] at hrun
      obtain ⟨k, w, rest, own, hw, hnode, hstops, rfl, hearlier⟩ := childrenFrom_malformed hrun
      rw [← Value.items_object hitems] at hw hearlier
      rw [Nat.zero_add]
      refine .below (follow?_child_iff.mpr ⟨hw, hnode⟩) hstops ?_
      intro s' w' hbefore hfollow
      cases hbefore with
      | children hlt =>
          obtain ⟨hw', hnode'⟩ := follow?_child_iff.mp hfollow
          exact hearlier _ w' hlt hw' hnode'
  | _ =>
      rw [hitems] at hrun
      cases hrun
      exact .own .whole fun k hpart => absurd hpart (by simp)

theorem stops_of_chain {fields : Fields}
    (hchildren : ∀ w ∈ (Value.object fields).items "children", isBranch w = false → LoadsAlone depth w)
    (hrun : chain (node depth) [] fields log = .error (.malformed cause location) last) :
    Stops depth (.object fields) cause location := by
  rw [chain] at hrun
  cases hitems : (fields.get "ifConditions").orElse (.list []) with
  | list items =>
      rw [hitems] at hrun
      obtain ⟨k, hearlier, hstops⟩ := chainFrom_malformed hrun
      rw [← Value.items_object hitems] at hearlier hstops
      have hbefore : ∀ s' w', s'.Before (.block k) → (Value.object fields).follow? s' = some w' →
          LoadsAlone depth w' := by
        intro s' w' hbefore hfollow
        cases hbefore with
        | childBlock i =>
            obtain ⟨hw', hnode'⟩ := follow?_child_iff.mp hfollow
            exact hchildren w' (List.mem_of_getElem? hw') hnode'
        | blocks hlt => exact hearlier _ w' hlt (follow?_block_iff.mp hfollow)
      rw [Nat.zero_add] at hstops
      rcases hstops with rfl | ⟨w, rest, own, hw, hstops, rfl⟩
      · refine .own (.condition k) ?_
        intro k' hpart
        cases hpart
        exact hbefore
      · exact .below (follow?_block_iff.mpr hw) hstops hbefore
  | _ =>
      rw [hitems] at hrun
      cases hrun
      exact .own .whole fun k hpart => absurd hpart (by simp)

end Malformed

/-- Where a node that is malformed stops. -/
theorem stops_of_tree {depth : Nat} {data : Value} {cause : Malformed} {location : Location} {last : Log}
    (hrun : tree (depth + 1) data [] = .error (.malformed cause location) last) :
    Stops depth data cause location := by
  change nodeWith (node depth) [] data [] = .error (.malformed cause location) last at hrun
  cases data with
  | object fields =>
      rcases bind_eq_error hrun with hlabel | ⟨own, first, -, hrun⟩
      · change ofExcept (label [] fields) [] = _ at hlabel
        have halike := alike_label [] [] fields
        cases hown : label [] fields with
        | ok own =>
            rw [hown] at hlabel
            cases hlabel
        | error fault =>
            rw [hown] at halike hlabel
            cases halike with
            | complaint found part hpart =>
                cases hlabel
                exact .own part fun k heq => absurd heq (hpart k)
      · rcases bind_eq_error hrun with hchildren | ⟨children, second, hchildren, hrun⟩
        · exact stops_of_children hchildren
        · rcases bind_eq_error hrun with hchain | ⟨chain, third, -, hdone⟩
          · obtain ⟨-, own, hread, -⟩ := childrenRead_of_children hchildren
            exact stops_of_chain hread.loadsAlone hchain
          · cases hdone
  | _ =>
      cases hrun
      exact .own .whole fun k hpart => absurd hpart (by simp)

end Load

end MiniTemplate

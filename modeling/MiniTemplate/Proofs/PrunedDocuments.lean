import MiniTemplate.Proofs.StandingNodes
/-!
# Documents without their branches

A child that is marked as a later branch of a chain is left out by its mark alone; whether a chain has
it is not looked at. So the document without these children (`Value.pruned`) comes to the same tree, and
there is nothing to report about it (`tree_pruned_iff`). If a sibling has the same data for a block of
its chain, then the node of that block stands for the child. If none has, then the child is lost.
-/

namespace MiniTemplate

namespace Value

/-! ### Pruning -/

mutual

/-- The data of a node without the branches among its children and those of the nodes below it. -/
def pruned : Value → Value
  | .object fields => .object (prunedFields fields)
  | v => v

def prunedFields : List (String × Value) → List (String × Value)
  | [] => []
  | (key, v) :: fields => (key, prunedField key v) :: prunedFields fields

def prunedField (key : String) : Value → Value
  | .list items =>
    .list (if key = "children" then prunedChildren items
      else if key = "ifConditions" then prunedChain items else items)
  | v => v

def prunedChildren : List Value → List Value
  | [] => []
  | item :: items =>
    if Load.isBranch item then prunedChildren items else item.pruned :: prunedChildren items

def prunedChain : List Value → List Value
  | [] => []
  | item :: items => item.prunedEntry :: prunedChain items

def prunedEntry : Value → Value
  | .object fields => .object (prunedBlock fields)
  | v => v

def prunedBlock : List (String × Value) → List (String × Value)
  | [] => []
  | (key, v) :: fields => (key, if key = "block" then v.pruned else v) :: prunedBlock fields

end

end Value

/-! ### Fields of a pruned node -/

/-- A field of a map over an object is the image of the field. -/
theorem Fields.get?_map (f : String → Value → Value) (fields : Fields) (key : String) :
    Fields.get? (fields.map fun field => (field.1, f field.1 field.2)) key =
      (fields.get? key).map (f key) := by
  simp only [Fields.get?]
  induction fields with
  | nil => rfl
  | cons field fields ih =>
      rw [List.map_cons, List.lookup_cons, List.lookup_cons, ih]
      cases heq : key == field.1 with
      | false => rfl
      | true => rw [eq_of_beq heq, Option.map_some]

namespace Value

theorem prunedFields_eq_map (fields : Fields) :
    prunedFields fields = fields.map fun field => (field.1, prunedField field.1 field.2) := by
  induction fields with
  | nil => rfl
  | cons field fields ih =>
      rw [prunedFields, ih]
      rfl

theorem prunedBlock_eq_map (fields : Fields) :
    prunedBlock fields =
      fields.map fun field => (field.1, if field.1 = "block" then field.2.pruned else field.2) := by
  induction fields with
  | nil => rfl
  | cons field fields ih =>
      rw [prunedBlock, ih]
      rfl

theorem get_prunedFields (fields : Fields) (key : String) :
    Fields.get (prunedFields fields) key = prunedField key (fields.get key) := by
  rw [Fields.get, Fields.get, prunedFields_eq_map, Fields.get?_map]
  cases fields.get? key <;> rfl

theorem get_prunedBlock (fields : Fields) (key : String) :
    Fields.get (prunedBlock fields) key =
      if key = "block" then (fields.get key).pruned else fields.get key := by
  rw [Fields.get, Fields.get, prunedBlock_eq_map,
    Fields.get?_map fun key v => if key = "block" then v.pruned else v]
  cases fields.get? key with
  | none => split <;> rfl
  | some v => rfl

theorem get_prunedBlock_exp (fields : Fields) :
    Fields.get (prunedBlock fields) "exp" = fields.get "exp" :=
  get_prunedBlock fields "exp"

theorem prunedField_of_ne {key : String} (hchildren : key ≠ "children") (hchain : key ≠ "ifConditions")
    (v : Value) : prunedField key v = v := by
  cases v <;> simp [prunedField, hchildren, hchain]

theorem get?_prunedFields_of_ne {key : String} (hchildren : key ≠ "children")
    (hchain : key ≠ "ifConditions") (fields : Fields) :
    Fields.get? (prunedFields fields) key = fields.get? key := by
  rw [prunedFields_eq_map, Fields.get?_map, funext (prunedField_of_ne hchildren hchain), Option.map_id']

theorem truthy_get_prunedFields_chain (fields : Fields) :
    (Fields.get (prunedFields fields) "ifConditions").truthy = (fields.get "ifConditions").truthy := by
  rw [get_prunedFields]
  cases fields.get "ifConditions" with
  | list items => cases items <;> rfl
  | _ => rfl

theorem isBranch_pruned (v : Value) : Load.isBranch v.pruned = Load.isBranch v := by
  cases v with
  | object fields =>
      rw [pruned, Load.isBranch, Load.isBranch, get_prunedFields, get_prunedFields,
        prunedField_of_ne (by decide) (by decide), prunedField_of_ne (by decide) (by decide)]
  | _ => rfl

theorem block?_object (fields : Fields) :
    (Value.object fields).block? =
      if (fields.get "block").isNull then none else some (fields.get "block") := by
  rw [block?]
  cases fields.get "block" <;> rfl

/-- The block of a pruned entry is the block, pruned. -/
theorem block?_prunedBlock (fields : Fields) :
    (Value.object (prunedBlock fields)).block? = (Value.object fields).block?.map pruned := by
  rw [block?_object, block?_object, get_prunedBlock, if_pos rfl]
  cases fields.get "block" <;> rfl

theorem orElse_list (items : List Value) : (Value.list items).orElse (.list []) = .list items := by
  cases items <;> rfl

/-- What is taken for a list in a pruned node is what was, pruned. -/
theorem orElse_prunedField (key : String) (v : Value) :
    (prunedField key v).orElse (.list []) = prunedField key (v.orElse (.list [])) := by
  have hempty : prunedField key (.list []) = .list [] := by
    simp [prunedField, prunedChildren, prunedChain]
  have hother : ∀ w, prunedField key w = w →
      (prunedField key w).orElse (.list []) = prunedField key (w.orElse (.list [])) := by
    intro w hw
    rw [hw, orElse]
    split
    · exact hw.symm
    · exact hempty.symm
  cases v with
  | list items => rw [orElse_list, prunedField, orElse_list]
  | _ => exact hother _ rfl

/-- A pruned field is taken for a list only if the field is. -/
theorem exists_list_of_pruned {fields : Fields} {key : String} {found : List Value}
    (hfound : (Fields.get (prunedFields fields) key).orElse (.list []) = .list found) :
    ∃ items, (fields.get key).orElse (.list []) = .list items := by
  rw [get_prunedFields, orElse_prunedField] at hfound
  cases hitems : (fields.get key).orElse (.list []) with
  | list items => exact ⟨items, rfl⟩
  | _ =>
      rw [hitems] at hfound
      exact nomatch hfound

theorem orElse_get_children {fields : Fields} {items : List Value}
    (hitems : (fields.get "children").orElse (.list []) = .list items) :
    (Fields.get (prunedFields fields) "children").orElse (.list []) = .list (prunedChildren items) := by
  rw [get_prunedFields, orElse_prunedField, hitems]
  rfl

theorem orElse_get_chain {fields : Fields} {items : List Value}
    (hitems : (fields.get "ifConditions").orElse (.list []) = .list items) :
    (Fields.get (prunedFields fields) "ifConditions").orElse (.list []) = .list (prunedChain items) := by
  rw [get_prunedFields, orElse_prunedField, hitems]
  rfl

end Value

namespace Load

/-- A label does not depend on the children, and of the chain only on whether there is one. -/
theorem label_congr {fields fields' : Fields}
    (hown : ∀ key, key ≠ "children" → key ≠ "ifConditions" → fields.get? key = fields'.get? key)
    (hchain : (fields.get "ifConditions").truthy = (fields'.get "ifConditions").truthy) (place : Place) :
    label place fields = label place fields' := by
  have hget : ∀ key, key ≠ "children" → key ≠ "ifConditions" → fields.get key = fields'.get key := by
    intro key hchildren hchain
    rw [Fields.get, Fields.get, hown key hchildren hchain]
  simp only [label, nodeType, elementLabel, textLabel, attributes, listeners, loopOf, chainDone]
  simp [hchain, hget, hown]

theorem label_prunedFields (place : Place) (fields : Fields) :
    label place (Value.prunedFields fields) = label place fields :=
  label_congr (fun _ hchildren hchain => Value.get?_prunedFields_of_ne hchildren hchain fields)
    (Value.truthy_get_prunedFields_chain fields) place

/-! ### Loading a pruned node -/

section Pruned

variable {depth index : Nat} {items : List Value} {children : List Tree} {chain : List (Branch Tree)}
  {log : Log}

/-- The children of the pruned node are loaded alike, with nothing to report. -/
theorem ChildrenRead.pruned
    (hnodes : ∀ w u own, tree depth w [] = .ok u own → tree depth w.pruned [] = .ok u [])
    (hread : ChildrenRead depth index items children log) (index' : Nat) :
    ChildrenRead depth index' (Value.prunedChildren items) children [] := by
  -- a child that is left out takes a number in the document, but none in the pruned one
  induction hread generalizing index' with
  | nil => exact .nil index'
  | branch hbranch _ ih =>
      rw [Value.prunedChildren, if_pos hbranch]
      exact ih index'
  | node hnode hchild _ ih =>
      rw [Value.prunedChildren, if_neg (by simp [hnode])]
      have hpruned := hnodes _ _ _ hchild
      exact .node (by rw [Value.isBranch_pruned, hnode]) hpruned (ih (index' + 1))

theorem ChildrenRead.of_pruned {index' : Nat}
    (hnodes : ∀ w u own, tree depth w.pruned [] = .ok u own → ∃ own', tree depth w [] = .ok u own')
    (hread : ChildrenRead depth index' (Value.prunedChildren items) children log) :
    ∃ log', ChildrenRead depth index items children log' := by
  induction items generalizing index index' children log with
  | nil =>
      cases hread
      exact ⟨[], .nil index⟩
  | cons item items ih =>
      rw [Value.prunedChildren] at hread
      split at hread
      · rename_i hbranch
        obtain ⟨rest, hrest⟩ := ih hread
        exact ⟨_, .branch hbranch hrest⟩
      · rename_i hnode
        cases hread with
        | branch hbranch =>
            rw [Value.isBranch_pruned] at hbranch
            exact absurd hbranch hnode
        | node _ hchild hread =>
            obtain ⟨own, hchild⟩ := hnodes _ _ _ hchild
            obtain ⟨rest, hrest⟩ := ih hread
            exact ⟨_, .node (Bool.eq_false_iff.mpr hnode) hchild hrest⟩

theorem ChainRead.pruned
    (hnodes : ∀ w u own, tree depth w [] = .ok u own → tree depth w.pruned [] = .ok u [])
    (hread : ChainRead depth index items chain log) :
    ChainRead depth index (Value.prunedChain items) chain [] := by
  induction hread with
  | nil => exact .nil _
  | lead hblock _ ih =>
      rw [Value.prunedChain, Value.prunedEntry, ← Value.get_prunedBlock_exp]
      exact .lead (by rw [Value.block?_prunedBlock, hblock]; rfl) ih
  | block hblock hdata _ ih =>
      rw [Value.prunedChain, Value.prunedEntry, ← Value.get_prunedBlock_exp]
      have hpruned := hnodes _ _ _ hdata
      exact .block (by rw [Value.block?_prunedBlock, hblock]; rfl) hpruned ih

theorem ChainRead.of_pruned
    (hnodes : ∀ w u own, tree depth w.pruned [] = .ok u own → ∃ own', tree depth w [] = .ok u own')
    (hread : ChainRead depth index (Value.prunedChain items) chain log) :
    ∃ log', ChainRead depth index items chain log' := by
  induction items generalizing index chain log with
  | nil =>
      cases hread
      exact ⟨[], .nil index⟩
  | cons item items ih =>
      cases item with
      | object fields =>
          rw [Value.prunedChain, Value.prunedEntry] at hread
          cases hread with
          | lead hblock hread =>
              rw [Value.block?_prunedBlock, Option.map_eq_none_iff] at hblock
              obtain ⟨rest, hrest⟩ := ih hread
              rw [Value.get_prunedBlock_exp]
              exact ⟨_, .lead hblock hrest⟩
          | block hblock hdata hread =>
              rw [Value.block?_prunedBlock, Option.map_eq_some_iff] at hblock
              obtain ⟨data, hblock, rfl⟩ := hblock
              obtain ⟨own, hdata⟩ := hnodes _ _ _ hdata
              obtain ⟨rest, hrest⟩ := ih hread
              rw [Value.get_prunedBlock_exp]
              exact ⟨_, .block hblock hdata hrest⟩
      | _ => cases hread

end Pruned

theorem tree_pruned {depth : Nat} {data : Value} {t : Tree} {log : Log}
    (hrun : tree depth data [] = .ok t log) : tree depth data.pruned [] = .ok t [] := by
  induction depth generalizing data t log with
  | zero => exact nomatch hrun
  | succ depth ih =>
      have hread := nodeRead_of_tree hrun
      obtain ⟨fields, rfl, hlabel⟩ := hread.label
      obtain ⟨hchildrenList, hchainList⟩ := hread.lists fields rfl
      obtain ⟨first, second, hchildren, hchain, -⟩ := hread.parts
      have hprunedChildren := Value.orElse_get_children hchildrenList
      have hprunedChain := Value.orElse_get_chain hchainList
      apply tree_of_nodeRead
      refine ⟨⟨_, rfl, by rw [label_prunedFields, hlabel]⟩, ?_, [], [], ?_, ?_, rfl⟩
      · intro found hfound
        cases hfound
        rw [Value.pruned, Value.items_object hprunedChildren, Value.items_object hprunedChain]
        exact ⟨hprunedChildren, hprunedChain⟩
      · rw [Value.pruned, Value.items_object hprunedChildren]
        exact hchildren.pruned (fun _ _ _ => ih) 0
      · rw [Value.pruned, Value.items_object hprunedChain]
        exact hchain.pruned fun _ _ _ => ih

theorem tree_of_pruned {depth : Nat} {data : Value} {t : Tree} {log : Log}
    (hrun : tree depth data.pruned [] = .ok t log) : ∃ own, tree depth data [] = .ok t own := by
  induction depth generalizing data t log with
  | zero => exact nomatch hrun
  | succ depth ih =>
      have hread := nodeRead_of_tree hrun
      obtain ⟨found, hdata, hlabel⟩ := hread.label
      obtain ⟨hchildrenList, hchainList⟩ := hread.lists found hdata
      obtain ⟨first, second, hchildren, hchain, -⟩ := hread.parts
      cases data with
      | object fields =>
          cases hdata
          obtain ⟨items, hitems⟩ := Value.exists_list_of_pruned hchildrenList
          obtain ⟨entries, hentries⟩ := Value.exists_list_of_pruned hchainList
          rw [Value.pruned, Value.items_object (Value.orElse_get_children hitems)] at hchildren
          rw [Value.pruned, Value.items_object (Value.orElse_get_chain hentries)] at hchain
          obtain ⟨own, hchildren⟩ := hchildren.of_pruned fun _ _ _ => ih
          obtain ⟨other, hchain⟩ := hchain.of_pruned fun _ _ _ => ih
          rw [label_prunedFields] at hlabel
          refine ⟨own ++ other, tree_of_nodeRead ⟨⟨fields, rfl, hlabel⟩, ?_, own, other, ?_, ?_, rfl⟩⟩
          · intro found hfound
            cases hfound
            rw [Value.items_object hitems, Value.items_object hentries]
            exact ⟨hitems, hentries⟩
          · rw [Value.items_object hitems]
            exact hchildren
          · rw [Value.items_object hentries]
            exact hchain
      | _ => exact nomatch hdata

/-- **A document comes to a tree exactly if it does so without its branches**, and of these nothing is
reported then. -/
theorem tree_pruned_iff {depth : Nat} {data : Value} {t : Tree} {log : Log} :
    (∃ last, tree depth data log = .ok t last) ↔ tree depth data.pruned log = .ok t log := by
  constructor
  · intro hrun
    obtain ⟨last, hrun⟩ := hrun
    obtain ⟨own, halone, -⟩ := tree_of_node (Nat.le_refl depth) hrun
    have hpruned := node_of_tree (tree_pruned halone) [] log
    rw [List.map_nil, List.append_nil] at hpruned
    exact hpruned
  · intro hpruned
    obtain ⟨own, halone, -⟩ := tree_of_node (Nat.le_refl depth) hpruned
    obtain ⟨own, hdata⟩ := tree_of_pruned halone
    exact ⟨_, node_of_tree hdata [] log⟩

/-! ### Branches that a sibling owns -/

/-- **Branches are left out by their mark.** The document without them comes to the same tree; the
children of a node are those without a mark. A branch that is the block of an entry of a sibling is kept
there, if the sibling is loaded: at the place of that block stands what the branch comes to alone. -/
theorem branches_left_out {depth : Nat} {data : Value} {t : Tree} {log last : Log}
    (hrun : tree depth data log = .ok t last) :
    tree depth data.pruned log = .ok t log
      ∧ ∀ place v, data.loadedAt? place = some v →
        (t.graph (data.standing place)).children =
            ((v.items "children").zipIdx.filter fun item => !isBranch item.1).map (fun item =>
              data.standing (place ++ [.child item.2]))
          ∧ ∀ i branch, v.step? (.child i) = some branch → isBranch branch = true →
            data.loadedAt? (place ++ [.child i]) = none
            ∧ ∀ j k, v.loadedAt? [.child j, .block k] = some branch →
              ∃ u own, t.at? (data.standing (place ++ [.child j, .block k])) = some u
                ∧ tree depth branch [] = .ok u own := by
  obtain ⟨own, halone, -⟩ := tree_of_node (Nat.le_refl depth) hrun
  refine ⟨tree_pruned_iff.mp ⟨last, hrun⟩, fun place v hat => ⟨?_, fun i branch hi hbranch => ⟨?_, ?_⟩⟩⟩
  · exact (stands_of_loadedAt? halone hat).children
  · rw [Value.loadedAt?_snoc hat]
    exact Value.follow?_eq_none_of_skips hi hbranch
  · intro j k howned
    apply at?_standing halone
    rw [Value.loadedAt?_append, hat]
    exact howned

/-- A branch that stands among the children and as the block of an entry. -/
def alternative : Value :=
  .object [("tag", .str "i"), ("else", .bool true), ("children", .list [.object [("type", .int 3)]])]

/-- The first child leads a chain, and the second one is its branch. -/
def alternatives : Value :=
  .object
    [("tag", .str "div"),
      ("children", .list
        [.object
            [("tag", .str "p"),
              ("ifConditions", .list
                [.object [("exp", .str "a")], .object [("block", alternative)]])],
          alternative, .object [("type", .int 3), ("text", .str "end")]])]

theorem branches_left_out_alternatives :
    ∃ t, tree 4 alternatives [] = .ok t [.branchSkipped [.child 1]]
      ∧ tree 4 alternatives.pruned [] = .ok t []
      ∧ (t.graph []).children = [[.child 0], [.child 1]]
      ∧ ∃ u own, t.at? [.child 0, .block 1] = some u ∧ tree 4 alternative [] = .ok u own := by
  have hrun : ∃ t, tree 4 alternatives [] = .ok t [.branchSkipped [.child 1]] := ⟨_, rfl⟩
  obtain ⟨t, hrun⟩ := hrun
  obtain ⟨hpruned, hplaces⟩ := branches_left_out hrun
  obtain ⟨hchildren, hbranches⟩ := hplaces [] alternatives rfl
  obtain ⟨-, howned⟩ := hbranches 1 alternative rfl rfl
  exact ⟨t, hrun, hpruned, hchildren, howned 0 1 rfl⟩

/-- A branch with no chain that it could belong to. -/
def orphan : Value :=
  .object [("type", .int 3), ("text", .str "Lost"), ("else", .bool true)]

def orphaned : Value :=
  .object [("tag", .str "div"), ("children", .list [orphan])]

/-- The orphan is left out, although it is no block of a sibling; nothing of it is in the tree. -/
theorem orphan_lost :
    orphaned.step? (.child 0) = some orphan ∧ isBranch orphan = true
      ∧ (∀ j k, orphaned.at? [.child j, .block k] ≠ some orphan)
      ∧ ∃ t, tree 2 orphaned [] = .ok t [.branchSkipped [.child 0]]
        ∧ t.children = [] ∧ t.chain = [] := by
  refine ⟨rfl, rfl, ?_, _, rfl, rfl, rfl⟩
  intro j k hsome
  cases j with
  | zero => cases hsome
  | succ j => cases hsome

end Load

end MiniTemplate

import MiniTemplate.Load.Tree
import MiniTemplate.Proofs.BracketNesting
import MiniTemplate.Proofs.TreeGraph
/-!
# Loaded trees

A node is built from nodes that were loaded one level deeper, so the height of a loaded tree is
bounded by the depth at which nodes are refused, and all its labels are such as are loaded. The data of
a node is a part of the data of the tree, so what the parts of a value have from the whole, holds of the
data of every node.
-/

namespace MiniTemplate

/-- A value that stands somewhere in another one. -/
inductive Value.Part : Value → Value → Prop where
  | whole (v : Value) : Part v v
  | item {v item : Value} {items : List Value} (hmem : item ∈ items) (hpart : Part v item) :
      Part v (.list items)
  | field {v : Value} {fields : Fields} {field : String × Value} (hmem : field ∈ fields)
      (hpart : Part v field.2) : Part v (.object fields)

theorem Value.Part.trans {first second third : Value} (hfirst : first.Part second)
    (hsecond : second.Part third) : first.Part third := by
  induction hsecond with
  | whole => exact hfirst
  | item hmem _ ih => exact .item hmem ih
  | field hmem _ ih => exact .field hmem ih

namespace Fields

/-- A field is null, or its value is a part of the object. -/
theorem part_get (fields : Fields) (key : String) :
    fields.get key = .null ∨ (fields.get key).Part (.object fields) := by
  rw [get]
  cases hget : fields.get? key with
  | none => exact .inl rfl
  | some value => exact .inr (.field (mem_of_get? hget) (.whole value))

/-- The items of a field that should be a list, and may be missing. -/
theorem part_of_mem {fields : Fields} {key : String} {items : List Value} {item : Value}
    (hitems : (fields.get key).orElse (.list []) = .list items) (hmem : item ∈ items) :
    item.Part (.object fields) := by
  rw [Value.orElse] at hitems
  split at hitems
  · rcases part_get fields key with hnull | hpart
    · rw [hnull] at hitems
      cases hitems
    · rw [hitems] at hpart
      exact (Value.Part.item hmem (.whole item)).trans hpart
  · cases hitems
    exact absurd hmem List.not_mem_nil

end Fields

namespace Load

theorem bind_eq_ok {α β : Type} {x : Load α} {f : α → Load β} {log last : Log} {b : β}
    (hbind : (x >>= f) log = .ok b last) : ∃ a mid, x log = .ok a mid ∧ f a mid = .ok b last := by
  change EStateM.bind x f log = _ at hbind
  rw [EStateM.bind] at hbind
  cases hx : x log with
  | error fault mid =>
      rw [hx] at hbind
      exact nomatch hbind
  | ok a mid =>
      rw [hx] at hbind
      exact ⟨a, mid, rfl, hbind⟩

/-- The trees that a way of loading gives, from a part of some data. -/
def Loads (load : Place → Value → Load Tree) (whole : Value) (t : Tree) : Prop :=
  ∃ place data log last, data.Part whole ∧ load place data log = .ok t last

variable {load : Place → Value → Load Tree} {whole : Value}

theorem loads_of_mem_childrenFrom {place : Place} {index : Nat} {items : List Value}
    (hitems : ∀ item ∈ items, item.Part whole) {log last : Log} {children : List Tree}
    (hrun : childrenFrom load place index items log = .ok children last) :
    ∀ child ∈ children, Loads load whole child := by
  induction items generalizing index log children with
  | nil =>
      cases hrun
      exact fun child hmem => absurd hmem List.not_mem_nil
  | cons item items ih =>
      obtain ⟨hitem, hrests⟩ := List.forall_mem_cons.mp hitems
      rw [childrenFrom] at hrun
      split at hrun
      · obtain ⟨-, mid, -, hrun⟩ := bind_eq_ok hrun
        exact ih hrests hrun
      · obtain ⟨first, mid, hfirst, hrun⟩ := bind_eq_ok hrun
        obtain ⟨rest, mid', hrest, hrun⟩ := bind_eq_ok hrun
        cases hrun
        intro child hmem
        rcases List.mem_cons.mp hmem with rfl | hmem
        · exact ⟨_, item, _, _, hitem, hfirst⟩
        · exact ih hrests hrest child hmem

theorem loads_of_blockFrom {place : Place} {index : Nat} {fields : Fields} {log last : Log}
    {block : Tree} (hrun : blockFrom load place index fields log = .ok (some block) last) :
    Loads load (.object fields) block := by
  rcases fields.part_get "block" with hnull | hpart
  · rw [blockFrom, hnull] at hrun
    cases hrun
  · have hsome : blockFrom load place index fields = pure none
        ∨ blockFrom load place index fields =
          some <$> load (place ++ [.block index]) (fields.get "block") := by
      rw [blockFrom]
      split
      · exact .inl rfl
      · exact .inr rfl
    rcases hsome with hnone | hsome
    · rw [hnone] at hrun
      cases hrun
    · rw [hsome, map_eq_pure_bind] at hrun
      obtain ⟨found, mid, hfound, hrun⟩ := bind_eq_ok hrun
      cases hrun
      exact ⟨_, _, _, _, hpart, hfound⟩

theorem Loads.within {part : Value} {t : Tree} (hloads : Loads load part t) (hpart : part.Part whole) :
    Loads load whole t := by
  obtain ⟨place, data, log, last, hdata, hrun⟩ := hloads
  exact ⟨place, data, log, last, hdata.trans hpart, hrun⟩

theorem loads_of_mem_chainFrom {place : Place} {index : Nat} {items : List Value}
    (hitems : ∀ item ∈ items, item.Part whole) {log last : Log} {branches : List (Branch Tree)}
    (hrun : chainFrom load place index items log = .ok branches last) :
    ∀ branch ∈ branches, ∀ block, branch.block = some block → Loads load whole block := by
  induction items generalizing index log branches with
  | nil =>
      cases hrun
      exact fun branch hmem => absurd hmem List.not_mem_nil
  | cons item items ih =>
      obtain ⟨hitem, hrests⟩ := List.forall_mem_cons.mp hitems
      cases item with
      | object fields =>
          obtain ⟨found, mid, hfound, hrun⟩ := bind_eq_ok hrun
          obtain ⟨rest, mid', hrest, hrun⟩ := bind_eq_ok hrun
          cases hrun
          intro branch hmem block hblock
          rcases List.mem_cons.mp hmem with rfl | hmem
          · change found = some block at hblock
            exact (loads_of_blockFrom (hblock ▸ hfound)).within hitem
          · exact ih hrests hrest branch hmem block hblock
      | _ => exact nomatch hrun

theorem loads_of_nodeWith {place : Place} {data : Value} {log last : Log} {t : Tree}
    (hrun : nodeWith load place data log = .ok t last) :
    (∀ child ∈ t.children, Loads load data child)
      ∧ ∀ branch ∈ t.chain, ∀ block, branch.block = some block → Loads load data block := by
  cases data with
  | object fields =>
      obtain ⟨own, first, -, hrun⟩ := bind_eq_ok hrun
      obtain ⟨children, second, hchildren, hrun⟩ := bind_eq_ok hrun
      obtain ⟨chain, third, hchain, hrun⟩ := bind_eq_ok hrun
      cases hrun
      constructor
      · rw [Load.children] at hchildren
        cases hitems : (Fields.get fields "children").orElse (.list []) with
        | list items =>
            rw [hitems] at hchildren
            exact loads_of_mem_childrenFrom (fun item => Fields.part_of_mem hitems) hchildren
        | _ =>
            rw [hitems] at hchildren
            exact nomatch hchildren
      · rw [Load.chain] at hchain
        cases hitems : (Fields.get fields "ifConditions").orElse (.list []) with
        | list items =>
            rw [hitems] at hchain
            exact loads_of_mem_chainFrom (fun item => Fields.part_of_mem hitems) hchain
        | _ =>
            rw [hitems] at hchain
            exact nomatch hchain
  | _ => exact nomatch hrun

/-- A tree that was loaded is no higher than the limit. -/
theorem height_le_of_node {depth : Nat} {place : Place} {data : Value} {log last : Log} {t : Tree}
    (hrun : node depth place data log = .ok t last) : t.height ≤ depth := by
  induction depth generalizing place data log last t with
  | zero => exact nomatch hrun
  | succ depth ih =>
      obtain ⟨hchildren, hchain⟩ := loads_of_nodeWith hrun
      rw [Tree.height_le_succ_iff]
      constructor
      · intro child hmem
        obtain ⟨place, data, log, last, -, hchild⟩ := hchildren child hmem
        exact ih hchild
      · intro branch hmem block hblock
        obtain ⟨place, data, log, last, -, hload⟩ := hchain branch hmem block hblock
        exact ih hload

theorem label_of_nodeWith {place : Place} {data : Value} {log last : Log} {t : Tree}
    (hrun : nodeWith load place data log = .ok t last) :
    ∃ fields, data = .object fields ∧ label place fields = .ok t.label := by
  cases data with
  | object fields =>
      obtain ⟨own, first, hown, hrun⟩ := bind_eq_ok hrun
      obtain ⟨children, second, -, hrun⟩ := bind_eq_ok hrun
      obtain ⟨chain, third, -, hrun⟩ := bind_eq_ok hrun
      cases hrun
      refine ⟨fields, rfl, ?_⟩
      change ofExcept (label place fields) log = _ at hown
      cases hlabel : label place fields with
      | error fault =>
          rw [hlabel] at hown
          exact nomatch hown
      | ok found =>
          rw [hlabel] at hown
          cases hown
          rfl
  | _ => exact nomatch hrun

theorem guard_of_chainFrom {place : Place} {index : Nat} {items : List Value} {log last : Log}
    {branches : List (Branch Tree)}
    (hrun : chainFrom load place index items log = .ok branches last) :
    ∀ k branch, branches[k]? = some branch → branch.guard = guardAt (index + k) branch.test := by
  induction items generalizing index log branches with
  | nil =>
      cases hrun
      exact fun k branch hbranch => nomatch hbranch
  | cons item items ih =>
      cases item with
      | object fields =>
          obtain ⟨found, mid, -, hrun⟩ := bind_eq_ok hrun
          obtain ⟨rest, mid', hrest, hrun⟩ := bind_eq_ok hrun
          cases hrun
          intro k branch hbranch
          cases k with
          | zero =>
              cases hbranch
              rfl
          | succ k =>
              rw [Nat.add_comm k 1, ← Nat.add_assoc]
              exact ih hrest k branch hbranch
      | _ => exact nomatch hrun

/-- The guards of a chain that was loaded are given by the positions of its entries and their tests. -/
theorem guard_of_nodeWith {place : Place} {data : Value} {log last : Log} {t : Tree}
    (hrun : nodeWith load place data log = .ok t last) :
    ∀ k branch, t.chain[k]? = some branch → branch.guard = guardAt k branch.test := by
  cases data with
  | object fields =>
      obtain ⟨own, first, -, hrun⟩ := bind_eq_ok hrun
      obtain ⟨children, second, -, hrun⟩ := bind_eq_ok hrun
      obtain ⟨chain, third, hchain, hrun⟩ := bind_eq_ok hrun
      cases hrun
      rw [Load.chain] at hchain
      cases hitems : (Fields.get fields "ifConditions").orElse (.list []) with
      | list items =>
          rw [hitems] at hchain
          intro k branch hbranch
          rw [guard_of_chainFrom hchain k branch hbranch, Nat.zero_add]
      | _ =>
          rw [hitems] at hchain
          exact nomatch hchain
  | _ => exact nomatch hrun

/-- What holds of every node that is loaded from fit data holds everywhere in a tree that was loaded
from such data, if the parts of what is fit are fit. -/
theorem everywhere_of_fit {fit : Value → Prop} {holds : Tree → Prop}
    (hfit : ∀ {part whole : Value}, part.Part whole → fit whole → fit part)
    (hnode : ∀ {load place data log last t}, fit data → nodeWith load place data log = .ok t last →
      holds t)
    {depth : Nat} {place : Place} {data : Value} {log last : Log} {t : Tree} (hdata : fit data)
    (hrun : node depth place data log = .ok t last) : t.Everywhere holds := by
  induction depth generalizing place data log last t with
  | zero => exact nomatch hrun
  | succ depth ih =>
      obtain ⟨hchildren, hchain⟩ := loads_of_nodeWith hrun
      refine Tree.everywhere_iff.mpr ⟨hnode hdata hrun, ?_, ?_⟩
      · intro child hmem
        obtain ⟨place, part, log, last, hpart, hchild⟩ := hchildren child hmem
        exact ih (hfit hpart hdata) hchild
      · intro branch hmem block hblock
        obtain ⟨place, part, log, last, hpart, hload⟩ := hchain branch hmem block hblock
        exact ih (hfit hpart hdata) hload

/-- What holds of every node that is loaded holds everywhere in a tree that was loaded. -/
theorem everywhere_of_nodeWith {holds : Tree → Prop}
    (hnode : ∀ {load place data log last t}, nodeWith load place data log = .ok t last → holds t)
    {depth : Nat} {place : Place} {data : Value} {log last : Log} {t : Tree}
    (hrun : node depth place data log = .ok t last) : t.Everywhere holds := by
  have hany : ∀ {part whole : Value}, part.Part whole → True → True := fun _ _ => trivial
  exact everywhere_of_fit hany (fun _ => hnode) trivial hrun

/-- What holds of every label that is loaded holds everywhere in a tree that was loaded. -/
theorem everywhere_of_node {holds : Label → Prop}
    (hlabel : ∀ {place fields own}, label place fields = .ok own → holds own) {depth : Nat}
    {place : Place} {data : Value} {log last : Log} {t : Tree}
    (hrun : node depth place data log = .ok t last) : t.Everywhere fun u => holds u.label := by
  refine everywhere_of_nodeWith (fun hnode => ?_) hrun
  obtain ⟨fields, -, hown⟩ := label_of_nodeWith hnode
  exact hlabel hown

end Load

end MiniTemplate

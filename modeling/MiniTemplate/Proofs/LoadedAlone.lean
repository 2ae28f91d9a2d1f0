import MiniTemplate.Proofs.DocumentPositions
/-!
# Loading a part of a document by itself

A node is loaded in the same way wherever it stands: the place shows only in the complaints and in what
is reported, and there as the beginning of every place (`moved`). So what a node comes to inside of a
document is what it comes to alone (`echoes_node`). Alone it may also nest deeper before it is refused,
for the levels above it are not counted.
-/

namespace MiniTemplate

/-! ### Places below a place -/

def Location.under (place : Place) : Location → Location
  | .tree rest part => .tree (place ++ rest) part
  | location => location

def LoadFault.under (place : Place) : LoadFault → LoadFault
  | .malformed cause location => .malformed cause (location.under place)
  | .tooDeep => .tooDeep

def Event.under (place : Place) : Event → Event
  | .branchSkipped rest => .branchSkipped (place ++ rest)
  | event => event

@[simp] theorem Location.under_nil (location : Location) : location.under [] = location := by
  cases location <;> rfl

@[simp] theorem LoadFault.under_nil (fault : LoadFault) : fault.under [] = fault := by
  cases fault <;> simp [LoadFault.under]

@[simp] theorem Event.under_nil (event : Event) : event.under [] = event := by
  cases event <;> rfl

namespace Load

/-! ### Labels -/

/-- Two steps towards a label give the same, or complain of the same, each about its own node and not
about its chain. -/
inductive Alike {α : Type} (here there : Place) :
    Except LoadFault α → Except LoadFault α → Prop where
  | ok (a : α) : Alike here there (.ok a) (.ok a)
  | complaint (cause : Malformed) (part : NodePart) (hpart : ∀ k, part ≠ .condition k) :
      Alike here there (Load.complaint here cause part) (Load.complaint there cause part)

namespace Alike

variable {α β : Type} {here there : Place}

theorem bind {x y : Except LoadFault α} {f g : α → Except LoadFault β} (hx : Alike here there x y)
    (hf : ∀ a, Alike here there (f a) (g a)) : Alike here there (x >>= f) (y >>= g) := by
  cases hx with
  | ok a => exact hf a
  | complaint cause part hpart => exact .complaint cause part hpart

theorem mapM {items : List α} {f g : α → Except LoadFault β}
    (hf : ∀ a, Alike here there (f a) (g a)) : Alike here there (items.mapM f) (items.mapM g) := by
  induction items with
  | nil => exact .ok []
  | cons a items ih =>
      rw [List.mapM_cons, List.mapM_cons]
      exact (hf a).bind fun b => ih.bind fun bs => .ok (b :: bs)

end Alike

section Labels

variable (here there : Place) (fields : Fields)

theorem alike_nodeType : Alike here there (nodeType here fields) (nodeType there fields) := by
  simp only [nodeType]
  cases NodeType.ofValue? ((fields.get? "type").getD (.int 1)) with
  | some type => exact .ok type
  | none => exact .complaint _ .whole nofun

theorem alike_attributesFrom (index : Nat) (items : List Value) :
    Alike here there (attributesFrom here index items) (attributesFrom there index items) := by
  induction items generalizing index with
  | nil => exact .ok []
  | cons item items ih =>
      have hrest : ∀ attr : Attribute, Alike here there
          (attributesFrom here (index + 1) items >>= fun attrs => .ok (attr :: attrs))
          (attributesFrom there (index + 1) items >>= fun attrs => .ok (attr :: attrs)) :=
        fun attr => (ih (index + 1)).bind fun attrs => .ok (attr :: attrs)
      have hnameless : Alike here there
          (complaint here .attributeWithoutName (.attr index) : Except LoadFault Attribute)
          (complaint there .attributeWithoutName (.attr index)) :=
        .complaint .attributeWithoutName (.attr index) nofun
      cases item with
      | object fields =>
          rw [attributesFrom, attributesFrom]
          cases Fields.get? fields "name" with
          | some name => exact (Alike.ok _).bind hrest
          | none => exact hnameless.bind hrest
      | _ => exact hnameless.bind hrest

theorem alike_attributes : Alike here there (attributes here fields) (attributes there fields) := by
  rw [attributes, attributes]
  split
  · exact alike_attributesFrom here there 0 _
  · exact .complaint .attributesNotList .whole nofun

theorem alike_listener (event : String) (handler : Value) :
    Alike here there (listener here event handler) (listener there event handler) := by
  rw [listener, listener]
  split
  · split
    · exact .ok _
    · exact .complaint (.modifiersNotObject event) .events nofun
  · exact .complaint (.listenerNotObject event) .events nofun

theorem alike_listeners : Alike here there (listeners here fields) (listeners there fields) := by
  rw [listeners, listeners]
  cases fields.get "events" with
  | null => exact .ok none
  | object events =>
      have hall : Alike here there
          (events.mapM fun event => listener here event.1 event.2)
          (events.mapM fun event => listener there event.1 event.2) :=
        .mapM fun event => alike_listener here there event.1 event.2
      exact hall.bind fun found => .ok (some found)
  | _ => exact .complaint .eventsNotObject .whole nofun

theorem alike_elementLabel :
    Alike here there (elementLabel here fields) (elementLabel there fields) := by
  rw [elementLabel, elementLabel]
  cases fields.get "tag" with
  | str tag =>
      exact (Alike.ok tag).bind fun tag => (alike_attributes here there fields).bind fun attrs =>
        (alike_listeners here there fields).bind fun events => .ok _
  | _ => exact .complaint .tagNotText .whole nofun

/-- What a label is does not depend on where it stands. -/
theorem alike_label : Alike here there (label here fields) (label there fields) := by
  refine (alike_nodeType here there fields).bind fun type => ?_
  cases type with
  | element => exact alike_elementLabel here there fields
  | expression => exact .ok _
  | text => exact .ok _

end Labels

/-! ### Nodes -/

/-- The end of an attempt to load, as it is below a place and after other reports. -/
def moved {α : Type} (place : Place) (log : Log) :
    EStateM.Result LoadFault Log α → EStateM.Result LoadFault Log α
  | .ok a last => .ok a (log ++ last.map (Event.under place))
  | .error fault last => .error (fault.under place) (log ++ last.map (Event.under place))

/-- The first attempt does below a place what the second does alone. Where the second may nest deeper
by `more` levels, the first may be refused for its depth instead. -/
def Echoes {α : Type} (more : Nat) (place : Place) (below alone : Load α) : Prop :=
  ∀ log done, (0 < more ∧ ∃ last, below (log ++ done.map (Event.under place)) = .error .tooDeep last)
    ∨ below (log ++ done.map (Event.under place)) = moved place log (alone done)

namespace Echoes

variable {α β : Type} {more : Nat} {place : Place}

theorem pure (a : α) : Echoes more place (Pure.pure a : Load α) (Pure.pure a) :=
  fun _ _ => .inr rfl

theorem complaint (rest : Place) (cause : Malformed) (part : NodePart := .whole) :
    Echoes more place (ofExcept (Load.complaint (place ++ rest) cause part) : Load α)
      (ofExcept (Load.complaint rest cause part)) :=
  fun _ _ => .inr rfl

theorem ofAlike {rest : Place} {x y : Except LoadFault α} (hxy : Alike (place ++ rest) rest x y) :
    Echoes more place (ofExcept x) (ofExcept y) := by
  cases hxy with
  | ok a => exact .pure a
  | complaint cause part => exact .complaint rest cause part

theorem report (event : Event) :
    Echoes more place (Load.report (event.under place)) (Load.report event) := by
  intro log done
  refine .inr ?_
  show EStateM.Result.ok () (log ++ done.map (Event.under place) ++ [event.under place]) =
    .ok () (log ++ (done ++ [event]).map (Event.under place))
  rw [List.map_append, List.append_assoc]
  rfl

theorem bind {below alone : Load α} {f g : α → Load β} (hx : Echoes more place below alone)
    (hf : ∀ a, Echoes more place (f a) (g a)) : Echoes more place (below >>= f) (alone >>= g) := by
  intro log done
  change (0 < more ∧ ∃ last, EStateM.bind below f _ = _)
    ∨ EStateM.bind below f _ = moved place log (EStateM.bind alone g done)
  rw [EStateM.bind, EStateM.bind]
  rcases hx log done with ⟨hmore, last, hdeep⟩ | hsame
  · rw [hdeep]
    exact .inl ⟨hmore, last, rfl⟩
  · rw [hsame]
    cases alone done with
    | ok a last => exact hf a log last
    | error fault last => exact .inr rfl

end Echoes

section Below

variable {more : Nat} {place : Place} {load other : Place → Value → Load Tree}

theorem echoes_childrenFrom
    (hload : ∀ rest data, Echoes more place (load (place ++ rest) data) (other rest data))
    (rest : Place) (index : Nat) (items : List Value) :
    Echoes more place (childrenFrom load (place ++ rest) index items)
      (childrenFrom other rest index items) := by
  induction items generalizing index with
  | nil => exact .pure []
  | cons item items ih =>
      rw [childrenFrom, childrenFrom, List.append_assoc]
      split
      · exact (Echoes.report (.branchSkipped (rest ++ [.child index]))).bind fun _ => ih (index + 1)
      · exact (hload (rest ++ [.child index]) item).bind fun child =>
          (ih (index + 1)).bind fun others => .pure (child :: others)

theorem echoes_children
    (hload : ∀ rest data, Echoes more place (load (place ++ rest) data) (other rest data))
    (rest : Place) (fields : Fields) :
    Echoes more place (children load (place ++ rest) fields) (children other rest fields) := by
  rw [children, children]
  split
  · exact echoes_childrenFrom hload rest 0 _
  · exact .complaint rest .childrenNotList

theorem echoes_blockFrom
    (hload : ∀ rest data, Echoes more place (load (place ++ rest) data) (other rest data))
    (rest : Place) (index : Nat) (fields : Fields) :
    Echoes more place (blockFrom load (place ++ rest) index fields)
      (blockFrom other rest index fields) := by
  rw [blockFrom, blockFrom, List.append_assoc]
  split
  · exact .pure none
  · rw [map_eq_pure_bind, map_eq_pure_bind]
    exact (hload (rest ++ [.block index]) _).bind fun block => .pure (some block)

theorem echoes_chainFrom
    (hload : ∀ rest data, Echoes more place (load (place ++ rest) data) (other rest data))
    (rest : Place) (index : Nat) (items : List Value) :
    Echoes more place (chainFrom load (place ++ rest) index items)
      (chainFrom other rest index items) := by
  induction items generalizing index with
  | nil => exact .pure []
  | cons item items ih =>
      cases item with
      | object fields =>
          exact (echoes_blockFrom hload rest index fields).bind fun block =>
            (ih (index + 1)).bind fun others => .pure (_ :: others)
      | _ => exact .complaint rest .conditionNotObject (.condition index)

theorem echoes_chain
    (hload : ∀ rest data, Echoes more place (load (place ++ rest) data) (other rest data))
    (rest : Place) (fields : Fields) :
    Echoes more place (chain load (place ++ rest) fields) (chain other rest fields) := by
  rw [chain, chain]
  split
  · exact echoes_chainFrom hload rest 0 _
  · exact .complaint rest .conditionsNotList

theorem echoes_nodeWith
    (hload : ∀ rest data, Echoes more place (load (place ++ rest) data) (other rest data))
    (rest : Place) (data : Value) :
    Echoes more place (nodeWith load (place ++ rest) data) (nodeWith other rest data) := by
  cases data with
  | object fields =>
      exact (Echoes.ofAlike (alike_label (place ++ rest) rest fields)).bind fun own =>
        (echoes_children hload rest fields).bind fun children =>
          (echoes_chain hload rest fields).bind fun chain => .pure (Tree.node own children chain)
  | _ => exact .complaint rest .nodeNotObject

end Below

/-- **A node comes to the same below a place and alone**, its places moved. -/
theorem echoes_node (depth more : Nat) (place rest : Place) (data : Value) :
    Echoes more place (node depth (place ++ rest) data) (node (depth + more) rest data) := by
  induction depth generalizing rest data with
  | zero =>
      cases more with
      | zero => exact fun _ _ => .inr rfl
      | succ more => exact fun _ _ => .inl ⟨Nat.succ_pos more, _, rfl⟩
  | succ depth ih =>
      rw [Nat.add_right_comm]
      exact echoes_nodeWith ih rest data

/-- Data that is loaded if it stands alone. -/
def LoadsAlone (depth : Nat) (data : Value) : Prop :=
  ∃ t log, tree depth data [] = .ok t log

section Alone

variable {depth limit : Nat} {place : Place} {data : Value} {log last : Log} {t : Tree}
  {cause : Malformed} {location : Location}

/-- Unless a node is refused for its depth, it comes to what it comes to alone. -/
theorem node_eq_moved (hlimit : depth ≤ limit)
    (hrun : ∀ last, node depth place data log ≠ .error .tooDeep last) :
    node depth place data log = moved place log (tree limit data []) := by
  obtain ⟨more, rfl⟩ := Nat.exists_eq_add_of_le hlimit
  have hechoes := echoes_node depth more place [] data log []
  rw [List.append_nil, List.map_nil, List.append_nil] at hechoes
  rcases hechoes with ⟨-, last, hdeep⟩ | hsame
  · exact absurd hdeep (hrun last)
  · exact hsame

theorem tree_of_node (hlimit : depth ≤ limit) (hrun : node depth place data log = .ok t last) :
    ∃ own, tree limit data [] = .ok t own ∧ last = log ++ own.map (Event.under place) := by
  have hmoved := node_eq_moved hlimit (by rw [hrun]; exact nofun)
  rw [hrun] at hmoved
  cases halone : tree limit data [] with
  | ok u own =>
      rw [halone] at hmoved
      cases hmoved
      exact ⟨own, rfl, rfl⟩
  | error fault own =>
      rw [halone] at hmoved
      exact nomatch hmoved

theorem tree_of_node_malformed (hlimit : depth ≤ limit)
    (hrun : node depth place data log = .error (.malformed cause location) last) :
    ∃ rest own, tree limit data [] = .error (.malformed cause rest) own
      ∧ location = rest.under place := by
  have hmoved := node_eq_moved hlimit (by rw [hrun]; exact nofun)
  rw [hrun] at hmoved
  cases halone : tree limit data [] with
  | ok u own =>
      rw [halone] at hmoved
      exact nomatch hmoved
  | error fault own =>
      rw [halone] at hmoved
      cases fault with
      | tooDeep => exact nomatch hmoved
      | malformed found rest =>
          cases hmoved
          exact ⟨rest, own, rfl, rfl⟩

theorem node_of_tree {own : Log} (hrun : tree depth data [] = .ok t own) (place : Place) (log : Log) :
    node depth place data log = .ok t (log ++ own.map (Event.under place)) := by
  have hechoes := echoes_node depth 0 place [] data log []
  rw [List.append_nil, List.map_nil, List.append_nil] at hechoes
  rcases hechoes with ⟨hmore, -⟩ | hsame
  · exact absurd hmore (Nat.lt_irrefl 0)
  · rw [hsame]
    change moved place log (tree depth data []) = _
    rw [hrun]
    rfl

theorem LoadsAlone.mono (hlimit : depth ≤ limit) (hdata : LoadsAlone depth data) :
    LoadsAlone limit data := by
  obtain ⟨t, log, hrun⟩ := hdata
  obtain ⟨own, halone, -⟩ := tree_of_node hlimit hrun
  exact ⟨t, own, halone⟩

end Alone

end Load

end MiniTemplate

import MiniTemplate.Load.Document
import MiniTemplate.Proofs.BracketNesting
/-!
# The grammar of documents

Which values are documents is said here by rules: what a node may consist of, what may stand among its
children, and what an entry of a chain is. The rules do not say in which order anything is checked, and
they are the least such, so a node is one that can be built from them in finitely many steps.

Loading is compared with the rules step by step. Each step settles the rule that it checks (`Settles`):
it succeeds if the rule is met and ends with a complaint if not. Steps that follow one another settle
the conjunction of their rules. What remains is the depth of the recursion: between a node and the next
one below it lie two brackets at least, so a value whose brackets nest less than twice as deep as nodes
may nest is never refused for its depth. Everything that is read from a file is such a value.
-/

namespace MiniTemplate

/-! ### Rules -/

/-- The items of a field that holds a list, none if the field is not set. -/
inductive Value.Lists : Value → List Value → Prop where
  | unset {v : Value} (h : v.truthy = false) : Lists v []
  | list (items : List Value) : Lists (.list items) items

/-- The fields of an object in a field, none if the field is not set. -/
inductive Value.Collects : Value → Fields → Prop where
  | unset {v : Value} (h : v.truthy = false) : Collects v []
  | object (fields : Fields) : Collects (.object fields) fields

namespace Grammar

def ListOf (holds : Value → Prop) (v : Value) : Prop :=
  ∃ items, v.Lists items ∧ ∀ item ∈ items, holds item

def ObjectOf (holds : Value → Prop) (v : Value) : Prop :=
  ∃ fields, v.Collects fields ∧ ∀ field ∈ fields, holds field.2

/-- An object with a field of the given name, whatever the field holds. -/
def HasField (key : String) (v : Value) : Prop :=
  ∃ fields : Fields, v = .object fields ∧ fields.has key = true

/-- The type of a node is a number, and one if it is not given. -/
def OfType (fields : Fields) (n : Nat) : Prop :=
  match fields.get? "type" with
  | none => n = 1
  | some type => type.equalsNat n = true

/-- A handler of an event is an object, and of several only the first counts. Its modifiers are an
object if there are any. -/
inductive IsHandler : Value → Prop where
  | none : IsHandler (.list [])
  | one {fields : Fields} (h : ObjectOf (fun _ => True) (fields.get "modifiers")) :
      IsHandler (.object fields)
  | first {fields : Fields} (h : ObjectOf (fun _ => True) (fields.get "modifiers"))
      (others : List Value) : IsHandler (.list (.object fields :: others))

/-- What an element says of itself. -/
structure IsElement (fields : Fields) : Prop where
  tag : ∃ tag, fields.get "tag" = .str tag
  attributes : ListOf (HasField "name") (fields.get "attrsList")
  listeners : fields.get "events" = .null
    ∨ ∃ events, fields.get "events" = .object events ∧ ∀ event ∈ events, IsHandler event.2

mutual

inductive IsNode : Value → Prop where
  | node {fields : Fields} (htype : ∃ n ∈ [1, 2, 3], OfType fields n)
      (helement : OfType fields 1 → IsElement fields) {children entries : List Value}
      (hchildren : (fields.get "children").Lists children) (hchild : ∀ child ∈ children, IsChild child)
      (hentries : (fields.get "ifConditions").Lists entries) (hentry : ∀ entry ∈ entries, IsEntry entry) :
      IsNode (.object fields)

/-- A child is a node, or a later branch of a chain, of which no more is asked. -/
inductive IsChild : Value → Prop where
  | branch {fields : Fields}
      (h : (fields.get "else").truthy = true ∨ (fields.get "elseif").truthy = true) :
      IsChild (.object fields)
  | node {data : Value} (h : IsNode data) : IsChild data

/-- An entry of a chain has a node for its block, or none and stands for the lead. -/
inductive IsEntry : Value → Prop where
  | lead {fields : Fields} (h : fields.get "block" = .null) : IsEntry (.object fields)
  | block {fields : Fields} (h : IsNode (fields.get "block")) : IsEntry (.object fields)

end

structure IsOptions (fields : Fields) : Prop where
  imports : ObjectOf (HasField "src") (fields.get "imports")
  name : (fields.get "name").truthy = false ∨ ∃ name, fields.get "name" = .str name
  slots : ListOf (fun item => ∃ slot, item = .str slot) (fields.get "slots")

inductive IsDocument : Value → Prop where
  | document {fields : Fields} {root : Value} (hroot : fields.get? "ast" = some root)
      (hnode : IsNode root) (hoptions : IsOptions fields) : IsDocument (.object fields)

/-! ### Fields that are not set -/

theorem lists_iff {v : Value} {items : List Value} :
    v.Lists items ↔ v.orElse (.list []) = .list items := by
  rw [Value.orElse]
  constructor
  · rintro (hunset | _)
    · rw [hunset]
      rfl
    · cases items <;> rfl
  · intro horElse
    split at horElse
    · exact horElse ▸ .list items
    · rename_i hunset
      cases horElse
      exact .unset (Bool.eq_false_iff.mpr hunset)

theorem collects_iff {v : Value} {fields : Fields} :
    v.Collects fields ↔ v.orElse (.object []) = .object fields := by
  rw [Value.orElse]
  constructor
  · rintro (hunset | _)
    · rw [hunset]
      rfl
    · cases fields <;> rfl
  · intro horElse
    split at horElse
    · exact horElse ▸ .object fields
    · rename_i hunset
      cases horElse
      exact .unset (Bool.eq_false_iff.mpr hunset)

theorem listOf_iff {holds : Value → Prop} {v : Value} {items : List Value}
    (hitems : v.orElse (.list []) = .list items) :
    ListOf holds v ↔ ∀ item ∈ items, holds item := by
  constructor
  · rintro ⟨found, hfound, hall⟩
    cases (lists_iff.mp hfound).symm.trans hitems
    exact hall
  · exact fun hall => ⟨items, lists_iff.mpr hitems, hall⟩

theorem not_listOf {holds : Value → Prop} {v : Value}
    (hother : ∀ items, v.orElse (.list []) = .list items → False) : ¬ ListOf holds v :=
  fun ⟨items, hitems, _⟩ => hother items (lists_iff.mp hitems)

theorem objectOf_iff {holds : Value → Prop} {v : Value} {fields : Fields}
    (hfields : v.orElse (.object []) = .object fields) :
    ObjectOf holds v ↔ ∀ field ∈ fields, holds field.2 := by
  constructor
  · rintro ⟨found, hfound, hall⟩
    cases (collects_iff.mp hfound).symm.trans hfields
    exact hall
  · exact fun hall => ⟨fields, collects_iff.mpr hfields, hall⟩

theorem not_objectOf {holds : Value → Prop} {v : Value}
    (hother : ∀ fields, v.orElse (.object []) = .object fields → False) : ¬ ObjectOf holds v :=
  fun ⟨fields, hfields, _⟩ => hother fields (collects_iff.mp hfields)

theorem nesting_lt_of_lists {v : Value} {items : List Value}
    (hitems : v.orElse (.list []) = .list items) {item : Value} (hmem : item ∈ items) :
    item.nesting < v.nesting := by
  cases lists_iff.mpr hitems with
  | unset h => exact absurd hmem List.not_mem_nil
  | list items => exact Value.nesting_lt_of_mem hmem

end Grammar

/-! ### Steps that settle a rule -/

/-- A step that succeeds if a rule is met, and ends with a complaint otherwise. -/
inductive Settles {α : Type} (rule : Prop) : Except LoadFault α → Prop where
  | accepts (a : α) (h : rule) : Settles rule (.ok a)
  | refuses (cause : Malformed) (location : Location) (h : ¬ rule) :
      Settles rule (.error (.malformed cause location))

namespace Settles

variable {α β : Type} {rule other : Prop} {x : Except LoadFault α}

theorem of_iff (hx : Settles rule x) (hiff : rule ↔ other) : Settles other x := by
  cases hx with
  | accepts a h => exact .accepts a (hiff.mp h)
  | refuses cause location h => exact .refuses cause location fun hother => h (hiff.mpr hother)

theorem bind {f : α → Except LoadFault β} (hx : Settles rule x)
    (hf : ∀ a, x = .ok a → Settles other (f a)) : Settles (rule ∧ other) (x >>= f) := by
  cases hx with
  | refuses cause location h => exact .refuses cause location fun hboth => h hboth.1
  | accepts a h => exact (hf a rfl).of_iff ⟨fun hother => ⟨h, hother⟩, fun hboth => hboth.2⟩

/-- A last step that always succeeds checks nothing more. -/
theorem andThen {f : α → Except LoadFault β} (hx : Settles rule x) (hf : ∀ a, ∃ b, f a = .ok b) :
    Settles rule (x >>= f) := by
  refine (hx.bind fun a _ => ?_).of_iff (iff_of_eq (and_true rule))
  obtain ⟨b, hb⟩ := hf a
  rw [hb]
  exact .accepts b trivial

theorem mapM {items : List α} {f : α → Except LoadFault β} {rules : α → Prop}
    (hf : ∀ a ∈ items, Settles (rules a) (f a)) : Settles (∀ a ∈ items, rules a) (items.mapM f) := by
  induction items with
  | nil => exact .accepts [] fun _ hmem => absurd hmem List.not_mem_nil
  | cons a items ih =>
      obtain ⟨hhead, htail⟩ := List.forall_mem_cons.mp hf
      rw [List.mapM_cons, List.forall_mem_cons]
      exact hhead.bind fun b _ => (ih htail).andThen fun bs => ⟨b :: bs, rfl⟩

theorem ok_iff (hx : Settles rule x) : (∃ a, x = .ok a) ↔ rule := by
  cases hx with
  | accepts a h => exact ⟨fun _ => h, fun _ => ⟨a, rfl⟩⟩
  | refuses cause location h => exact ⟨nofun, fun hrule => absurd hrule h⟩

theorem exists_of_not (hx : Settles rule x) (hnot : ¬ rule) :
    ∃ cause location, x = .error (.malformed cause location) := by
  cases hx with
  | accepts a h => exact absurd h hnot
  | refuses cause location h => exact ⟨cause, location, rfl⟩

end Settles

namespace Load

open Grammar

/-! ### Labels -/

theorem settles_complaint {α : Type} {rule : Prop} (hnot : ¬ rule) (place : Place)
    (cause : Malformed) (part : NodePart := .whole) :
    Settles rule (complaint place cause part : Except LoadFault α) :=
  .refuses cause _ hnot

theorem ofType_iff (fields : Fields) (n : Nat) :
    OfType fields n ↔ ((fields.get? "type").getD (.int 1)).equalsNat n = true := by
  rw [OfType]
  cases fields.get? "type" with
  | none =>
      change n = 1 ↔ ((1 : Int) == (n : Int)) = true
      rw [beq_iff_eq]
      omega
  | some type => rfl

/-- A value is the type of an element, or of a text, or of nothing. -/
theorem ofValue?_cases (v : Value) :
    (v.equalsNat 1 = true ∧ NodeType.ofValue? v = some .element)
    ∨ (v.equalsNat 1 = false ∧ (∃ n ∈ [1, 2, 3], v.equalsNat n = true)
      ∧ ∃ type, type ≠ .element ∧ NodeType.ofValue? v = some type)
    ∨ ((∀ n ∈ [1, 2, 3], v.equalsNat n = false) ∧ NodeType.ofValue? v = none) := by
  rw [NodeType.ofValue?]
  cases hone : v.equalsNat 1 with
  | true => exact .inl ⟨rfl, rfl⟩
  | false =>
      cases htwo : v.equalsNat 2 with
      | true => exact .inr (.inl ⟨rfl, ⟨2, by decide, htwo⟩, .expression, nofun, rfl⟩)
      | false =>
          cases hthree : v.equalsNat 3 with
          | true => exact .inr (.inl ⟨rfl, ⟨3, by decide, hthree⟩, .text, nofun, rfl⟩)
          | false => exact .inr (.inr ⟨by simp [hone, htwo, hthree], rfl⟩)

theorem settles_nodeType (place : Place) (fields : Fields) :
    Settles (∃ n ∈ [1, 2, 3], OfType fields n) (nodeType place fields) := by
  simp only [ofType_iff, nodeType]
  rcases ofValue?_cases ((fields.get? "type").getD (.int 1)) with
    ⟨hone, hvalue⟩ | ⟨-, hknown, type, -, hvalue⟩ | ⟨hnone, hvalue⟩
  · rw [hvalue]
    exact .accepts _ ⟨1, by decide, hone⟩
  · rw [hvalue]
    exact .accepts _ hknown
  · rw [hvalue]
    refine settles_complaint ?_ place _
    rintro ⟨n, hmem, hequal⟩
    rw [hnone n hmem] at hequal
    exact nomatch hequal

theorem eq_element_iff_of_nodeType {place : Place} {fields : Fields} {type : NodeType}
    (hrun : nodeType place fields = .ok type) : type = .element ↔ OfType fields 1 := by
  rw [ofType_iff]
  rw [nodeType] at hrun
  rcases ofValue?_cases ((fields.get? "type").getD (.int 1)) with
    ⟨hone, hvalue⟩ | ⟨hone, -, other, hother, hvalue⟩ | ⟨-, hvalue⟩
  · rw [hvalue] at hrun
    cases hrun
    exact ⟨fun _ => hone, fun _ => rfl⟩
  · rw [hvalue] at hrun
    cases hrun
    rw [hone]
    exact ⟨fun helement => absurd helement hother, nofun⟩
  · rw [hvalue] at hrun
    exact nomatch hrun

theorem hasField_object (key : String) (fields : Fields) :
    HasField key (.object fields) ↔ (fields.get? key).isSome = true := by
  constructor
  · rintro ⟨_, ⟨⟩, hhas⟩
    exact hhas
  · exact fun hhas => ⟨fields, rfl, hhas⟩

theorem settles_attributesFrom (place : Place) (index : Nat) (items : List Value) :
    Settles (∀ item ∈ items, HasField "name" item) (attributesFrom place index items) := by
  induction items generalizing index with
  | nil => exact .accepts [] fun _ hmem => absurd hmem List.not_mem_nil
  | cons item items ih =>
      have hrest : ∀ attr : Attribute, Settles (∀ item ∈ items, HasField "name" item)
          (attributesFrom place (index + 1) items >>= fun attrs => .ok (attr :: attrs)) :=
        fun attr => (ih (index + 1)).andThen fun attrs => ⟨attr :: attrs, rfl⟩
      rw [List.forall_mem_cons]
      cases item with
      | object fields =>
          rw [attributesFrom, hasField_object]
          cases Fields.get? fields "name" with
          | some name => exact (Settles.accepts _ rfl).bind fun attr _ => hrest attr
          | none => exact (settles_complaint nofun place _ _).bind fun attr _ => hrest attr
      | _ => exact (settles_complaint nofun place _ _).bind fun attr _ => hrest attr

theorem settles_attributes (place : Place) (fields : Fields) :
    Settles (ListOf (HasField "name") (fields.get "attrsList")) (attributes place fields) := by
  rw [attributes]
  split
  · rename_i items hitems
    exact (settles_attributesFrom place 0 items).of_iff (listOf_iff hitems).symm
  · rename_i hother
    exact settles_complaint (not_listOf hother) place _

theorem settles_listener (place : Place) (event : String) (handler : Value) :
    Settles (IsHandler handler) (listener place event handler) := by
  have hmodifiers : ∀ fields : Fields, firstHandler handler = .object fields →
      Settles (ObjectOf (fun _ => True) (fields.get "modifiers")) (listener place event handler) := by
    intro fields hfirst
    rw [listener, hfirst]
    dsimp only
    split
    · rename_i modifiers hmodifiers
      exact .accepts _ ((objectOf_iff hmodifiers).mpr fun _ _ => trivial)
    · rename_i hother
      exact settles_complaint (not_objectOf hother) place _ _
  match handler with
  | .object fields =>
      refine (hmodifiers fields rfl).of_iff ⟨.one, ?_⟩
      rintro (_ | h | _)
      exact h
  | .list (.object fields :: others) =>
      refine (hmodifiers fields rfl).of_iff ⟨(.first · others), ?_⟩
      rintro (_ | _ | ⟨h⟩)
      exact h
  | .list [] => exact .accepts _ .none
  | .list (.null :: others) | .list (.bool _ :: others) | .list (.int _ :: others)
  | .list (.float _ :: others) | .list (.str _ :: others) | .list (.list _ :: others)
  | .null | .bool _ | .int _ | .float _ | .str _ => exact settles_complaint nofun place _ _

theorem settles_listeners (place : Place) (fields : Fields) :
    Settles (fields.get "events" = .null
      ∨ ∃ events, fields.get "events" = .object events ∧ ∀ event ∈ events, IsHandler event.2)
      (listeners place fields) := by
  rw [listeners]
  cases fields.get "events" with
  | null => exact .accepts none (.inl rfl)
  | object events =>
      have hall := Settles.mapM fun (event : String × Value) (_ : event ∈ events) =>
        settles_listener place event.1 event.2
      refine (hall.andThen fun found => ⟨some found, rfl⟩).of_iff ?_
      constructor
      · exact fun hevents => .inr ⟨events, rfl, hevents⟩
      · rintro (⟨⟨⟩⟩ | ⟨_, ⟨⟩, hevents⟩)
        exact hevents
  | _ => exact settles_complaint nofun place _

theorem settles_elementLabel (place : Place) (fields : Fields) :
    Settles (IsElement fields) (elementLabel place fields) := by
  have hrun : Settles ((∃ tag, fields.get "tag" = .str tag)
      ∧ ListOf (HasField "name") (fields.get "attrsList")
      ∧ (fields.get "events" = .null
        ∨ ∃ events, fields.get "events" = .object events ∧ ∀ event ∈ events, IsHandler event.2))
      (elementLabel place fields) := by
    rw [elementLabel]
    cases fields.get "tag" with
    | str tag =>
        exact (Settles.accepts _ ⟨tag, rfl⟩).bind fun tag _ =>
          (settles_attributes place fields).bind fun attrs _ =>
            (settles_listeners place fields).andThen fun events => ⟨_, rfl⟩
    | _ => exact .refuses _ _ fun h => nomatch h.1
  exact hrun.of_iff ⟨fun ⟨htag, hattributes, hlisteners⟩ => ⟨htag, hattributes, hlisteners⟩,
    fun helement => ⟨helement.tag, helement.attributes, helement.listeners⟩⟩

theorem settles_label (place : Place) (fields : Fields) :
    Settles ((∃ n ∈ [1, 2, 3], OfType fields n) ∧ (OfType fields 1 → IsElement fields))
      (label place fields) := by
  refine (settles_nodeType place fields).bind fun type htype => ?_
  have helement := eq_element_iff_of_nodeType htype
  cases type with
  | element =>
      exact (settles_elementLabel place fields).of_iff
        ⟨fun hfields _ => hfields, fun hfields => hfields (helement.mp rfl)⟩
  | expression => exact .accepts _ fun hone => nomatch helement.mpr hone
  | text => exact .accepts _ fun hone => nomatch helement.mpr hone

/-! ### Nodes -/

/-- How an attempt to load ends, its log left aside. -/
def outcome {α : Type} : EStateM.Result LoadFault Log α → Except LoadFault α
  | .ok a _ => .ok a
  | .error fault _ => .error fault

/-- Loading settles a rule, whatever was reported before. -/
def Decides {α : Type} (x : Load α) (rule : Prop) : Prop :=
  ∀ log, Settles rule (outcome (x log))

namespace Decides

variable {α β : Type} {rule other : Prop} {x : Load α}

theorem of_iff (hx : Decides x rule) (hiff : rule ↔ other) : Decides x other :=
  fun log => (hx log).of_iff hiff

theorem ofExcept {y : Except LoadFault α} (hy : Settles rule y) : Decides (Load.ofExcept y) rule := by
  intro log
  cases hy with
  | accepts a h => exact .accepts a h
  | refuses cause location h => exact .refuses cause location h

theorem pure (a : α) : Decides (Pure.pure a : Load α) True :=
  fun _ => .accepts a trivial

theorem bind {f : α → Load β} (hx : Decides x rule) (hf : ∀ a, Decides (f a) other) :
    Decides (x >>= f) (rule ∧ other) := by
  intro log
  have hfirst := hx log
  change Settles _ (outcome (EStateM.bind x f log))
  rw [EStateM.bind]
  cases hrun : x log with
  | error fault last =>
      rw [hrun] at hfirst
      cases hfirst with
      | refuses cause location h => exact .refuses cause location fun hboth => h hboth.1
  | ok a last =>
      rw [hrun] at hfirst
      cases hfirst with
      | accepts _ h => exact (hf a last).of_iff ⟨fun hother => ⟨h, hother⟩, fun hboth => hboth.2⟩

theorem ok_iff (hx : Decides x rule) (log : Log) : (∃ a last, x log = .ok a last) ↔ rule := by
  rw [← (hx log).ok_iff]
  cases x log with
  | ok a last => exact ⟨fun _ => ⟨a, rfl⟩, fun _ => ⟨a, last, rfl⟩⟩
  | error fault last => exact ⟨nofun, nofun⟩

theorem exists_of_not (hx : Decides x rule) (hnot : ¬ rule) (log : Log) :
    ∃ cause location last, x log = .error (.malformed cause location) last := by
  obtain ⟨cause, location, hfault⟩ := (hx log).exists_of_not hnot
  cases hrun : x log with
  | ok a last =>
      rw [hrun] at hfault
      exact nomatch hfault
  | error fault last =>
      rw [hrun] at hfault
      cases hfault
      exact ⟨cause, location, last, rfl⟩

/-- A last step that always succeeds checks nothing more. -/
theorem map (f : α → β) (hx : Decides x rule) : Decides (x >>= fun a => Pure.pure (f a)) rule :=
  (hx.bind fun a => .pure (f a)).of_iff (iff_of_eq (and_true rule))

end Decides

theorem isChild_iff (data : Value) : IsChild data ↔ isBranch data = true ∨ IsNode data := by
  constructor
  · rintro (h | h)
    · exact .inl (Bool.or_eq_true_iff.mpr h)
    · exact .inr h
  · rintro (h | h)
    · cases data with
      | object fields => exact .branch (Bool.or_eq_true_iff.mp h)
      | _ => exact nomatch h
    · exact .node h

theorem isEntry_object_iff (fields : Fields) :
    IsEntry (.object fields) ↔ fields.get "block" = .null ∨ IsNode (fields.get "block") := by
  constructor
  · rintro (h | h)
    · exact .inl h
    · exact .inr h
  · rintro (h | h)
    · exact .lead h
    · exact .block h

theorem isNode_object_iff (fields : Fields) :
    IsNode (.object fields) ↔
      ((∃ n ∈ [1, 2, 3], OfType fields n) ∧ (OfType fields 1 → IsElement fields))
        ∧ ListOf IsChild (fields.get "children") ∧ ListOf IsEntry (fields.get "ifConditions") := by
  constructor
  · rintro ⟨htype, helement, hchildren, hchild, hentries, hentry⟩
    exact ⟨⟨htype, helement⟩, ⟨_, hchildren, hchild⟩, ⟨_, hentries, hentry⟩⟩
  · rintro ⟨⟨htype, helement⟩, ⟨children, hchildren, hchild⟩, ⟨entries, hentries, hentry⟩⟩
    exact .node htype helement hchildren hchild hentries hentry

section Below

variable {load : Place → Value → Load Tree} {bound : Nat}

theorem decides_childrenFrom
    (hload : ∀ place data, data.nesting < bound → Decides (load place data) (IsNode data))
    (place : Place) (index : Nat) {items : List Value} (hitems : ∀ item ∈ items, item.nesting < bound) :
    Decides (childrenFrom load place index items) (∀ item ∈ items, IsChild item) := by
  induction items generalizing index with
  | nil => exact fun _ => .accepts [] fun _ hmem => absurd hmem List.not_mem_nil
  | cons item items ih =>
      obtain ⟨hitem, hrest⟩ := List.forall_mem_cons.mp hitems
      rw [childrenFrom, List.forall_mem_cons, isChild_iff]
      cases hbranch : isBranch item with
      | true =>
          have hreport : Decides (report (.branchSkipped (place ++ [.child index]))) True :=
            fun _ => .accepts _ trivial
          refine (hreport.bind fun _ => ih (index + 1) hrest).of_iff ?_
          exact and_congr_left fun _ => ⟨fun _ => .inl rfl, fun _ => trivial⟩
      | false =>
          refine ((hload (place ++ [.child index]) item hitem).bind fun child =>
            (ih (index + 1) hrest).map (child :: ·)).of_iff ?_
          exact and_congr_left fun _ => ⟨.inr, fun h => h.resolve_left nofun⟩

theorem decides_blockFrom
    (hload : ∀ place data, data.nesting < bound → Decides (load place data) (IsNode data))
    (place : Place) (index : Nat) {fields : Fields} (hblock : (fields.get "block").nesting < bound) :
    Decides (blockFrom load place index fields) (IsEntry (.object fields)) := by
  rw [isEntry_object_iff, blockFrom]
  split
  · rename_i hnull
    exact fun _ => .accepts none (.inl hnull)
  · rename_i hsome
    rw [map_eq_pure_bind]
    exact ((hload (place ++ [.block index]) _ hblock).map some).of_iff (or_iff_right hsome).symm

theorem decides_chainFrom
    (hload : ∀ place data, data.nesting < bound → Decides (load place data) (IsNode data))
    (place : Place) (index : Nat) {items : List Value} (hitems : ∀ item ∈ items, item.nesting < bound) :
    Decides (chainFrom load place index items) (∀ item ∈ items, IsEntry item) := by
  induction items generalizing index with
  | nil => exact fun _ => .accepts [] fun _ hmem => absurd hmem List.not_mem_nil
  | cons item items ih =>
      obtain ⟨hitem, hrest⟩ := List.forall_mem_cons.mp hitems
      rw [List.forall_mem_cons]
      cases item with
      | object fields =>
          have hblock := Nat.lt_trans (Fields.nesting_get_lt fields "block") hitem
          exact (decides_blockFrom hload place index hblock).bind fun block =>
            (ih (index + 1) hrest).map _
      | _ => exact .ofExcept (settles_complaint nofun place _ _)

theorem decides_children
    (hload : ∀ place data, data.nesting < bound → Decides (load place data) (IsNode data))
    (place : Place) {fields : Fields} (hfields : (fields.get "children").nesting ≤ bound) :
    Decides (children load place fields) (ListOf IsChild (fields.get "children")) := by
  rw [children]
  split
  · rename_i items hitems
    refine (decides_childrenFrom hload place 0 fun item hmem => ?_).of_iff (listOf_iff hitems).symm
    exact Nat.lt_of_lt_of_le (nesting_lt_of_lists hitems hmem) hfields
  · rename_i hother
    exact .ofExcept (settles_complaint (not_listOf hother) place _)

theorem decides_chain
    (hload : ∀ place data, data.nesting < bound → Decides (load place data) (IsNode data))
    (place : Place) {fields : Fields} (hfields : (fields.get "ifConditions").nesting ≤ bound) :
    Decides (chain load place fields) (ListOf IsEntry (fields.get "ifConditions")) := by
  rw [chain]
  split
  · rename_i items hitems
    refine (decides_chainFrom hload place 0 fun item hmem => ?_).of_iff (listOf_iff hitems).symm
    exact Nat.lt_of_lt_of_le (nesting_lt_of_lists hitems hmem) hfields
  · rename_i hother
    exact .ofExcept (settles_complaint (not_listOf hother) place _)

/-- One node is decided if those below it are, which lie two brackets deeper. -/
theorem decides_nodeWith
    (hload : ∀ place data, data.nesting < bound → Decides (load place data) (IsNode data))
    (place : Place) {data : Value} (hdata : data.nesting < bound + 2) :
    Decides (nodeWith load place data) (IsNode data) := by
  cases data with
  | object fields =>
      have hfield : ∀ key, (Fields.get fields key).nesting ≤ bound := by
        intro key
        have hlt := Fields.nesting_get_lt fields key
        omega
      rw [isNode_object_iff]
      exact (Decides.ofExcept (settles_label place fields)).bind fun own =>
        (decides_children hload place (hfield "children")).bind fun children =>
          (decides_chain hload place (hfield "ifConditions")).map _
  | _ => exact .ofExcept (settles_complaint nofun place _)

end Below

/-- **Loading a node decides whether it is one**, as long as its brackets nest less than twice as deep
as nodes may. -/
theorem decides_node {depth : Nat} (place : Place) {data : Value}
    (hnesting : data.nesting < 2 * depth) : Decides (node depth place data) (IsNode data) := by
  induction depth generalizing place data with
  | zero => exact absurd hnesting (Nat.not_lt_zero _)
  | succ depth ih => exact decides_nodeWith (fun place data => ih place) place hnesting

/-! ### Options and documents -/

theorem settles_importEntry (tag : String) (entry : Value) :
    Settles (HasField "src" entry) (importEntry tag entry) := by
  cases entry with
  | object fields =>
      rw [hasField_object, importEntry]
      cases Fields.get? fields "src" with
      | some source => exact .accepts _ rfl
      | none => exact .refuses _ _ nofun
  | _ => exact .refuses _ _ nofun

theorem isSome_texts? (items : List Value) :
    (texts? items).isSome = true ↔ ∀ item ∈ items, ∃ s, item = .str s := by
  induction items with
  | nil => exact ⟨fun _ _ hmem => absurd hmem List.not_mem_nil, fun _ => rfl⟩
  | cons item items ih =>
      rw [List.forall_mem_cons, ← ih]
      cases item with
      | str s =>
          rw [texts?, Option.isSome_map]
          exact ⟨fun h => ⟨⟨s, rfl⟩, h⟩, fun h => h.2⟩
      | _ => exact ⟨nofun, fun h => nomatch h.1⟩

theorem name_iff (v : Value) :
    (v.truthy = false ∨ ∃ name, v = .str name) ↔ ∃ name, v.orElse (.str "defaultName") = .str name := by
  rw [Value.orElse]
  cases htruthy : v.truthy with
  | false => exact ⟨fun _ => ⟨_, rfl⟩, fun _ => .inl rfl⟩
  | true => exact or_iff_right nofun

theorem settles_options (fields : Fields) :
    Settles (IsOptions fields) (options (.object fields)) := by
  have hrun : Settles (ObjectOf (HasField "src") (fields.get "imports")
      ∧ (∃ name, (fields.get "name").orElse (.str "defaultName") = .str name)
      ∧ ListOf (fun item => ∃ slot, item = .str slot) (fields.get "slots"))
      (options (.object fields)) := by
    rw [options]
    split
    · rename_i imports himports
      have hentries := Settles.mapM fun (entry : String × Value) (_ : entry ∈ imports) =>
        settles_importEntry entry.1 entry.2
      refine (hentries.of_iff (objectOf_iff himports).symm).bind fun entries _ => ?_
      cases hname : (fields.get "name").orElse (.str "defaultName") with
      | str name =>
          rw [and_iff_right ⟨name, rfl⟩]
          dsimp only
          split
          · rename_i items hitems
            rw [listOf_iff hitems, ← isSome_texts?]
            cases texts? items with
            | some slots => exact .accepts _ rfl
            | none => exact .refuses _ _ nofun
          · rename_i hother
            exact .refuses _ _ (not_listOf hother)
      | _ => exact .refuses _ _ fun h => nomatch h.1
    · rename_i hother
      exact .refuses _ _ fun h => not_objectOf hother h.1
  refine hrun.of_iff ?_
  rw [← name_iff]
  exact ⟨fun ⟨himports, hname, hslots⟩ => ⟨himports, hname, hslots⟩,
    fun hoptions => ⟨hoptions.imports, hoptions.name, hoptions.slots⟩⟩

end Load

namespace Document

open Grammar

theorem decides_ofValue {limits : Limits} (stem : String) {data : Value}
    (hnesting : data.nesting ≤ 2 * limits.nodes) :
    Load.Decides (ofValue limits stem data) (IsDocument data) := by
  cases data with
  | object fields =>
      rw [ofValue]
      cases hroot : Fields.get? fields "ast" with
      | none =>
          refine fun _ => .refuses _ _ ?_
          rintro ⟨hfound, -, -⟩
          cases hroot.symm.trans hfound
      | some root =>
          have hdepth : root.nesting < 2 * limits.nodes :=
            Nat.lt_of_lt_of_le (Fields.nesting_of_get? hroot) hnesting
          refine ((Load.Decides.ofExcept (Load.settles_options fields)).bind fun options =>
            (Load.decides_node [] hdepth).map _).of_iff ?_
          constructor
          · exact fun ⟨hoptions, hnode⟩ => .document hroot hnode hoptions
          · rintro ⟨hfound, hnode, hoptions⟩
            cases hroot.symm.trans hfound
            exact ⟨hoptions, hnode⟩
  | _ => exact fun _ => .refuses _ _ nofun

theorem nesting_of_value {limits : Limits} {content : ByteArray} {data : Value}
    (hvalue : value limits content = .ok data) : data.nesting ≤ limits.brackets := by
  rw [value] at hvalue
  split at hvalue
  · exact nomatch hvalue
  · rename_i chars hchars
    cases hread : Json.read limits.brackets (Text.Line.unifyEnds [] chars) with
    | error fault =>
        rw [hread] at hvalue
        exact nomatch hvalue
    | ok found =>
        rw [hread] at hvalue
        cases hvalue
        exact Json.nesting_of_read hread

/-- What reading comes to once there is a value. -/
theorem fst_read {limits : Limits} {content : ByteArray} {data : Value}
    (hvalue : value limits content = .ok data) (stem : String) :
    (read limits stem content).1 =
      (Load.outcome (ofValue limits stem data [])).mapError Failure.ofLoad := by
  rw [read, hvalue]
  dsimp only [EStateM.run]
  cases ofValue limits stem data [] <;> rfl

/-- **Loading accepts exactly the grammar**: a value that does not nest too deep is loaded if and only
if it is a node, and whatever a file holds is a document if and only if the rules say so. Anything else
is refused with a complaint about what is malformed. Of what is read from a file nothing nests too deep
if nodes may nest half as deep as brackets. -/
theorem accepts_exactly_grammar :
    (∀ (depth : Nat) (data : Value) (log : Log), data.nesting < 2 * depth →
      ((∃ t last, Load.tree depth data log = .ok t last) ↔ IsNode data)
      ∧ (¬ IsNode data → ∃ cause location last,
        Load.tree depth data log = .error (.malformed cause location) last))
    ∧ ∀ (limits : Limits) (stem : String) (content : ByteArray) (data : Value),
      value limits content = .ok data →
      data.nesting ≤ 2 * limits.nodes ∨ limits.brackets ≤ 2 * limits.nodes →
      ((∃ document, (read limits stem content).1 = .ok document) ↔ IsDocument data)
      ∧ (¬ IsDocument data → ∃ cause location,
        (read limits stem content).1 = .error (.malformed cause location)) := by
  constructor
  · intro depth data log hnesting
    have hdecides := Load.decides_node [] hnesting
    exact ⟨hdecides.ok_iff log, fun hnot => hdecides.exists_of_not hnot log⟩
  · intro limits stem content data hvalue hlimits
    have hnesting : data.nesting ≤ 2 * limits.nodes :=
      hlimits.elim id (Nat.le_trans (nesting_of_value hvalue))
    have hsettles := decides_ofValue stem hnesting []
    rw [fst_read hvalue stem]
    constructor
    · rw [← hsettles.ok_iff]
      cases Load.outcome (ofValue limits stem data []) with
      | ok document => exact ⟨fun _ => ⟨document, rfl⟩, fun _ => ⟨document, rfl⟩⟩
      | error fault => exact ⟨nofun, nofun⟩
    · intro hnot
      obtain ⟨cause, location, hfault⟩ := hsettles.exists_of_not hnot
      rw [hfault]
      exact ⟨cause, location, rfl⟩

/-- A lead with a text for its other branch. The child that is left out has no known type. -/
def guarded : Value :=
  .object
    [("tag", .str "p"), ("attrsList", .int 0),
      ("children", .list [.object [("else", .bool true), ("type", .str "p")]]),
      ("ifConditions", .list [.object [], .object [("block", .object [("type", .int 3)])]])]

theorem isNode_guarded : IsNode guarded := by
  have htext : IsNode (.object [("type", .int 3)]) :=
    .node ⟨3, by decide, rfl⟩ nofun (.unset rfl) nofun (.unset rfl) nofun
  refine .node ⟨1, by decide, rfl⟩ (fun _ => ⟨⟨"p", rfl⟩, ⟨[], .unset rfl, nofun⟩, .inl rfl⟩)
    (.list [.object [("else", .bool true), ("type", .str "p")]]) ?_
    (.list [.object [], .object [("block", .object [("type", .int 3)])]]) ?_
  · rw [List.forall_mem_singleton]
    exact .branch (.inl rfl)
  · rw [List.forall_mem_cons, List.forall_mem_singleton]
    exact ⟨.lead rfl, .block htext⟩

/-- The text of an object whose tree is a list, which is no document. -/
def listForTree : ByteArray :=
  ⟨#[0x7b, 0x22, 0x61, 0x73, 0x74, 0x22, 0x3a, 0x5b, 0x5d, 0x7d]⟩

theorem accepts_exactly_grammar_guarded :
    (guarded.nesting < 2 * 3 ∧ IsNode guarded ∧ ∃ t last, Load.tree 3 guarded [] = .ok t last)
    ∧ value ⟨2, 1, 1⟩ listForTree = .ok (.object [("ast", .list [])])
    ∧ ¬ IsDocument (.object [("ast", .list [])])
    ∧ ∃ cause location, (read ⟨2, 1, 1⟩ "page" listForTree).1 = .error (.malformed cause location) := by
  have hnesting : guarded.nesting < 2 * 3 := by decide
  have hvalue : value ⟨2, 1, 1⟩ listForTree = .ok (.object [("ast", .list [])]) := by rfl
  have hnot : ¬ IsDocument (.object [("ast", .list [])]) := by
    rintro ⟨⟨⟩, hnode, -⟩
    exact nomatch hnode
  have hloads := (accepts_exactly_grammar.1 3 guarded [] hnesting).1.mpr isNode_guarded
  exact ⟨⟨hnesting, isNode_guarded, hloads⟩,
    hvalue, hnot,
    (accepts_exactly_grammar.2 ⟨2, 1, 1⟩ "page" listForTree _ hvalue (.inr (by decide))).2 hnot⟩

end Document

end MiniTemplate

import MiniTemplate.Json.Reader
import MiniTemplate.Proofs.Stateless
/-!
# How deep brackets nest in a value

A value that stands in a list or in a field of an object lies one bracket deeper than the whole. What
comes out of the reader nests no deeper than the reader was allowed to go: each pair of brackets is
read with a limit that is lower by one for what is inside.
-/

namespace MiniTemplate

namespace Value

mutual

/-- How many lists and objects lie around the innermost value. -/
def nesting : Value → Nat
  | .list items => itemNesting items + 1
  | .object fields => fieldNesting fields + 1
  | _ => 0

def itemNesting : List Value → Nat
  | [] => 0
  | item :: items => max item.nesting (itemNesting items)

def fieldNesting : List (String × Value) → Nat
  | [] => 0
  | (_, value) :: fields => max value.nesting (fieldNesting fields)

end

theorem itemNesting_le_iff (items : List Value) (bound : Nat) :
    itemNesting items ≤ bound ↔ ∀ item ∈ items, item.nesting ≤ bound := by
  induction items with
  | nil => simp [itemNesting]
  | cons item items ih => rw [itemNesting, Nat.max_le, List.forall_mem_cons, ih]

theorem fieldNesting_le_iff (fields : Fields) (bound : Nat) :
    fieldNesting fields ≤ bound ↔ ∀ field ∈ fields, field.2.nesting ≤ bound := by
  induction fields with
  | nil => simp [fieldNesting]
  | cons field fields ih => rw [fieldNesting, Nat.max_le, List.forall_mem_cons, ih]

theorem nesting_lt_of_mem {items : List Value} {item : Value} (hmem : item ∈ items) :
    item.nesting < (Value.list items).nesting :=
  Nat.lt_succ_of_le ((itemNesting_le_iff items _).mp (Nat.le_refl _) item hmem)

end Value

open Value

namespace Fields

theorem mem_of_get? {fields : Fields} {key : String} {value : Value}
    (hget : fields.get? key = some value) : (key, value) ∈ fields := by
  obtain ⟨before, after, hfields, -⟩ := List.lookup_eq_some_iff.mp hget
  rw [hfields]
  exact List.mem_append_right before List.mem_cons_self

theorem nesting_of_get? {fields : Fields} {key : String} {value : Value}
    (hget : fields.get? key = some value) : value.nesting < (Value.object fields).nesting :=
  Nat.lt_succ_of_le ((fieldNesting_le_iff fields _).mp (Nat.le_refl _) _ (mem_of_get? hget))

theorem nesting_get_lt (fields : Fields) (key : String) :
    (fields.get key).nesting < (Value.object fields).nesting := by
  rw [get]
  cases hget : fields.get? key with
  | none => exact Nat.succ_pos _
  | some value => exact nesting_of_get? hget

theorem mem_set {fields : Fields} {key : String} {value : Value} {field : String × Value}
    (hmem : field ∈ fields.set key value) : field = (key, value) ∨ field ∈ fields := by
  induction fields with
  | nil => exact .inl (List.mem_singleton.mp hmem)
  | cons first fields ih =>
      rw [set] at hmem
      split at hmem
      · rcases List.mem_cons.mp hmem with hfield | hmem
        · exact .inl hfield
        · exact .inr (List.mem_cons_of_mem first hmem)
      · rcases List.mem_cons.mp hmem with hfield | hmem
        · exact .inr (hfield ▸ List.mem_cons_self)
        · exact (ih hmem).imp_right (List.mem_cons_of_mem first)

end Fields

namespace Json

open Markup

/-- Whatever a reader gives nests so deep at most. -/
def NestsUpTo (bound : Nat) (item : Reader Value) : Prop :=
  ∀ {input rest : List Char} {value : Value}, item input = .ok (value, rest) → value.nesting ≤ bound

theorem nesting_of_readWord {input rest : List Char} {value : Value}
    (hread : readWord input = some (value, rest)) : value.nesting = 0 := by
  have hwords : ∀ word ∈ words, word.2.nesting = 0 := by
    simp [words, nesting]
  obtain ⟨word, hword, hfound⟩ := List.exists_of_findSome?_eq_some hread
  obtain ⟨left, -, hvalue⟩ := Option.map_eq_some_iff.mp hfound
  cases hvalue
  exact hwords word hword

theorem nesting_of_readNumber {input rest : List Char} {value : Value}
    (hread : readNumber input = .ok (value, rest)) : value.nesting = 0 := by
  rw [readNumber] at hread
  split at hread
  · exact nomatch hread
  · split at hread
    · cases hread
      rfl
    · split at hread
      · exact nomatch hread
      · cases hread
        rfl

theorem nesting_of_readItems {bound : Nat} {item : Reader Value} (hitem : NestsUpTo bound item)
    {fuel : Nat} {done : List Value} (hdone : ∀ value ∈ done, value.nesting ≤ bound)
    {input rest : List Char} {value : Value}
    (hread : readItems item fuel done input = .ok (value, rest)) : value.nesting ≤ bound + 1 := by
  induction fuel generalizing done input with
  | zero => exact nomatch hread
  | succ fuel ih =>
      rw [readItems] at hread
      obtain ⟨⟨first, left⟩, hfirst, hread⟩ := bind_eq_ok hread
      have hmore : ∀ value ∈ first :: done, value.nesting ≤ bound :=
        List.forall_mem_cons.mpr ⟨hitem hfirst, hdone⟩
      dsimp only at hread
      split at hread
      · cases hread
        refine Nat.succ_le_succ ((itemNesting_le_iff _ bound).mpr fun value hmem => ?_)
        exact hmore value (List.mem_reverse.mp hmem)
      · exact ih hmore hread
      · exact nomatch hread

theorem nesting_of_readField {bound : Nat} {item : Reader Value} (hitem : NestsUpTo bound item)
    {input rest : List Char} {field : String × Value}
    (hread : readField item input = .ok (field, rest)) : field.2.nesting ≤ bound := by
  rw [readField.eq_def] at hread
  split at hread
  · obtain ⟨⟨key, left⟩, -, hread⟩ := bind_eq_ok hread
    dsimp only at hread
    split at hread
    · obtain ⟨⟨value, last⟩, hvalue, hread⟩ := bind_eq_ok hread
      cases hread
      exact hitem hvalue
    · exact nomatch hread
  · exact nomatch hread

theorem nesting_of_readFields {bound : Nat} {item : Reader Value} (hitem : NestsUpTo bound item)
    {fuel : Nat} {fields : Fields} (hfields : ∀ field ∈ fields, field.2.nesting ≤ bound)
    {input rest : List Char} {value : Value}
    (hread : readFields item fuel fields input = .ok (value, rest)) :
    value.nesting ≤ bound + 1 := by
  induction fuel generalizing fields input with
  | zero => exact nomatch hread
  | succ fuel ih =>
      rw [readFields] at hread
      obtain ⟨⟨⟨key, found⟩, left⟩, hfield, hread⟩ := bind_eq_ok hread
      have hmore : ∀ field ∈ fields.set key found, field.2.nesting ≤ bound := by
        intro field hmem
        rcases Fields.mem_set hmem with rfl | hmem
        · exact nesting_of_readField hitem hfield
        · exact hfields field hmem
      dsimp only at hread
      split at hread
      · cases hread
        exact Nat.succ_le_succ ((fieldNesting_le_iff _ bound).mpr hmore)
      · exact ih hmore hread
      · exact nomatch hread

theorem nestsUpTo_readValue (depth : Nat) : NestsUpTo depth (readValue depth) := by
  induction depth using Nat.strongRecOn with
  | ind depth ih =>
      intro input rest value hread
      rw [readValue.eq_def] at hread
      dsimp only at hread
      split at hread
      · obtain ⟨⟨text, left⟩, -, hread⟩ := bind_eq_ok hread
        cases hread
        exact Nat.zero_le _
      · exact nomatch hread
      · rename_i inner
        split at hread
        · cases hread
          exact Nat.succ_le_succ (Nat.zero_le inner)
        · exact nesting_of_readItems (ih inner inner.lt_succ_self)
            (fun _ hmem => absurd hmem List.not_mem_nil) hread
      · exact nomatch hread
      · rename_i inner
        split at hread
        · cases hread
          exact Nat.succ_le_succ (Nat.zero_le inner)
        · exact nesting_of_readFields (ih inner inner.lt_succ_self)
            (fun _ hmem => absurd hmem List.not_mem_nil) hread
      · split at hread
        · rename_i hword
          cases hread
          exact (nesting_of_readWord hword).symm ▸ Nat.zero_le _
        · exact (nesting_of_readNumber hread).symm ▸ Nat.zero_le _

theorem nesting_of_readAll {depth : Nat} {input : List Char} {value : Value}
    (hread : readAll depth input = .ok value) : value.nesting ≤ depth := by
  rw [readAll] at hread
  split at hread
  · exact nomatch hread
  · obtain ⟨⟨found, left⟩, hfound, hread⟩ := bind_eq_ok hread
    dsimp only at hread
    split at hread
    · cases hread
      exact nestsUpTo_readValue depth hfound
    · exact nomatch hread

/-- **What was read nests no deeper than the reader was allowed to go.** -/
theorem nesting_of_read {depth : Nat} {input : List Char} {value : Value}
    (hread : read depth input = .ok value) : value.nesting ≤ depth := by
  rw [read] at hread
  cases hall : readAll depth input with
  | error stop =>
      rw [hall] at hread
      exact nomatch hread
  | ok found =>
      rw [hall] at hread
      cases hread
      exact nesting_of_readAll hall

end Json

end MiniTemplate

import MiniTemplate.Load.File
import MiniTemplate.Proofs.Descent
import MiniTemplate.Proofs.LoadedAlone
/-!
# Work that stays within its limits

Limits do not show in what is done within them. The reader, the loader and the generator either give up
at the limit, or give what they give with any higher limit (`Json.read_eq_of_le`, `Load.tree_eq_of_le`,
`Generation.visit_eq_of_le`). So a document that fits two limits is the same document under both, and
becomes the same template (`Document.Fits.inFile_eq`, `Document.Fits.generate_eq`), whichever limit is
the higher one.
-/

namespace MiniTemplate

/-! ### Reading -/

namespace Json

/-- The first attempt to read gives up for its depth, or it ends as the second does. -/
def TooDeepOr {α : Type} (x y : Except Stop α) : Prop :=
  x = .error .tooDeep ∨ x = y

namespace TooDeepOr

variable {α β : Type}

theorem refl (x : Except Stop α) : TooDeepOr x x :=
  .inr rfl

theorem bind {x y : Except Stop α} {f g : α → Except Stop β} (hx : TooDeepOr x y)
    (hf : ∀ a, TooDeepOr (f a) (g a)) : TooDeepOr (x >>= f) (y >>= g) := by
  rcases hx with rfl | rfl
  · exact .inl rfl
  · cases x with
    | error stop => exact .inr rfl
    | ok a => exact hf a

end TooDeepOr

section Brackets

variable {item other : Reader Value} (hitem : ∀ input, TooDeepOr (item input) (other input))
include hitem

theorem readItems_tooDeepOr (fuel : Nat) (done : List Value) (input : List Char) :
    TooDeepOr (readItems item fuel done input) (readItems other fuel done input) := by
  induction fuel generalizing done input with
  | zero => exact .refl _
  | succ fuel ih =>
      rw [readItems, readItems]
      refine (hitem input).bind fun (value, rest) => ?_
      dsimp only
      split
      · exact .refl _
      · exact ih _ _
      · exact .refl _

theorem readField_tooDeepOr (input : List Char) :
    TooDeepOr (readField item input) (readField other input) := by
  rw [readField.eq_def, readField.eq_def]
  split
  · refine (TooDeepOr.refl _).bind fun (key, rest) => ?_
    dsimp only
    split
    · exact (hitem _).bind fun _ => .refl _
    · exact .refl _
  · exact .refl _

theorem readFields_tooDeepOr (fuel : Nat) (fields : Fields) (input : List Char) :
    TooDeepOr (readFields item fuel fields input) (readFields other fuel fields input) := by
  induction fuel generalizing fields input with
  | zero => exact .refl _
  | succ fuel ih =>
      rw [readFields, readFields]
      refine (readField_tooDeepOr hitem input).bind fun ((key, value), rest) => ?_
      dsimp only
      split
      · exact .refl _
      · exact ih _ _
      · exact .refl _

end Brackets

theorem readValue_tooDeepOr {depth limit : Nat} (hle : depth ≤ limit) (input : List Char) :
    TooDeepOr (readValue depth input) (readValue limit input) := by
  induction depth using Nat.strongRecOn generalizing limit input with
  | ind depth ih =>
      rw [readValue.eq_def depth]
      dsimp only
      split
      · rw [readValue]
        exact .refl _
      · exact .inl rfl
      · rename_i inner
        obtain ⟨outer, rfl⟩ := Nat.exists_eq_succ_of_ne_zero (Nat.ne_zero_of_lt hle)
        have hinner := ih inner inner.lt_succ_self (Nat.le_of_succ_le_succ hle)
        rw [readValue]
        split
        · exact .refl _
        · exact readItems_tooDeepOr hinner _ _ _
      · exact .inl rfl
      · rename_i inner
        obtain ⟨outer, rfl⟩ := Nat.exists_eq_succ_of_ne_zero (Nat.ne_zero_of_lt hle)
        have hinner := ih inner inner.lt_succ_self (Nat.le_of_succ_le_succ hle)
        rw [readValue]
        split
        · exact .refl _
        · exact readFields_tooDeepOr hinner _ _ _
      · rename_i hquote hlist hlist' hobject hobject'
        -- what is left starts with no bracket, whatever the limit is
        have hbracket : ∀ rest, input ≠ '[' :: rest ∧ input ≠ '\x7b' :: rest := by
          cases depth with
          | zero => exact fun rest => ⟨fun h => hlist rest h rfl, fun h => hobject rest h rfl⟩
          | succ inner =>
              exact fun rest => ⟨fun h => hlist' rest inner h rfl, fun h => hobject' rest inner h rfl⟩
        rw [readValue]
        · exact .refl _
        · exact hquote
        · exact fun rest h _ => (hbracket rest).1 h
        · exact fun rest _ h _ => (hbracket rest).1 h
        · exact fun rest h _ => (hbracket rest).2 h
        · exact fun rest _ h _ => (hbracket rest).2 h

theorem readAll_tooDeepOr {depth limit : Nat} (hle : depth ≤ limit) (input : List Char) :
    TooDeepOr (readAll depth input) (readAll limit input) := by
  rw [readAll, readAll]
  split
  · exact .refl _
  · exact (readValue_tooDeepOr hle _).bind fun _ => .refl _

theorem read_eq_of_le {depth limit : Nat} (hle : depth ≤ limit) {input : List Char}
    (hread : read depth input ≠ .error .tooDeep) : read depth input = read limit input := by
  rw [read] at hread ⊢
  rw [read]
  rcases readAll_tooDeepOr hle input with hdeep | hsame
  · rw [hdeep] at hread
    exact absurd rfl hread
  · rw [hsame]

end Json

/-! ### Loading -/

namespace Load

theorem bind_congr {α β : Type} {x y : Load α} {log : Log} (hxy : x log = y log) (f : α → Load β) :
    (x >>= f) log = (y >>= f) log := by
  change EStateM.bind x f log = EStateM.bind y f log
  rw [EStateM.bind, EStateM.bind, hxy]

theorem bind_of_error {α β : Type} {x : Load α} {log last : Log} {fault : LoadFault}
    (hx : x log = .error fault last) (f : α → Load β) : (x >>= f) log = .error fault last := by
  change EStateM.bind x f log = .error fault last
  rw [EStateM.bind, hx]

theorem moved_nil {α : Type} (result : EStateM.Result LoadFault Log α) :
    moved [] [] result = result := by
  have hmap : Event.under [] = id := funext Event.under_nil
  cases result <;> simp [moved, hmap]

theorem tree_eq_of_le {depth limit : Nat} (hle : depth ≤ limit) {data : Value}
    (hload : ∀ last, tree depth data [] ≠ .error .tooDeep last) :
    tree depth data [] = tree limit data [] := by
  rw [tree] at hload ⊢
  rw [node_eq_moved hle hload, moved_nil]

end Load

/-! ### Documents -/

/-- None of the limits is higher than its counterpart. -/
structure Limits.Within (limits more : Limits) : Prop where
  brackets : limits.brackets ≤ more.brackets
  nodes : limits.nodes ≤ more.nodes
  visits : limits.visits ≤ more.visits

def Limits.join (limits other : Limits) : Limits where
  brackets := max limits.brackets other.brackets
  nodes := max limits.nodes other.nodes
  visits := max limits.visits other.visits

theorem Limits.within_join_left (limits other : Limits) : limits.Within (limits.join other) :=
  ⟨Nat.le_max_left _ _, Nat.le_max_left _ _, Nat.le_max_left _ _⟩

theorem Limits.within_join_right (limits other : Limits) : other.Within (limits.join other) :=
  ⟨Nat.le_max_right _ _, Nat.le_max_right _ _, Nat.le_max_right _ _⟩

namespace Document

/-- The document in a file with the given name and content. -/
def inFile (limits : Limits) (name : String) (content : ByteArray) : Except Failure Document :=
  (read limits (Disk.Path.stemOf name) content).1

/-- The limits leave room for all that is done with the document in a file. -/
structure Fits (limits : Limits) (name : String) (content : ByteArray) : Prop where
  loaded : inFile limits name content ≠ .error .tooDeep
  visited : ∀ document, inFile limits name content = .ok document → ∀ last,
    Generation.visit document.tree.graph document.options limits.visits [] none
      { log := [.generating document.options.name] } ≠ .error .tooDeep last

variable {limits more other : Limits} {name stem : String} {content : ByteArray} {data : Value}
  {document : Document}

theorem fits_of_generated (hdocument : inFile limits name content = .ok document)
    (hgenerated : (document.generate limits).failed = false) : Fits limits name content := by
  constructor
  · rw [hdocument]
    exact nofun
  · intro found hfound last hdeep
    rw [hdocument] at hfound
    cases hfound
    obtain ⟨inner, final, hvisit, -⟩ := Generation.visit_of_generate hgenerated
    cases hvisit.symm.trans hdeep

theorem fits_of_error {failure : Failure} (hdocument : inFile limits name content = .error failure)
    (hfailure : failure ≠ .tooDeep) : Fits limits name content := by
  constructor
  · rw [hdocument]
    exact fun hsame => hfailure (Except.error.inj hsame)
  · intro document hloaded
    rw [hdocument] at hloaded
    cases hloaded

theorem value_eq_of_within (hwithin : limits.Within more)
    (hvalue : value limits content ≠ .error .tooDeep) :
    value limits content = value more content := by
  rw [value] at hvalue ⊢
  rw [value]
  split
  · rfl
  next chars hchars =>
    rw [hchars] at hvalue
    rw [← Json.read_eq_of_le hwithin.brackets]
    intro hdeep
    dsimp only at hvalue
    rw [hdeep] at hvalue
    exact hvalue rfl

theorem ofValue_eq_of_within (hwithin : limits.Within more)
    (hload : ∀ last, ofValue limits stem data [] ≠ .error .tooDeep last) :
    ofValue limits stem data [] = ofValue more stem data [] := by
  cases data with
  | object fields =>
      rw [ofValue] at hload ⊢
      rw [ofValue]
      cases hroot : Fields.get? fields "ast" with
      | none => rfl
      | some root =>
          simp only [hroot] at hload ⊢
          cases hoptions : Load.options (.object fields) with
          | error fault => rfl
          | ok options =>
              simp only [hoptions] at hload
              refine Load.bind_congr (Load.tree_eq_of_le hwithin.nodes ?_) _
              exact fun last hdeep => hload last (Load.bind_of_error hdeep _)
  | _ => rfl

/-- A document that is not refused for its depth is the same with higher limits. -/
theorem inFile_eq_of_within (hwithin : limits.Within more)
    (hloaded : inFile limits name content ≠ .error .tooDeep) :
    inFile limits name content = inFile more name content := by
  rw [inFile, read] at hloaded ⊢
  rw [inFile, read]
  have hvalue : value limits content ≠ .error .tooDeep := by
    intro hdeep
    rw [hdeep] at hloaded
    exact hloaded rfl
  rw [← value_eq_of_within hwithin hvalue]
  cases hdata : value limits content with
  | error failure => rfl
  | ok data =>
      rw [hdata] at hloaded
      dsimp only [EStateM.run] at hloaded ⊢
      rw [← ofValue_eq_of_within hwithin]
      intro last hdeep
      rw [hdeep] at hloaded
      exact hloaded rfl

theorem Fits.inFile_eq (hfits : Fits limits name content) (hother : Fits other name content) :
    inFile limits name content = inFile other name content := by
  rw [inFile_eq_of_within (limits.within_join_left other) hfits.loaded,
    inFile_eq_of_within (limits.within_join_right other) hother.loaded]

theorem Fits.generate_eq (hfits : Fits limits name content) (hother : Fits other name content)
    (hdocument : inFile limits name content = .ok document) :
    document.generate limits = document.generate other := by
  have hvisited := hfits.visited document hdocument
  have hvisited' := hother.visited document (hfits.inFile_eq hother ▸ hdocument)
  rw [generate, generate, Generation.generate_eq_of_le (limits.within_join_left other).visits hvisited,
    Generation.generate_eq_of_le (limits.within_join_right other).visits hvisited']

theorem Fits.mono (hwithin : limits.Within more) (hfits : Fits limits name content) :
    Fits more name content := by
  have hsame := inFile_eq_of_within hwithin hfits.loaded
  constructor
  · rw [← hsame]
    exact hfits.loaded
  · intro document hdocument
    rw [← hsame] at hdocument
    have hvisited := hfits.visited document hdocument
    rw [← Generation.visit_eq_of_le hwithin.visits hvisited]
    exact hvisited

end Document

end MiniTemplate

import Mathlib.Data.List.Basic
import MiniTemplate.Load.Tree
import MiniTemplate.Proofs.TextParts
import MiniTemplate.Proofs.TreeGraph
/-!
# Positions in a document

A position is a place in the data of a document, counted as the data counts: children by their index
among all children, those that are left out included, and blocks by the index of their entry. It is
loaded if no step on the way to it leads to a child that is left out.

A node that was loaded stands at a place of the tree, where the children that were left out no longer
count. Positions are ordered in the way in which nodes are loaded: what belongs to a child comes before
what belongs to a later one, and all children come before the blocks of the chain.
-/

namespace MiniTemplate

/-! ### Order -/

/-- The steps from a node in the order in which they are taken. -/
inductive Step.Before : Step → Step → Prop where
  | children {i j : Nat} (h : i < j) : Before (.child i) (.child j)
  | childBlock (i j : Nat) : Before (.child i) (.block j)
  | blocks {i j : Nat} (h : i < j) : Before (.block i) (.block j)

theorem Step.Before.ne {first second : Step} (h : first.Before second) : first ≠ second := by
  intro heq
  cases h with
  | children h =>
      cases heq
      exact Nat.lt_irrefl _ h
  | childBlock => exact nomatch heq
  | blocks h =>
      cases heq
      exact Nat.lt_irrefl _ h

/-- A place comes before another if the first step in which they differ does, or if it is on the way
there. -/
def Place.Before : Place → Place → Prop :=
  List.Lex Step.Before

theorem Place.Before.ne {first second : Place} (h : first.Before second) : first ≠ second := by
  induction h with
  | nil => exact (List.cons_ne_nil _ _).symm
  | rel hstep => exact fun heq => hstep.ne (List.cons.inj heq).1
  | cons _ ih => exact fun heq => ih (List.cons.inj heq).2

/-! ### Texts of places -/

theorem bracket_not_mem_repr (n : Nat) : ']' ∉ (toString n).toList := by
  intro hmem
  change ']' ∈ (Nat.repr n).toList at hmem
  rw [Nat.repr_eq_ofList_toDigits, String.toList_ofList] at hmem
  exact absurd (Nat.isDigit_of_mem_toDigits (by decide) (by decide) hmem) (by decide)

theorem eq_of_number {i j : Nat} {left right : List Char}
    (heq : (toString i).toList ++ ']' :: left = (toString j).toList ++ ']' :: right) :
    i = j ∧ left = right := by
  obtain ⟨hnumber, hrest⟩ :=
    Text.eq_of_append_separator (bracket_not_mem_repr i) (bracket_not_mem_repr j) heq
  have hvalues := congrArg (fun digits => Nat.ofDigitChars 10 digits 0) hnumber
  refine ⟨?_, hrest⟩
  simpa [Nat.toString_eq_ofList_toDigits] using hvalues

theorem Step.toList_text (s : Step) : s.text.toList = match s with
    | .child i => ".children[".toList ++ ((toString i).toList ++ [']'])
    | .block i => ".ifConditions[".toList ++ ((toString i).toList ++ "].block".toList) := by
  cases s with
  | child i =>
      show (".children[" ++ toString i ++ "]").toList = _
      simp
  | block i =>
      show (".ifConditions[" ++ toString i ++ "].block").toList = _
      simp

theorem Step.eq_of_text {first second : Step} {left right : List Char}
    (heq : first.text.toList ++ left = second.text.toList ++ right) :
    first = second ∧ left = right := by
  simp only [Step.toList_text] at heq
  cases first with
  | child i =>
      cases second with
      | child j =>
          simp only [List.append_assoc, List.append_cancel_left_eq] at heq
          obtain ⟨hnumber, hrest⟩ := eq_of_number heq
          exact ⟨by rw [hnumber], hrest⟩
      | block j => exact absurd (List.cons.inj (List.cons.inj heq).2).1 (by decide)
  | block i =>
      cases second with
      | child j => exact absurd (List.cons.inj (List.cons.inj heq).2).1 (by decide)
      | block j =>
          simp only [List.append_assoc, List.append_cancel_left_eq] at heq
          obtain ⟨hnumber, hrest⟩ := eq_of_number heq
          exact ⟨by rw [hnumber], List.append_cancel_left hrest⟩

theorem Place.eq_of_flatMap_text {first second : Place}
    (heq : first.flatMap (fun s => s.text.toList) = second.flatMap fun s => s.text.toList) :
    first = second := by
  have hsome : ∀ (s : Step) (rest : List Char), s.text.toList ++ rest ≠ [] := by
    intro s rest
    cases s <;> simp [Step.toList_text]
  induction first generalizing second with
  | nil =>
      cases second with
      | nil => rfl
      | cons s second => exact absurd heq.symm (hsome s _)
  | cons s first ih =>
      cases second with
      | nil => exact absurd heq (hsome s _)
      | cons s' second =>
          obtain ⟨hstep, hrest⟩ := Step.eq_of_text heq
          rw [hstep, ih hrest]

/-- **Different places have different texts.** -/
theorem Place.eq_of_text {first second : Place} (heq : first.text = second.text) :
    first = second := by
  have hlists := congrArg String.toList heq
  simp only [Place.text, String.toList_append, List.append_cancel_left_eq, String.toList_join,
    List.flatMap_map] at hlists
  exact Place.eq_of_flatMap_text hlists

/-! ### Steps in the data -/

/-- A child that is a later branch of a chain is left out. -/
def Step.skips : Step → Value → Bool
  | .child _, data => Load.isBranch data
  | .block _, _ => false

namespace Value

/-- The items of a field that holds a list. -/
def items (v : Value) (key : String) : List Value :=
  match v with
  | .object (fields : Fields) =>
    match fields.get key with
    | .list items => items
    | _ => []
  | _ => []

/-- The block of an entry of a chain, none for an entry that stands for the lead. -/
def block? : Value → Option Value
  | .object (fields : Fields) =>
    match fields.get "block" with
    | .null => none
    | data => some data
  | _ => none

/-- What a step leads to, also if it is left out. -/
def step? (v : Value) : Step → Option Value
  | .child i => (v.items "children")[i]?
  | .block i => (v.items "ifConditions")[i]?.bind block?

/-- The value at a position. -/
def at? (v : Value) : Place → Option Value
  | [] => some v
  | s :: place => (v.step? s).bind fun w => w.at? place

/-- What a step leads to, if it is loaded. -/
def follow? (v : Value) (s : Step) : Option Value :=
  (v.step? s).filter fun w => !s.skips w

/-- The value at a position that is loaded. -/
def loadedAt? (v : Value) : Place → Option Value
  | [] => some v
  | s :: place => (v.follow? s).bind fun w => w.loadedAt? place

/-- A position is reached if it is the root, or if a step leads to it from a position that is loaded. -/
inductive Reached (v : Value) : Place → Prop where
  | root : Reached v []
  | step {place : Place} {s : Step} {owner w : Value} (hat : v.loadedAt? place = some owner)
      (hstep : owner.step? s = some w) : Reached v (place ++ [s])

/-- A position is skipped if it holds a child that is left out, of a node that is loaded. -/
def SkippedAt (v : Value) (place : Place) : Prop :=
  ∃ parent s owner w, place = parent ++ [s] ∧ v.loadedAt? parent = some owner
    ∧ owner.step? s = some w ∧ s.skips w = true

theorem follow?_eq_some_iff {v w : Value} {s : Step} :
    v.follow? s = some w ↔ v.step? s = some w ∧ s.skips w = false := by
  rw [follow?, Option.filter_eq_some_iff, Bool.not_eq_true']

theorem follow?_eq_none_of_skips {v w : Value} {s : Step} (hstep : v.step? s = some w)
    (hskips : s.skips w = true) : v.follow? s = none := by
  rw [follow?, hstep, Option.filter_some, hskips]
  rfl

theorem loadedAt?_append (v : Value) (place rest : Place) :
    v.loadedAt? (place ++ rest) = (v.loadedAt? place).bind fun w => w.loadedAt? rest := by
  induction place generalizing v with
  | nil => rfl
  | cons s place ih =>
      rw [List.cons_append, loadedAt?, loadedAt?, Option.bind_assoc]
      cases v.follow? s with
      | none => rfl
      | some w => exact ih w

theorem loadedAt?_snoc {v owner : Value} {place : Place} (hat : v.loadedAt? place = some owner)
    (s : Step) : v.loadedAt? (place ++ [s]) = owner.follow? s := by
  rw [loadedAt?_append, hat]
  exact Option.bind_fun_some _

theorem loadedAt?_cons_eq_some_iff {v w : Value} {s : Step} {place : Place} :
    v.loadedAt? (s :: place) = some w ↔
      ∃ next, v.follow? s = some next ∧ next.loadedAt? place = some w :=
  Option.bind_eq_some_iff

theorem not_skippedAt_nil (v : Value) : ¬ v.SkippedAt [] := by
  intro hskipped
  obtain ⟨parent, s, -, -, hplace, -⟩ := hskipped
  exact List.append_ne_nil_of_right_ne_nil parent (List.cons_ne_nil s []) hplace.symm

/-- A step leads to a skipped position if it is skipped itself, or if it is taken and leads on to one. -/
theorem skippedAt_cons_iff (v : Value) (s : Step) (rest : Place) :
    v.SkippedAt (s :: rest) ↔ (∃ w, v.step? s = some w ∧ s.skips w = true ∧ rest = [])
      ∨ ∃ w, v.follow? s = some w ∧ w.SkippedAt rest := by
  constructor
  · intro hskipped
    obtain ⟨parent, last, owner, w, hplace, hat, hstep, hskips⟩ := hskipped
    cases parent with
    | nil =>
        cases hplace
        cases hat
        exact .inl ⟨w, hstep, hskips, rfl⟩
    | cons first parent =>
        obtain ⟨hfirst, hrest⟩ := List.cons.inj hplace
        obtain ⟨next, hnext, hat⟩ := loadedAt?_cons_eq_some_iff.mp hat
        exact .inr ⟨next, hfirst ▸ hnext, parent, last, owner, w, hrest, hat, hstep, hskips⟩
  · intro hcases
    rcases hcases with ⟨w, hstep, hskips, hrest⟩ | ⟨next, hnext, hskipped⟩
    · exact ⟨[], s, v, w, by rw [hrest]; rfl, rfl, hstep, hskips⟩
    · obtain ⟨parent, last, owner, w, hrest, hat, hstep, hskips⟩ := hskipped
      refine ⟨s :: parent, last, owner, w, by rw [hrest]; rfl, ?_, hstep, hskips⟩
      exact loadedAt?_cons_eq_some_iff.mpr ⟨next, hnext, hat⟩

theorem SkippedAt.not_loaded {v : Value} {place : Place} (hskipped : v.SkippedAt place) :
    v.loadedAt? place = none := by
  obtain ⟨parent, s, owner, w, rfl, hat, hstep, hskips⟩ := hskipped
  rw [loadedAt?_snoc hat]
  exact follow?_eq_none_of_skips hstep hskips

/-- What is reached is loaded or skipped. -/
theorem reached_iff (v : Value) (place : Place) :
    v.Reached place ↔ (v.loadedAt? place).isSome = true ∨ v.SkippedAt place := by
  constructor
  · intro hreached
    cases hreached with
    | root => exact .inl rfl
    | @step parent s owner w hat hstep =>
        cases hskips : s.skips w with
        | true => exact .inr ⟨parent, s, owner, w, rfl, hat, hstep, hskips⟩
        | false =>
            rw [loadedAt?_snoc hat, follow?_eq_some_iff.mpr ⟨hstep, hskips⟩]
            exact .inl rfl
  · intro hcases
    rcases hcases with hloaded | ⟨parent, s, owner, w, rfl, hat, hstep, -⟩
    · rcases List.eq_nil_or_concat place with rfl | ⟨parent, s, rfl⟩
      · exact .root
      · rw [List.concat_eq_append] at hloaded ⊢
        obtain ⟨w, hw⟩ := Option.isSome_iff_exists.mp hloaded
        rw [loadedAt?_append] at hw
        obtain ⟨owner, hat, hnext⟩ := Option.bind_eq_some_iff.mp hw
        obtain ⟨next, hfollow, -⟩ := loadedAt?_cons_eq_some_iff.mp hnext
        exact .step hat (follow?_eq_some_iff.mp hfollow).1
    · exact .step hat hstep

/-! ### Places in the tree -/

/-- Which step in the tree a step in the data becomes: children that are left out do not count. -/
def standingStep (v : Value) : Step → Step
  | .child i => .child (((v.items "children").take i).countP fun w => !Load.isBranch w)
  | .block i => .block i

/-- The place in the tree of the node at a position that is loaded. -/
def standing (v : Value) : Place → Place
  | [] => []
  | s :: place =>
    v.standingStep s :: match v.follow? s with
      | some w => w.standing place
      | none => place

theorem standing_cons {v w : Value} {s : Step} (hfollow : v.follow? s = some w) (place : Place) :
    v.standing (s :: place) = v.standingStep s :: w.standing place := by
  rw [standing, hfollow]

theorem standing_snoc {v owner : Value} {place : Place} (hat : v.loadedAt? place = some owner)
    (s : Step) : v.standing (place ++ [s]) = v.standing place ++ [owner.standingStep s] := by
  induction place generalizing v with
  | nil =>
      have hroot : v = owner := Option.some.inj hat
      rw [← hroot]
      show v.standing [s] = [v.standingStep s]
      rw [standing]
      cases v.follow? s <;> rfl
  | cons first place ih =>
      obtain ⟨next, hnext, hat⟩ := loadedAt?_cons_eq_some_iff.mp hat
      rw [List.cons_append, standing_cons hnext, standing_cons hnext, ih hat, List.cons_append]

end Value

end MiniTemplate

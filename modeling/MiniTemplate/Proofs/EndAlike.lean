import Mathlib.Data.List.Forall2
import MiniTemplate.Proofs.Descent
/-!
# Runs that end alike

Two ways of rendering are compared by how they end: they fail with the same failure, or they give values
that are related. What the relation is, is left open here. It may be equality, or it may say less, as
long as markup that is put together from related pieces is related again (`Respected`).
-/

namespace MiniTemplate

/-- Two computations that fail with the same failure, or give results that are related. -/
inductive EndAlike {α β : Type} (related : α → β → Prop) :
    Except Failure α → Except Failure β → Prop where
  | ok {a : α} {b : β} (h : related a b) : EndAlike related (.ok a) (.ok b)
  | error (failure : Failure) : EndAlike related (.error failure) (.error failure)

namespace EndAlike

variable {α β γ δ : Type} {related : α → β → Prop} {next : γ → δ → Prop}

theorem refl {related : α → α → Prop} (hrefl : ∀ a, related a a) (x : Except Failure α) :
    EndAlike related x x := by
  cases x with
  | error failure => exact .error failure
  | ok a => exact .ok (hrefl a)

theorem eq {x y : Except Failure α} (hxy : EndAlike Eq x y) : x = y := by
  cases hxy with
  | error failure => rfl
  | ok h => rw [h]

theorem bind {x : Except Failure α} {y : Except Failure β} {f : α → Except Failure γ}
    {g : β → Except Failure δ} (hxy : EndAlike related x y)
    (hfg : ∀ a b, related a b → EndAlike next (f a) (g b)) : EndAlike next (x >>= f) (y >>= g) := by
  cases hxy with
  | error failure => exact .error failure
  | ok h => exact hfg _ _ h

theorem eq_error {failure : Failure} {y : Except Failure β}
    (hxy : EndAlike related (.error failure) y) : y = .error failure := by
  cases hxy with
  | error failure => rfl

theorem exists_of_ok {a : α} {y : Except Failure β} (hxy : EndAlike related (.ok a) y) :
    ∃ b, y = .ok b ∧ related a b := by
  cases hxy with
  | ok h => exact ⟨_, rfl, h⟩

end EndAlike

namespace Generation

/-- Markup that is put together from related pieces is related. -/
structure Respected (related : Value → Value → Prop) : Prop where
  refl : ∀ v, related v v
  element : ∀ start tag {pieces others}, List.Forall₂ related pieces others →
    EndAlike related (finishElement start tag pieces) (finishElement start tag others)
  chain : ∀ {pieces others}, List.Forall₂ related pieces others →
    EndAlike related (finishChain pieces) (finishChain others)

theorem respected_eq : Respected Eq where
  refl := fun _ => rfl
  element := by
    intro start tag pieces others hsame
    rw [List.forall₂_eq_eq_eq] at hsame
    rw [hsame]
    exact .refl (fun _ => rfl) _
  chain := by
    intro pieces others hsame
    rw [List.forall₂_eq_eq_eq] at hsame
    rw [hsame]
    exact .refl (fun _ => rfl) _

/-- Where each visit that begins ends as its link says, the list of them does too. -/
theorem alike_visitAll {ι : Type} {visit : Visit ι} {related : Value → Value → Prop} (depth : Nat)
    {links : List (Link ι)} {pass : Pass ι} {value : Link ι → Except Failure Value}
    (hvalue : ∀ a ∈ begun visit depth links pass,
      EndAlike related (outcome (visit a.node a.guard a.pass)) (value (a.node, a.guard))) :
    EndAlike (List.Forall₂ related) (outcome (visitAll visit links pass)) (links.mapM value) := by
  induction links generalizing pass with
  | nil => exact .ok .nil
  | cons link links ih =>
      have hhead : EndAlike related (outcome (visit link.1 link.2 pass)) (value link) :=
        hvalue ⟨depth, link.1, link.2, pass⟩ List.mem_cons_self
      rw [List.mapM_cons]
      cases hrun : visit link.1 link.2 pass with
      | error failure last =>
          rw [hrun] at hhead
          rw [visitAll_cons_of_error hrun, hhead.eq_error]
          exact .error failure
      | ok piece mid =>
          rw [hrun] at hhead
          obtain ⟨piece', hpiece', hrelated⟩ := hhead.exists_of_ok
          have htail : EndAlike (List.Forall₂ related) (outcome (visitAll visit links mid))
              (links.mapM value) := by
            apply ih
            intro a ha
            apply hvalue a
            rw [begun, hrun]
            exact List.mem_cons_of_mem _ ha
          rw [visitAll_cons_of_ok hrun, hpiece']
          cases hrest : visitAll visit links mid with
          | error failure last =>
              rw [hrest] at htail
              rw [htail.eq_error]
              exact .error failure
          | ok pieces last =>
              rw [hrest] at htail
              obtain ⟨pieces', hpieces', hall⟩ := htail.exists_of_ok
              rw [hpieces']
              exact .ok (.cons hrelated hall)

end Generation

end MiniTemplate

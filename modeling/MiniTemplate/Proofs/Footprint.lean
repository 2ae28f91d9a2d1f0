import Mathlib.Logic.Relation
import MiniTemplate.Proofs.Correspondence
/-!
# The footprint of a visit

A visit reads and writes the one pass at every depth, also where it fails later. But it looks only at
the leads that it can reach through links, and only these can it record. This is the correspondence of
a graph with itself, on what a node reaches, from passes that agree there and may differ elsewhere.

It follows that visits to nodes that reach nothing in common do not interfere: each gives the same
before and after the other, and in either order the same chains are expanded at the end.
-/

namespace MiniTemplate

open Relation

variable {ι : Type}

/-- A node links to its children and to the blocks of its chain. -/
def Graph.Links (graph : Graph ι) (i j : ι) : Prop :=
  j ∈ (graph i).children ∨ ∃ condition ∈ (graph i).chain, condition.block = j

def Graph.Reaches (graph : Graph ι) : ι → ι → Prop :=
  ReflTransGen graph.Links

namespace Generation

variable {graph : Graph ι} {i j : ι} {pass pass' : Pass ι}

theorem links_of_mem {link : Link ι} (hmem : link ∈ childLinks (graph i) ++ chainLinks (graph i)) :
    graph.Links i link.1 := by
  rcases List.mem_append.mp hmem with hmem | hmem
  · obtain ⟨child, hchild, rfl⟩ := List.mem_map.mp hmem
    exact .inl hchild
  · obtain ⟨condition, hcondition, rfl⟩ := List.mem_map.mp hmem
    exact .inr ⟨condition, hcondition, rfl⟩

theorem corresponds_reaches (graph : Graph ι) (i : ι) :
    Corresponds graph graph id (graph.Reaches i) where
  label := fun _ _ => rfl
  children := fun _ _ => (List.map_id _).symm
  chain := fun _ _ => (List.map_id _).symm
  closed := fun _ hreach _ hmem => hreach.tail (links_of_mem hmem)
  injective := fun _ _ _ _ _ _ heq => heq

theorem ofExcept_after_inj {α : Type} {x y : Except Failure α} {fresh more : List ι} {events later : Log}
    (heq : ofExcept x (pass.after fresh events) = ofExcept y (pass.after more later)) :
    x = y ∧ fresh = more ∧ events = later := by
  have hresult := congrArg outcome heq
  have hpass := congrArg finalPass heq
  rw [outcome_ofExcept, outcome_ofExcept] at hresult
  rw [finalPass_ofExcept, finalPass_ofExcept, Pass.after, Pass.after, Pass.mk.injEq] at hpass
  exact ⟨hresult, List.append_cancel_right hpass.1, List.append_cancel_left hpass.2⟩

/-- A pass agrees on what a node reaches with one that grew elsewhere. -/
theorem mem_after_iff (hapart : ∀ k, graph.Reaches i k → ¬ graph.Reaches j k) {fresh : List ι}
    (hfresh : ∀ k ∈ fresh, graph.Reaches i k ∧ k ∉ pass.expanded) (events : Log) {k : ι}
    (hreach : graph.Reaches j k) : k ∈ pass.expanded ↔ k ∈ (pass.after fresh events).expanded := by
  change _ ↔ k ∈ fresh ++ pass.expanded
  rw [List.mem_append]
  exact ⟨.inr, fun hmem => hmem.resolve_left fun hmem => hapart k (hfresh k hmem).1 hreach⟩

variable [DecidableEq ι]

/-- **What a visit gives, expands and reports is fixed by the pass on what the node reaches.** -/
theorem visit_frame (graph : Graph ι) (options : Options) (depth : Nat) (i : ι) (guard : Option Guard)
    (pass : Pass ι) :
    ∃ result fresh events, (∀ j ∈ fresh, graph.Reaches i j ∧ j ∉ pass.expanded)
      ∧ ∀ pass' : Pass ι, (∀ j, graph.Reaches i j → (j ∈ pass.expanded ↔ j ∈ pass'.expanded)) →
        visit graph options depth i guard pass' = ofExcept result (pass'.after fresh events) := by
  have htogether := visit_together (corresponds_reaches graph i) options depth i guard .refl
  obtain ⟨result, fresh, events, hfresh, hrun, -⟩ := htogether pass pass fun _ _ _ => Iff.rfl
  refine ⟨result, fresh, events, fun j hj => ⟨(hfresh j hj).1, (hfresh j hj).2.2⟩, ?_⟩
  intro pass' hagree
  obtain ⟨result', fresh', events', -, hrun', hother⟩ :=
    htogether pass pass' fun j hreach _ => hagree j hreach
  obtain ⟨rfl, rfl, rfl⟩ := ofExcept_after_inj (hrun.symm.trans hrun')
  rw [List.map_id] at hother
  exact hother

/-- **A visit stays within what its node reaches**: from passes that agree there it gives the same and
records the same leads, all of them within reach. So two visits that reach nothing in common can be
made in either order, also if one of them fails. -/
theorem visits_stay_within_reach (graph : Graph ι) (options : Options) :
    (∀ depth i guard (pass : Pass ι), ∃ result fresh events,
      (∀ j ∈ fresh, graph.Reaches i j ∧ j ∉ pass.expanded)
      ∧ ∀ pass' : Pass ι, (∀ j, graph.Reaches i j → (j ∈ pass.expanded ↔ j ∈ pass'.expanded)) →
        visit graph options depth i guard pass' = ofExcept result (pass'.after fresh events))
    ∧ ∀ (depth depth' : Nat) (i j : ι) (guard guard' : Option Guard) (pass : Pass ι),
      (∀ k, graph.Reaches i k → ¬ graph.Reaches j k) →
      outcome (visit graph options depth i guard
          (finalPass (visit graph options depth' j guard' pass))) =
        outcome (visit graph options depth i guard pass)
      ∧ outcome (visit graph options depth' j guard'
          (finalPass (visit graph options depth i guard pass))) =
        outcome (visit graph options depth' j guard' pass)
      ∧ (finalPass (visit graph options depth i guard
          (finalPass (visit graph options depth' j guard' pass)))).expanded.Perm
        (finalPass (visit graph options depth' j guard'
          (finalPass (visit graph options depth i guard pass)))).expanded := by
  refine ⟨visit_frame graph options, ?_⟩
  intro depth depth' i j guard guard' pass hapart
  obtain ⟨result, fresh, events, hfresh, hrun⟩ := visit_frame graph options depth i guard pass
  obtain ⟨result', fresh', events', hfresh', hrun'⟩ := visit_frame graph options depth' j guard' pass
  have hapart' : ∀ k, graph.Reaches j k → ¬ graph.Reaches i k := fun k hj hi => hapart k hi hj
  rw [hrun' pass fun _ _ => Iff.rfl, hrun pass fun _ _ => Iff.rfl, finalPass_ofExcept, finalPass_ofExcept,
    hrun _ fun k hk => mem_after_iff hapart' hfresh' events' hk,
    hrun' _ fun k hk => mem_after_iff hapart hfresh events hk]
  simp only [outcome_ofExcept, finalPass_ofExcept, true_and]
  change (fresh ++ (fresh' ++ pass.expanded)).Perm (fresh' ++ (fresh ++ pass.expanded))
  rw [← List.append_assoc, ← List.append_assoc]
  exact List.perm_append_comm.append_right pass.expanded

/-- Two leads, each its own block and its own child. One of them has no tag. -/
def apart : Graph Bool := fun i =>
  { label := { tag := if i then .null else .str "p", handle := .int 1 }
    children := [i]
    chain := [⟨.ifTrue, i, .null⟩] }

theorem eq_of_reaches_apart {i j : Bool} (hreach : apart.Reaches i j) : j = i := by
  induction hreach with
  | refl => rfl
  | tail _ hlink ih =>
      subst ih
      rcases hlink with hmem | ⟨condition, hmem, rfl⟩
      · exact List.mem_singleton.mp hmem
      · rw [List.mem_singleton.mp hmem]

theorem visits_stay_within_reach_apart :
    (∀ k, apart.Reaches false k → ¬ apart.Reaches true k)
      ∧ outcome (visit apart {} 3 true none {}) = .error (.noTag (.str "defaultName"))
      ∧ outcome (visit apart {} 3 true none (finalPass (visit apart {} 3 false none {}))) =
        .error (.noTag (.str "defaultName"))
      ∧ (finalPass (visit apart {} 3 false none (finalPass (visit apart {} 3 true none {})))).expanded.Perm
        (finalPass (visit apart {} 3 true none (finalPass (visit apart {} 3 false none {})))).expanded := by
  have hapart : ∀ k, apart.Reaches false k → ¬ apart.Reaches true k := by
    intro k hfalse htrue
    cases (eq_of_reaches_apart hfalse).symm.trans (eq_of_reaches_apart htrue)
  have hfails : outcome (visit apart {} 3 true none {}) = .error (.noTag (.str "defaultName")) := by rfl
  obtain ⟨-, hother, hperm⟩ :=
    (visits_stay_within_reach apart {}).2 3 3 false true none none {} hapart
  exact ⟨hapart, hfails, hother.trans hfails, hperm⟩

end Generation

end MiniTemplate

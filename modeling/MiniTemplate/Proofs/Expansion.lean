import MiniTemplate.Proofs.Descent
/-!
# Chains are expanded once

A pass records a lead when its chain is expanded and never forgets it, whatever fails later. So the
leads that a run adds to the pass are the nodes whose chain was expanded in it, in the order of the
expansions and without repetition. The argument is the same for one visit, for a list of visits and
for a sequence of requests in one pass: each of them makes the pass grow by expansions (`Grows`), and
growing composes.

Nothing is assumed of the graph. A node may be its own descendant, a block of several chains, or a
block of a chain that is a block of its own.
-/

namespace MiniTemplate

namespace Generation

variable {ι : Type} [DecidableEq ι]

/-- The nodes whose chain the given visits expand. By `visitWith_of_opens` these are the visits that
run `chain`. -/
def openings (graph : Graph ι) (activations : List (Activation ι)) : List ι :=
  (activations.filter fun a => Opens graph a.pass a.node).map Activation.node

theorem openings_append (graph : Graph ι) (first second : List (Activation ι)) :
    openings graph (first ++ second) = openings graph first ++ openings graph second := by
  simp only [openings, List.filter_append, List.map_append]

theorem openings_singleton_of_opens {graph : Graph ι} {a : Activation ι}
    (hopens : Opens graph a.pass a.node) : openings graph [a] = [a.node] := by
  simp only [openings, List.filter_cons, decide_eq_true hopens, if_true, List.filter_nil,
    List.map_cons, List.map_nil]

theorem openings_singleton_of_not_opens {graph : Graph ι} {a : Activation ι}
    (hopens : ¬ Opens graph a.pass a.node) : openings graph [a] = [] := by
  simp only [openings, List.filter_cons, decide_eq_false hopens, Bool.false_eq_true, if_false,
    List.filter_nil, List.map_nil]

/-- A pass has grown by the given visits: each of them began with the expansions of those before it,
and at the end there are the expansions of them all. -/
structure Grows (graph : Graph ι) (pass last : Pass ι) (activations : List (Activation ι)) : Prop where
  expanded_eq : last.expanded = (openings graph activations).reverse ++ pass.expanded
  nodup : (openings graph activations).Nodup
  opens : ∀ i ∈ openings graph activations, Opens graph pass i
  threaded : ∀ before a after, activations = before ++ a :: after →
    a.pass.expanded = (openings graph before).reverse ++ pass.expanded

namespace Grows

variable {graph : Graph ι} {pass mid last : Pass ι}

theorem nothing (hsame : last.expanded = pass.expanded) : Grows graph pass last [] where
  expanded_eq := hsame
  nodup := List.nodup_nil
  opens := fun _ hmem => absurd hmem List.not_mem_nil
  threaded := fun before a after hsplit => by simp at hsplit

/-- The first visit begins with nothing before it. -/
private theorem threaded_singleton (a : Activation ι) (before : List (Activation ι))
    (b : Activation ι) (after : List (Activation ι)) (hsplit : [a] = before ++ b :: after) :
    b.pass.expanded = (openings graph before).reverse ++ a.pass.expanded := by
  cases before with
  | nil =>
      obtain ⟨rfl, -⟩ := List.cons.inj hsplit
      rfl
  | cons c before => simp at hsplit

theorem expand (a : Activation ι) (hopens : Opens graph a.pass a.node) :
    Grows graph a.pass (recorded a.node a.pass) [a] where
  expanded_eq := by
    rw [openings_singleton_of_opens hopens]
    rfl
  nodup := by
    rw [openings_singleton_of_opens hopens]
    exact List.nodup_cons.mpr ⟨List.not_mem_nil, List.nodup_nil⟩
  opens := by
    intro i hi
    rw [openings_singleton_of_opens hopens, List.mem_singleton] at hi
    exact hi ▸ hopens
  threaded := threaded_singleton a

theorem keep (a : Activation ι) (hopens : ¬ Opens graph a.pass a.node)
    (hsame : last.expanded = a.pass.expanded) : Grows graph a.pass last [a] where
  expanded_eq := by
    rw [openings_singleton_of_not_opens hopens]
    exact hsame
  nodup := by
    rw [openings_singleton_of_not_opens hopens]
    exact List.nodup_nil
  opens := by
    intro i hi
    rw [openings_singleton_of_not_opens hopens] at hi
    exact absurd hi List.not_mem_nil
  threaded := threaded_singleton a

/-- A chain that is still to be expanded was so all along. -/
theorem opens_before {activations : List (Activation ι)} {i : ι}
    (hgrows : Grows graph pass mid activations) (hopens : Opens graph mid i) :
    Opens graph pass i ∧ i ∉ openings graph activations := by
  obtain ⟨hchain, hdone, hnew⟩ := hopens
  rw [hgrows.expanded_eq, List.mem_append, List.mem_reverse, not_or] at hnew
  exact ⟨⟨hchain, hdone, hnew.2⟩, hnew.1⟩

theorem trans {first second : List (Activation ι)} (hfirst : Grows graph pass mid first)
    (hsecond : Grows graph mid last second) : Grows graph pass last (first ++ second) where
  expanded_eq := by
    rw [hsecond.expanded_eq, hfirst.expanded_eq, openings_append, List.reverse_append,
      List.append_assoc]
  nodup := by
    rw [openings_append]
    refine List.nodup_append.mpr ⟨hfirst.nodup, hsecond.nodup, ?_⟩
    intro i hi j hj heq
    subst heq
    exact (hfirst.opens_before (hsecond.opens i hj)).2 hi
  opens := by
    intro i hi
    rw [openings_append] at hi
    rcases List.mem_append.mp hi with hi | hi
    · exact hfirst.opens i hi
    · exact (hfirst.opens_before (hsecond.opens i hi)).1
  threaded := by
    intro before a after hsplit
    -- the visit is one of the first ones, or all of these come before it
    rcases List.append_eq_append_iff.mp hsplit with ⟨rest, hbefore, hrest⟩ | ⟨rest, hleft, hright⟩
    · rw [hsecond.threaded rest a after hrest, hfirst.expanded_eq, hbefore, openings_append,
        List.reverse_append, List.append_assoc]
    · cases rest with
      | nil =>
          rw [List.append_nil] at hleft
          rw [hsecond.threaded [] a after hright.symm, hfirst.expanded_eq, hleft]
          rfl
      | cons b rest =>
          obtain ⟨rfl, -⟩ := List.cons.inj hright
          exact hfirst.threaded before a rest hleft

theorem subset {activations : List (Activation ι)}
    (hgrows : Grows graph pass last activations) : pass.expanded ⊆ last.expanded := by
  intro i hi
  rw [hgrows.expanded_eq]
  exact List.mem_append_right _ hi

end Grows

/-! ### One visit -/

/-- All visits of the runs that the given visits begin. -/
def traces (graph : Graph ι) (options : Options) (depth : Nat) (activations : List (Activation ι)) :
    List (Activation ι) :=
  activations.flatMap fun a => trace graph options depth a.node a.guard a.pass

theorem grows_visitAll {graph : Graph ι} {options : Options} {depth : Nat}
    (hvisit : ∀ i guard pass, Grows graph pass (finalPass (visit graph options depth i guard pass))
      (trace graph options depth i guard pass))
    (links : List (Link ι)) (pass : Pass ι) :
    Grows graph pass (finalPass (visitAll (visit graph options depth) links pass))
      (traces graph options depth (begun (visit graph options depth) depth links pass)) := by
  induction links generalizing pass with
  | nil => exact .nothing rfl
  | cons link links ih =>
      have hhead := hvisit link.1 link.2 pass
      cases hrun : visit graph options depth link.1 link.2 pass with
      | error failure last =>
          rw [hrun] at hhead
          simp only [begun, hrun, traces, List.flatMap_cons, List.flatMap_nil, List.append_nil,
            visitAll_cons_of_error hrun]
          exact hhead
      | ok value mid =>
          rw [hrun] at hhead
          rw [finalPass_visitAll_cons_of_ok hrun]
          simp only [begun, hrun, traces, List.flatMap_cons]
          exact hhead.trans (ih mid)

/-- **A visit makes the pass grow by the visits of its run.** -/
theorem grows_visit (graph : Graph ι) (options : Options) (depth : Nat) (i : ι)
    (guard : Option Guard) (pass : Pass ι) :
    Grows graph pass (finalPass (visit graph options depth i guard pass))
      (trace graph options depth i guard pass) := by
  induction depth generalizing i guard pass with
  | zero => exact .nothing rfl
  | succ depth ih =>
      have hall := fun links start => grows_visitAll ih links start
      let own : Activation ι := ⟨depth + 1, i, guard, pass⟩
      rw [visit_succ, trace, nested]
      rcases move_cases graph options i guard pass with
        ⟨hopens, hmove⟩ | ⟨hopens, result, hmove, hsame⟩ | ⟨hopens, _, last, finish, hmove, hsame⟩
      · rw [hmove, finalPass_run_descend]
        have hown : Grows graph pass (recorded i pass) [own] := .expand own hopens
        exact hown.trans (hall (chainLinks (graph i)) (recorded i pass))
      · rw [hmove]
        exact Grows.keep own hopens hsame
      · rw [hmove, finalPass_run_descend]
        have hown : Grows graph pass last [own] := .keep own hopens hsame
        exact hown.trans (hall (childLinks (graph i)) last)

theorem expanded_subset_visit {graph : Graph ι} {options : Options} {depth : Nat} {i : ι} {guard : Option Guard} {pass last : Pass ι}
    {value : Value} (hvisit : visit graph options depth i guard pass = .ok value last) :
    pass.expanded ⊆ last.expanded := by
  have hgrows := grows_visit graph options depth i guard pass
  rw [hvisit] at hgrows
  exact hgrows.subset

theorem expanded_subset_visitAll {graph : Graph ι} {options : Options} {depth : Nat} {links : List (Link ι)} {pass last : Pass ι}
    {values : List Value}
    (hall : visitAll (visit graph options depth) links pass = .ok values last) :
    pass.expanded ⊆ last.expanded := by
  have hgrows := grows_visitAll (grows_visit graph options depth) links pass
  rw [hall] at hgrows
  exact hgrows.subset

theorem expanded_subset_of_mem_begun {graph : Graph ι} {options : Options} {depth : Nat}
    {links : List (Link ι)} {pass : Pass ι} {a : Activation ι}
    (hmem : a ∈ begun (visit graph options depth) depth links pass) :
    pass.expanded ⊆ a.pass.expanded := by
  obtain ⟨-, before, after, values, -, hbefore⟩ := exists_of_mem_begun hmem
  exact expanded_subset_visitAll hbefore

/-- A lead whose chain counts as expanded gives nothing when it is met outside of its chain. -/
theorem visit_of_expanded {graph : Graph ι} {pass : Pass ι} {i : ι}
    (hchain : (graph i).chain.isEmpty = false) (hexpanded : i ∈ pass.expanded) (options : Options)
    (depth : Nat) : visit graph options (depth + 1) i none pass = .ok (.str "") pass := by
  have hopens : ¬ Opens graph pass i := fun hopens => hopens.2.2 hexpanded
  rw [visit_succ, move, if_neg hopens, hchain]
  rfl

/-- Visits that are beyond the limit do not begin. -/
theorem depth_pos_of_mem_trace {graph : Graph ι} {options : Options} {depth : Nat} {i : ι}
    {guard : Option Guard} {pass : Pass ι} {a : Activation ι}
    (hmem : a ∈ trace graph options depth i guard pass) : 0 < a.depth := by
  induction depth generalizing i guard pass with
  | zero => exact absurd hmem List.not_mem_nil
  | succ depth ih =>
      rw [trace, List.mem_cons, List.mem_flatMap] at hmem
      rcases hmem with rfl | ⟨b, _, hmem⟩
      · exact Nat.succ_pos depth
      · exact ih hmem

/-! ### Requests in one pass -/

/-- A visit that is asked for from outside, with a limit on how deep visits nest. -/
structure Request (ι : Type) where
  node : ι
  guard : Option Guard := none
  limit : Nat

def Request.run (graph : Graph ι) (options : Options) (request : Request ι) : Generation ι Value :=
  visit graph options request.limit request.node request.guard

/-- The pass after some requests. The next one is made from it whether the last one failed or not. -/
def passAfter (graph : Graph ι) (options : Options) : List (Request ι) → Pass ι → Pass ι
  | [], pass => pass
  | request :: requests, pass =>
    passAfter graph options requests (finalPass (request.run graph options pass))

/-- All visits that some requests lead to, in the order in which they begin. -/
def sessionTrace (graph : Graph ι) (options : Options) :
    List (Request ι) → Pass ι → List (Activation ι)
  | [], _ => []
  | request :: requests, pass =>
    trace graph options request.limit request.node request.guard pass
      ++ sessionTrace graph options requests (finalPass (request.run graph options pass))

theorem grows_passAfter (graph : Graph ι) (options : Options) (requests : List (Request ι))
    (pass : Pass ι) :
    Grows graph pass (passAfter graph options requests pass)
      (sessionTrace graph options requests pass) := by
  induction requests generalizing pass with
  | nil => exact .nothing rfl
  | cons request requests ih =>
      rw [passAfter, sessionTrace]
      exact (grows_visit graph options request.limit request.node request.guard pass).trans
        (ih (finalPass (request.run graph options pass)))

theorem depth_pos_of_mem_sessionTrace {graph : Graph ι} {options : Options}
    {requests : List (Request ι)} {pass : Pass ι} {a : Activation ι}
    (hmem : a ∈ sessionTrace graph options requests pass) : 0 < a.depth := by
  induction requests generalizing pass with
  | nil => exact absurd hmem List.not_mem_nil
  | cons request requests ih =>
      rw [sessionTrace, List.mem_append] at hmem
      rcases hmem with hmem | hmem
      · exact depth_pos_of_mem_trace hmem
      · exact ih hmem

/-- **Each chain is expanded at most once in a pass.** After any requests, failed ones among them, the
pass holds what it held and before it, latest first, the nodes whose chain was expanded. Each of these
was expanded once, leads a chain, is not marked as done and was not in the pass. A lead that is in the
pass from the start or whose chain was expanded by an earlier visit gives the empty text when it is
visited without a guard, and leaves the pass alone. -/
theorem chains_expanded_once (graph : Graph ι) (options : Options) (requests : List (Request ι))
    (pass : Pass ι) :
    (passAfter graph options requests pass).expanded =
        (openings graph (sessionTrace graph options requests pass)).reverse ++ pass.expanded
      ∧ (openings graph (sessionTrace graph options requests pass)).Nodup
      ∧ (∀ i ∈ openings graph (sessionTrace graph options requests pass),
          (graph i).chain ≠ [] ∧ (graph i).label.chainDone = false ∧ i ∉ pass.expanded)
      ∧ ∀ earlier a later, sessionTrace graph options requests pass = earlier ++ a :: later →
          a.guard = none → (graph a.node).chain ≠ [] →
          (a.node ∈ pass.expanded ∨ a.node ∈ openings graph earlier) →
          visit graph options a.depth a.node a.guard a.pass = .ok (.str "") a.pass := by
  have hgrows := grows_passAfter graph options requests pass
  refine ⟨hgrows.expanded_eq, hgrows.nodup, ?_, ?_⟩
  · intro i hi
    obtain ⟨hchain, hdone, hnew⟩ := hgrows.opens i hi
    exact ⟨List.isEmpty_eq_false_iff.mp hchain, hdone, hnew⟩
  · intro earlier a later hsplit hguard hchain hheld
    have hmem : a ∈ sessionTrace graph options requests pass := by
      rw [hsplit]
      exact List.mem_append_right earlier List.mem_cons_self
    have hexpanded : a.node ∈ a.pass.expanded := by
      rw [hgrows.threaded earlier a later hsplit, List.mem_append, List.mem_reverse]
      exact hheld.symm
    obtain ⟨depth, hdepth⟩ := Nat.exists_eq_succ_of_ne_zero
      (Nat.ne_of_gt (depth_pos_of_mem_sessionTrace hmem))
    rw [hdepth, hguard]
    exact visit_of_expanded (List.isEmpty_eq_false_iff.mpr hchain) hexpanded options depth

end Generation

end MiniTemplate

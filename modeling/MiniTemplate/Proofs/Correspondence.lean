import MiniTemplate.Proofs.Refinement
/-!
# Runs over corresponding nodes

Two graphs are compared along a map of their nodes, on a set of nodes that no link leaves. Corresponding
nodes have the same label, and their links correspond. What else identifies a node is seen by a pass
only where it looks up whether a chain was expanded, so the map has to keep apart the leads and no
other nodes, and the passes have to agree on these leads.

Under these conditions two visits run together (`Together`): they end alike, they expand corresponding
chains, and they report the same. Each move is made by both (`move_together`), the passes agree after
it, and so a whole run is (`visit_together`).
-/

namespace MiniTemplate

variable {ι κ : Type}

/-- The pass once the given chains were expanded too, the latest first, and more was reported. -/
def Pass.after (pass : Pass ι) (fresh : List ι) (events : Log) : Pass ι where
  expanded := fresh ++ pass.expanded
  log := pass.log ++ events

theorem Pass.after_nil (pass : Pass ι) : pass.after [] [] = pass := by
  rw [after, List.append_nil]
  rfl

theorem Pass.after_after (pass : Pass ι) (first second : List ι) (events later : Log) :
    (pass.after first events).after second later = pass.after (second ++ first) (events ++ later) := by
  simp only [after, List.append_assoc]

namespace Generation

open MiniTemplate.Tree

theorem recorded_eq_after (i : ι) (pass : Pass ι) : recorded i pass = pass.after [i] [] := by
  rw [Pass.after, List.append_nil]
  rfl

/-- What is reported when a node is rendered itself: a component that it refers to is not imported. -/
def notices (options : Options) (label : Label) : Log :=
  match isReference options label with
  | .ok false => if label.component.isNull then [] else [.componentUnknown label.tag label.component]
  | _ => []

theorem finalPass_isComponent (options : Options) (label : Label) (pass : Pass ι) :
    finalPass (isComponent options label pass) = pass.after [] (notices options label) := by
  rw [isComponent, notices, isReference]
  split
  · exact pass.after_nil.symm
  · rw [bind_apply]
    cases Markup.importOf? options label.tag with
    | error failure => exact pass.after_nil.symm
    | ok found =>
        cases found with
        | none => rfl
        | some entry => exact pass.after_nil.symm

/-- A link to the corresponding node. -/
def Link.carry (f : ι → κ) (link : Link ι) : Link κ :=
  (f link.1, link.2)

/-- Two graphs correspond on nodes that no link leaves. -/
structure Corresponds (graph : Graph ι) (other : Graph κ) (f : ι → κ) (within : ι → Prop) : Prop where
  label : ∀ i, within i → (other (f i)).label = (graph i).label
  children : ∀ i, within i → childLinks (other (f i)) = (childLinks (graph i)).map (Link.carry f)
  chain : ∀ i, within i → chainLinks (other (f i)) = (chainLinks (graph i)).map (Link.carry f)
  closed : ∀ i, within i → ∀ link ∈ childLinks (graph i) ++ chainLinks (graph i), within link.1
  injective : ∀ i j, within i → within j → (graph i).chain.isEmpty = false →
    (graph j).chain.isEmpty = false → f i = f j → i = j

/-- Two passes agree on the leads of a set of nodes. -/
def Agree (graph : Graph ι) (f : ι → κ) (within : ι → Prop) (pass : Pass ι) (pass' : Pass κ) : Prop :=
  ∀ i, within i → (graph i).chain.isEmpty = false → (i ∈ pass.expanded ↔ f i ∈ pass'.expanded)

/-- Chains that a run within a set of nodes may expand. -/
def Fresh (graph : Graph ι) (within : ι → Prop) (pass : Pass ι) (fresh : List ι) : Prop :=
  ∀ i ∈ fresh, within i ∧ (graph i).chain.isEmpty = false ∧ i ∉ pass.expanded

/-- Two runs end alike, and the chains that they expand correspond. -/
def Together {α : Type} (graph : Graph ι) (f : ι → κ) (within : ι → Prop) (pass : Pass ι)
    (pass' : Pass κ) (x : EStateM.Result Failure (Pass ι) α) (y : EStateM.Result Failure (Pass κ) α) :
    Prop :=
  ∃ result fresh events, Fresh graph within pass fresh ∧ x = ofExcept result (pass.after fresh events)
    ∧ y = ofExcept result (pass'.after (fresh.map f) events)

/-- Two computations run together from all passes that agree. -/
def RunTogether {α : Type} (graph : Graph ι) (f : ι → κ) (within : ι → Prop) (x : Generation ι α)
    (y : Generation κ α) : Prop :=
  ∀ pass pass', Agree graph f within pass pass' →
    Together graph f within pass pass' (x pass) (y pass')

variable {graph : Graph ι} {other : Graph κ} {f : ι → κ} {within : ι → Prop} {pass : Pass ι}
  {pass' : Pass κ}

theorem Fresh.nil : Fresh graph within pass [] :=
  fun _ hmem => absurd hmem List.not_mem_nil

theorem Agree.after (hcorr : Corresponds graph other f within) (hagree : Agree graph f within pass pass')
    {fresh : List ι} (hfresh : Fresh graph within pass fresh) (events : Log) :
    Agree graph f within (pass.after fresh events) (pass'.after (fresh.map f) events) := by
  intro i hi hlead
  change i ∈ fresh ++ pass.expanded ↔ f i ∈ fresh.map f ++ pass'.expanded
  rw [List.mem_append, List.mem_append, hagree i hi hlead]
  refine or_congr_left ⟨List.mem_map_of_mem, fun hmem => ?_⟩
  obtain ⟨j, hj, heq⟩ := List.mem_map.mp hmem
  obtain ⟨hwithin, hchain, -⟩ := hfresh j hj
  exact hcorr.injective j i hwithin hi hchain hlead heq ▸ hj

/-- What follows a run that expanded some chains counts as part of it. -/
theorem Together.trans {α : Type} {fresh : List ι} (hfresh : Fresh graph within pass fresh)
    (events : Log) {x : EStateM.Result Failure (Pass ι) α} {y : EStateM.Result Failure (Pass κ) α}
    (hlater : Together graph f within (pass.after fresh events) (pass'.after (fresh.map f) events) x y) :
    Together graph f within pass pass' x y := by
  obtain ⟨result, more, later, hmore, rfl, rfl⟩ := hlater
  refine ⟨result, more ++ fresh, events ++ later, fun i hi => ?_, ?_, ?_⟩
  · rcases List.mem_append.mp hi with hi | hi
    · obtain ⟨hwithin, hchain, hnew⟩ := hmore i hi
      exact ⟨hwithin, hchain, fun hmem => hnew (List.mem_append_right fresh hmem)⟩
    · exact hfresh i hi
  · rw [Pass.after_after]
  · rw [Pass.after_after, List.map_append]

theorem RunTogether.ofExcept {α : Type} (x : Except Failure α) :
    RunTogether graph f within (Generation.ofExcept x) (Generation.ofExcept x) := by
  intro pass pass' _
  refine ⟨x, [], [], .nil, ?_, ?_⟩
  · rw [Pass.after_nil]
  · rw [List.map_nil, Pass.after_nil]

theorem RunTogether.bind {α β : Type} (hcorr : Corresponds graph other f within)
    {x : Generation ι α} {y : Generation κ α} {next : α → Generation ι β} {next' : α → Generation κ β}
    (hxy : RunTogether graph f within x y)
    (hnext : ∀ a, RunTogether graph f within (next a) (next' a)) :
    RunTogether graph f within (x >>= next) (y >>= next') := by
  intro pass pass' hagree
  obtain ⟨result, fresh, events, hfresh, hx, hy⟩ := hxy pass pass' hagree
  rw [bind_apply, bind_apply, hx, hy]
  cases result with
  | error failure => exact ⟨.error failure, fresh, events, hfresh, rfl, rfl⟩
  | ok a => exact .trans hfresh events (hnext a _ _ (hagree.after hcorr hfresh events))

/-! ### Visits run together -/

theorem run_descend_eq_bind (visit : Visit ι) (links : List (Link ι)) (pass : Pass ι)
    (finish : List Value → Except Failure Value) :
    (Move.descend links pass finish).run visit =
      (visitAll visit links >>= fun pieces => ofExcept (finish pieces)) pass := by
  rw [bind_apply, Move.run]
  cases visitAll visit links pass <;> rfl

section

variable {visit : Visit ι} {visit' : Visit κ} (hcorr : Corresponds graph other f within)
  (hvisit : ∀ i guard, within i → RunTogether graph f within (visit i guard) (visit' (f i) guard))

include hcorr hvisit

theorem visitAll_together {links : List (Link ι)} (hlinks : ∀ link ∈ links, within link.1) :
    RunTogether graph f within (visitAll visit links) (visitAll visit' (links.map (Link.carry f))) := by
  induction links with
  | nil => exact .ofExcept (.ok [])
  | cons link links ih =>
      obtain ⟨hhead, htail⟩ := List.forall_mem_cons.mp hlinks
      rw [visitAll, visitAll, List.map_cons, List.mapM_cons, List.mapM_cons]
      exact .bind hcorr (hvisit link.1 link.2 hhead) fun value =>
        .bind hcorr (ih htail) fun values => .ofExcept (.ok (value :: values))

theorem descend_together {links : List (Link ι)} (hlinks : ∀ link ∈ links, within link.1)
    (hagree : Agree graph f within pass pass') (finish : List Value → Except Failure Value) :
    Together graph f within pass pass' ((Move.descend links pass finish).run visit)
      ((Move.descend (links.map (Link.carry f)) pass' finish).run visit') := by
  rw [run_descend_eq_bind, run_descend_eq_bind]
  exact RunTogether.bind hcorr (visitAll_together hcorr hvisit hlinks)
    (fun pieces => .ofExcept (finish pieces)) pass pass' hagree

theorem ownMove_together (options : Options) {i : ι} (hi : within i) (guard : Option Guard)
    (hagree : Agree graph f within pass pass') :
    Together graph f within pass pass' ((ownMove options (graph i) guard pass).run visit)
      ((ownMove options (other (f i)) guard pass').run visit') := by
  have hlabel := hcorr.label i hi
  refine .trans .nil (notices options (graph i).label) ?_
  by_cases hencloses : Encloses options (graph i).label
  · rw [ownMove_of_encloses hencloses, ownMove_of_encloses (hlabel.symm ▸ hencloses), hlabel,
      finalPass_isComponent, finalPass_isComponent]
    cases Markup.startTag options (graph i).label guard with
    | error failure => exact RunTogether.ofExcept (.error failure) _ _ (hagree.after hcorr .nil _)
    | ok written =>
        dsimp only
        rw [hcorr.children i hi]
        refine descend_together hcorr hvisit ?_ (hagree.after hcorr .nil _) _
        exact fun link hmem => hcorr.closed i hi link (List.mem_append_left _ hmem)
  · rw [ownMove_of_not_encloses hencloses (.ok []) guard,
      ownMove_of_not_encloses (hlabel.symm ▸ hencloses) (.ok []) guard, hlabel,
      finalPass_isComponent, finalPass_isComponent]
    exact RunTogether.ofExcept _ _ _ (hagree.after hcorr .nil _)

variable [DecidableEq ι] [DecidableEq κ]

/-- Corresponding nodes make the same move. -/
theorem move_together (options : Options) {i : ι} (hi : within i) (guard : Option Guard)
    (hagree : Agree graph f within pass pass') :
    Together graph f within pass pass' ((move graph options i guard pass).run visit)
      ((move other options (f i) guard pass').run visit') := by
  have hchain : (other (f i)).chain.isEmpty = (graph i).chain.isEmpty := by
    have hlinks := congrArg List.isEmpty (hcorr.chain i hi)
    rwa [chainLinks, chainLinks, List.isEmpty_map, List.isEmpty_map, List.isEmpty_map] at hlinks
  have hopens : Opens other pass' (f i) ↔ Opens graph pass i := by
    rw [Opens, Opens, hchain, hcorr.label i hi]
    exact and_congr_right fun hlead => and_congr_right fun _ => not_congr (hagree i hi hlead).symm
  rw [move, move, hchain]
  by_cases hmove : Opens graph pass i
  · rw [if_pos hmove, if_pos (hopens.mpr hmove), hcorr.chain i hi]
    have hfresh : Fresh graph within pass [i] := by
      rintro j hj
      rw [List.mem_singleton.mp hj]
      exact ⟨hi, hmove.1, hmove.2.2⟩
    refine .trans hfresh [] ?_
    rw [recorded_eq_after, recorded_eq_after]
    refine descend_together hcorr hvisit ?_ (hagree.after hcorr hfresh []) finishChain
    exact fun link hmem => hcorr.closed i hi link (List.mem_append_right _ hmem)
  · rw [if_neg hmove, if_neg (mt hopens.mp hmove)]
    split
    · exact ownMove_together hcorr hvisit options hi guard hagree
    · exact RunTogether.ofExcept (.ok (Value.str "")) pass pass' hagree

end

/-- **Visits to corresponding nodes run together.** -/
theorem visit_together [DecidableEq ι] [DecidableEq κ] (hcorr : Corresponds graph other f within)
    (options : Options) (depth : Nat) (i : ι) (guard : Option Guard) (hi : within i) :
    RunTogether graph f within (visit graph options depth i guard)
      (visit other options depth (f i) guard) := by
  induction depth generalizing i guard with
  | zero => exact .ofExcept (.error .tooDeep)
  | succ depth ih =>
      intro pass pass' hagree
      rw [visit_succ, visit_succ]
      exact move_together hcorr ih options hi guard hagree

end Generation

end MiniTemplate

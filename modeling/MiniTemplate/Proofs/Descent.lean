import MiniTemplate.Generate
/-!
# What a visit does

A visit decides from the node, the guard and the pass alone what it is going to do. It expands the
chain of the node, or it renders the node itself, or the node was rendered with its chain before and
the visit gives nothing. Only then does it make visits of its own, in an order that is fixed by then.

The decision is written as data: a `Move` either ends the visit or lists the nodes that are visited
next, the pass they start from, and how their markup is put together. A visit is its move followed by
the nested visits (`visitWith_eq_run`), and the rest of the theory of passes speaks of moves only.
From them come the list of all visits of a run, in the order in which they begin (`trace`), and how
deep they nest (`nesting`).
-/

namespace MiniTemplate

namespace Generation

variable {ι : Type}

/-- How a run ends, its pass left aside. -/
def outcome {α : Type} : EStateM.Result Failure (Pass ι) α → Except Failure α
  | .ok a _ => .ok a
  | .error failure _ => .error failure

/-- The pass at the end of a run, whether it failed or not. -/
def finalPass {α : Type} : EStateM.Result Failure (Pass ι) α → Pass ι
  | .ok _ pass => pass
  | .error _ pass => pass

theorem bind_apply {α β : Type} (x : Generation ι α) (f : α → Generation ι β) (pass : Pass ι) :
    (x >>= f) pass =
      match x pass with
      | .ok a last => f a last
      | .error failure last => .error failure last := by
  change EStateM.bind x f pass = _
  rw [EStateM.bind]
  cases x pass <;> rfl

/-- A node to be visited, with its position in a chain. -/
abbrev Link (ι : Type) := ι × Option Guard

def visitAll (visit : Visit ι) (links : List (Link ι)) : Generation ι (List Value) :=
  links.mapM fun link => visit link.1 link.2

theorem visitAll_cons_of_ok {visit : Visit ι} {link : Link ι} {pass mid : Pass ι} {value : Value}
    (hvisit : visit link.1 link.2 pass = .ok value mid) (links : List (Link ι)) :
    visitAll visit (link :: links) pass =
      match visitAll visit links mid with
      | .ok values last => .ok (value :: values) last
      | .error failure last => .error failure last := by
  simp only [visitAll, List.mapM_cons, bind_apply, hvisit]
  cases List.mapM (fun link : Link ι => visit link.1 link.2) links mid <;> rfl

theorem visitAll_cons_of_error {visit : Visit ι} {link : Link ι} {pass mid : Pass ι}
    {failure : Failure} (hvisit : visit link.1 link.2 pass = .error failure mid)
    (links : List (Link ι)) :
    visitAll visit (link :: links) pass = .error failure mid := by
  simp only [visitAll, List.mapM_cons, bind_apply, hvisit]

theorem visitAll_cons_eq_ok {visit : Visit ι} {link : Link ι} {links : List (Link ι)}
    {pass last : Pass ι} {values : List Value}
    (hall : visitAll visit (link :: links) pass = .ok values last) :
    ∃ value mid rest, visit link.1 link.2 pass = .ok value mid
      ∧ visitAll visit links mid = .ok rest last ∧ values = value :: rest := by
  cases hrun : visit link.1 link.2 pass with
  | error failure mid =>
      rw [visitAll_cons_of_error hrun] at hall
      exact nomatch hall
  | ok value mid =>
      rw [visitAll_cons_of_ok hrun] at hall
      cases hrest : visitAll visit links mid with
      | error failure after =>
          rw [hrest] at hall
          exact nomatch hall
      | ok rest after =>
          rw [hrest] at hall
          cases hall
          exact ⟨value, mid, rest, rfl, hrest, rfl⟩

theorem visitAll_append_eq_ok {visit : Visit ι} {first second : List (Link ι)} {pass last : Pass ι}
    {values : List Value} (hall : visitAll visit (first ++ second) pass = .ok values last) :
    ∃ mid earlier later, visitAll visit first pass = .ok earlier mid
      ∧ visitAll visit second mid = .ok later last := by
  induction first generalizing pass values with
  | nil => exact ⟨pass, [], values, rfl, hall⟩
  | cons link first ih =>
      obtain ⟨value, mid, rest, hvisit, hrest, -⟩ := visitAll_cons_eq_ok hall
      obtain ⟨after, earlier, later, hfirst, hsecond⟩ := ih hrest
      exact ⟨after, value :: earlier, later, by rw [visitAll_cons_of_ok hvisit, hfirst], hsecond⟩

theorem finalPass_visitAll_cons_of_ok {visit : Visit ι} {link : Link ι} {pass mid : Pass ι}
    {value : Value} (hvisit : visit link.1 link.2 pass = .ok value mid) (links : List (Link ι)) :
    finalPass (visitAll visit (link :: links) pass) = finalPass (visitAll visit links mid) := by
  rw [visitAll_cons_of_ok hvisit]
  cases visitAll visit links mid <;> rfl

/-! ### Moves -/

/-- What a visit does: it ends, or it visits further nodes from a pass and puts their markup
together. -/
inductive Move (ι : Type) where
  | halt (result : EStateM.Result Failure (Pass ι) Value)
  | descend (links : List (Link ι)) (pass : Pass ι) (finish : List Value → Except Failure Value)

def Move.run (visit : Visit ι) : Move ι → EStateM.Result Failure (Pass ι) Value
  | .halt result => result
  | .descend links pass finish =>
    match visitAll visit links pass with
    | .ok pieces last => ofExcept (finish pieces) last
    | .error failure last => .error failure last

/-- The nodes that an element goes on to. -/
def childLinks (node : Node ι) : List (Link ι) :=
  node.children.map fun child => (child, none)

/-- The nodes that a chain goes on to. -/
def chainLinks (node : Node ι) : List (Link ι) :=
  node.chain.map fun condition => (condition.block, some condition.guard)

def finishElement (start tag : String) (pieces : List Value) : Except Failure Value := do
  return .str (start ++ (← Markup.join pieces) ++ Markup.endTag tag)

def finishChain (pieces : List Value) : Except Failure Value := do
  return .str (← Markup.join (pieces.filter Value.truthy))

/-- The move of a node that is rendered itself, whatever chain it leads. -/
def ownMove (options : Options) (node : Node ι) (guard : Option Guard) (pass : Pass ι) : Move ι :=
  match isComponent options node.label pass with
  | .error failure last => .halt (.error failure last)
  | .ok true last => .halt (ofExcept (Value.str <$> Markup.componentOf options node.label) last)
  | .ok false last =>
    match node.label.kind with
    | .text => .halt (ofExcept (Markup.textOf node.label) last)
    | .element =>
      match Markup.startTag options node.label guard with
      | .error failure => .halt (.error failure last)
      | .ok (start, tag) => .descend (childLinks node) last (finishElement start tag)

/-- A visit expands the chain of a node unless the document or the pass says that it was expanded. -/
def Opens (graph : Graph ι) (pass : Pass ι) (i : ι) : Prop :=
  (graph i).chain.isEmpty = false ∧ (graph i).label.chainDone = false ∧ i ∉ pass.expanded

instance [DecidableEq ι] (graph : Graph ι) (pass : Pass ι) (i : ι) :
    Decidable (Opens graph pass i) :=
  inferInstanceAs (Decidable (_ ∧ _ ∧ _))

/-- The pass in which the chain of node `i` counts as expanded. -/
def recorded (i : ι) (pass : Pass ι) : Pass ι :=
  { pass with expanded := i :: pass.expanded }

def move [DecidableEq ι] (graph : Graph ι) (options : Options) (i : ι) (guard : Option Guard)
    (pass : Pass ι) : Move ι :=
  if Opens graph pass i then .descend (chainLinks (graph i)) (recorded i pass) finishChain
  else if (graph i).chain.isEmpty || guard.isSome then ownMove options (graph i) guard pass
  else .halt (.ok (.str "") pass)

/-! ### A visit is its move -/

theorem children_eq_visitAll (visit : Visit ι) (node : Node ι) (pass : Pass ι) :
    children visit node pass =
      match visitAll visit (childLinks node) pass with
      | .ok pieces last => ofExcept (Markup.join pieces) last
      | .error failure last => .error failure last := by
  simp only [children, visitAll, childLinks, List.mapM_map, Function.comp_def, bind_apply]
  cases node.children.mapM (fun child => visit child none) pass <;> rfl

theorem chain_eq_visitAll (visit : Visit ι) (i : ι) (node : Node ι) (pass : Pass ι) :
    chain visit i node pass =
      match visitAll visit (chainLinks node) (recorded i pass) with
      | .ok pieces last => ofExcept (Markup.join (pieces.filter Value.truthy)) last
      | .error failure last => .error failure last := by
  have hrecord : recordChain i pass = .ok ⟨⟩ (recorded i pass) := rfl
  simp only [chain, visitAll, chainLinks, List.mapM_map, Function.comp_def, bind_apply, hrecord]
  cases node.chain.mapM (fun condition => visit condition.block (some condition.guard))
    (recorded i pass) <;> rfl

/-- An element is its start tag, what its children give, and its end tag. -/
theorem element_eq_visitAll (options : Options) (visit : Visit ι) (node : Node ι)
    (guard : Option Guard) (pass : Pass ι) :
    element options visit node guard pass =
      match Markup.startTag options node.label guard with
      | .error failure => .error failure pass
      | .ok (start, tag) =>
        match visitAll visit (childLinks node) pass with
        | .ok pieces last =>
          ofExcept (Markup.join pieces >>= fun inner => .ok (start ++ inner ++ Markup.endTag tag)) last
        | .error failure last => .error failure last := by
  rw [element, bind_apply]
  cases Markup.startTag options node.label guard with
  | error failure => rfl
  | ok written =>
      obtain ⟨start, tag⟩ := written
      change (children visit node >>= _) pass = _
      rw [bind_apply, children_eq_visitAll]
      cases visitAll visit (childLinks node) pass with
      | error failure last => rfl
      | ok pieces last =>
          dsimp only
          cases Markup.join pieces <;> rfl

theorem render_eq_run (options : Options) (visit : Visit ι) (node : Node ι) (guard : Option Guard)
    (pass : Pass ι) :
    render options visit node guard pass = (ownMove options node guard pass).run visit := by
  rw [render, bind_apply, ownMove]
  cases isComponent options node.label pass with
  | error failure last => rfl
  | ok component last =>
      cases component with
      | true =>
          change (liftM (Markup.componentOf options node.label) >>= _ : Generation ι Value) last = _
          rw [bind_apply]
          cases Markup.componentOf options node.label <;> rfl
      | false =>
          cases node.label.kind with
          | text => rfl
          | element =>
              change (element options visit node guard >>= _ : Generation ι Value) last = _
              rw [bind_apply, element_eq_visitAll]
              cases Markup.startTag options node.label guard with
              | error failure => rfl
              | ok written =>
                  obtain ⟨start, tag⟩ := written
                  simp only [Move.run]
                  cases visitAll visit (childLinks node) last with
                  | error failure last => rfl
                  | ok pieces last =>
                      simp only [finishElement]
                      cases Markup.join pieces <;> rfl

variable [DecidableEq ι]

theorem visitWith_of_opens {graph : Graph ι} {pass : Pass ι} {i : ι} (hopens : Opens graph pass i)
    (options : Options) (visit : Visit ι) (guard : Option Guard) :
    visitWith graph options visit i guard pass =
      (chain visit i (graph i) >>= fun markup => pure (.str markup) : Generation ι Value) pass := by
  obtain ⟨hchain, hdone, hnew⟩ := hopens
  have hcontains : pass.expanded.contains i = false := by
    simpa using hnew
  simp only [visitWith, hchain, Bool.false_eq_true, if_false, bind_apply]
  change (if (!(graph i).label.chainDone && !pass.expanded.contains i) = true then _ else _ :
    Generation ι Value) pass = _
  rw [hdone, hcontains]
  exact bind_apply _ _ _

theorem visitWith_of_not_opens {graph : Graph ι} {pass : Pass ι} {i : ι}
    (hopens : ¬ Opens graph pass i) (options : Options) (visit : Visit ι) (guard : Option Guard) :
    visitWith graph options visit i guard pass =
      if (graph i).chain.isEmpty || guard.isSome then render options visit (graph i) guard pass
      else .ok (.str "") pass := by
  cases hchain : (graph i).chain.isEmpty with
  | true => simp only [visitWith, hchain, if_true, Bool.true_or]
  | false =>
      have hdone : (!(graph i).label.chainDone && !pass.expanded.contains i) = false := by
        refine Bool.eq_false_iff.mpr fun hboth => hopens ?_
        rw [Bool.and_eq_true, Bool.not_eq_true', Bool.not_eq_true'] at hboth
        exact ⟨hchain, hboth.1, by simpa using hboth.2⟩
      simp only [visitWith, hchain, Bool.false_eq_true, if_false, bind_apply]
      change (if (!(graph i).label.chainDone && !pass.expanded.contains i) = true then _ else _ :
        Generation ι Value) pass = _
      rw [hdone]
      cases guard <;> rfl

/-- **A visit is its move followed by the visits that the move asks for.** -/
theorem visitWith_eq_run (graph : Graph ι) (options : Options) (visit : Visit ι) (i : ι)
    (guard : Option Guard) (pass : Pass ι) :
    visitWith graph options visit i guard pass = (move graph options i guard pass).run visit := by
  rw [move]
  split
  · rename_i hopens
    rw [visitWith_of_opens hopens, bind_apply, chain_eq_visitAll, Move.run]
    cases visitAll visit (chainLinks (graph i)) (recorded i pass) with
    | error failure last => rfl
    | ok pieces last =>
        simp only [finishChain]
        cases Markup.join (pieces.filter Value.truthy) <;> rfl
  · rename_i hopens
    rw [visitWith_of_not_opens hopens]
    split
    · exact render_eq_run options visit (graph i) guard pass
    · rfl

theorem visit_succ (graph : Graph ι) (options : Options) (depth : Nat) (i : ι)
    (guard : Option Guard) (pass : Pass ι) :
    visit graph options (depth + 1) i guard pass =
      (move graph options i guard pass).run (visit graph options depth) :=
  visitWith_eq_run graph options (visit graph options depth) i guard pass

/-! ### How a move ends -/

omit [DecidableEq ι] in
theorem outcome_ofExcept {α : Type} (x : Except Failure α) (pass : Pass ι) :
    outcome (ofExcept x pass) = x := by
  cases x <;> rfl

omit [DecidableEq ι] in
theorem outcome_run_descend (visit : Visit ι) (links : List (Link ι)) (pass : Pass ι)
    (finish : List Value → Except Failure Value) :
    outcome ((Move.descend links pass finish).run visit) =
      outcome (visitAll visit links pass) >>= finish := by
  rw [Move.run]
  cases visitAll visit links pass with
  | error failure last => rfl
  | ok pieces last => exact outcome_ofExcept (finish pieces) last

omit [DecidableEq ι] in
theorem ofExcept_eq_ok {α : Type} {x : Except Failure α} {pass last : Pass ι} {a : α}
    (hrun : ofExcept x pass = .ok a last) : x = .ok a ∧ pass = last := by
  cases x with
  | error failure => exact nomatch hrun
  | ok b =>
      cases hrun
      exact ⟨rfl, rfl⟩

omit [DecidableEq ι] in
theorem run_descend_eq_ok {visit : Visit ι} {links : List (Link ι)} {pass last : Pass ι}
    {finish : List Value → Except Failure Value} {value : Value}
    (hrun : (Move.descend links pass finish).run visit = .ok value last) :
    ∃ pieces, visitAll visit links pass = .ok pieces last ∧ finish pieces = .ok value := by
  rw [Move.run] at hrun
  cases hall : visitAll visit links pass with
  | error failure mid =>
      rw [hall] at hrun
      exact nomatch hrun
  | ok pieces mid =>
      rw [hall] at hrun
      obtain ⟨hfinish, rfl⟩ := ofExcept_eq_ok hrun
      exact ⟨pieces, rfl, hfinish⟩

/-! ### What a move does to the pass -/

omit [DecidableEq ι] in
theorem finalPass_ofExcept {α : Type} (x : Except Failure α) (pass : Pass ι) :
    finalPass (ofExcept x pass) = pass := by
  cases x <;> rfl

omit [DecidableEq ι] in
theorem finalPass_run_descend (visit : Visit ι) (links : List (Link ι)) (pass : Pass ι)
    (finish : List Value → Except Failure Value) :
    finalPass ((Move.descend links pass finish).run visit) = finalPass (visitAll visit links pass) := by
  rw [Move.run]
  cases visitAll visit links pass with
  | error failure last => rfl
  | ok pieces last => exact finalPass_ofExcept (finish pieces) last

omit [DecidableEq ι] in
theorem expanded_isComponent (options : Options) (label : Label) (pass : Pass ι) :
    (finalPass (isComponent options label pass)).expanded = pass.expanded := by
  rw [isComponent]
  split
  · rfl
  · rw [bind_apply]
    cases Markup.importOf? options label.tag with
    | error failure => rfl
    | ok found => cases found <;> rfl

omit [DecidableEq ι] in
theorem ownMove_cases (options : Options) (node : Node ι) (guard : Option Guard) (pass : Pass ι) :
    (∃ result, ownMove options node guard pass = .halt result
      ∧ (finalPass result).expanded = pass.expanded)
    ∨ ∃ last finish, ownMove options node guard pass = .descend (childLinks node) last finish
      ∧ last.expanded = pass.expanded := by
  have hsame := expanded_isComponent options node.label pass
  rw [ownMove]
  cases hcomponent : isComponent options node.label pass with
  | error failure last =>
      rw [hcomponent] at hsame
      exact .inl ⟨_, rfl, hsame⟩
  | ok component last =>
      rw [hcomponent] at hsame
      cases component with
      | true => exact .inl ⟨_, rfl, by rw [finalPass_ofExcept]; exact hsame⟩
      | false =>
          cases node.label.kind with
          | text => exact .inl ⟨_, rfl, by rw [finalPass_ofExcept]; exact hsame⟩
          | element =>
              cases Markup.startTag options node.label guard with
              | error failure => exact .inl ⟨_, rfl, hsame⟩
              | ok written => exact .inr ⟨last, finishElement written.1 written.2, rfl, hsame⟩

/-- Everything that a move can be. Only the expansion of a chain changes which chains count as
expanded, and only a node without a chain or one that is rendered as a block goes on to its
children. -/
theorem move_cases (graph : Graph ι) (options : Options) (i : ι) (guard : Option Guard)
    (pass : Pass ι) :
    (Opens graph pass i
      ∧ move graph options i guard pass = .descend (chainLinks (graph i)) (recorded i pass) finishChain)
    ∨ (¬ Opens graph pass i ∧ ∃ result, move graph options i guard pass = .halt result
      ∧ (finalPass result).expanded = pass.expanded)
    ∨ (¬ Opens graph pass i ∧ ((graph i).chain.isEmpty || guard.isSome) = true
      ∧ ∃ last finish, move graph options i guard pass = .descend (childLinks (graph i)) last finish
        ∧ last.expanded = pass.expanded) := by
  by_cases hopens : Opens graph pass i
  · exact .inl ⟨hopens, if_pos hopens⟩
  · rw [move, if_neg hopens]
    cases hown : (graph i).chain.isEmpty || guard.isSome with
    | false => exact .inr (.inl ⟨hopens, _, rfl, rfl⟩)
    | true =>
        rw [if_pos rfl]
        rcases ownMove_cases options (graph i) guard pass with hhalt | hdescend
        · exact .inr (.inl ⟨hopens, hhalt⟩)
        · exact .inr (.inr ⟨hopens, rfl, hdescend⟩)

/-! ### The visits of a run -/

/-- A visit as it begins: what it visits, from which pass, and how deep visits may nest from here. -/
structure Activation (ι : Type) where
  depth : Nat
  node : ι
  guard : Option Guard
  pass : Pass ι

/-- The visits to a list of nodes that begin, which are those up to the first that fails. -/
def begun (visit : Visit ι) (depth : Nat) : List (Link ι) → Pass ι → List (Activation ι)
  | [], _ => []
  | link :: links, pass =>
    ⟨depth, link.1, link.2, pass⟩ ::
      match visit link.1 link.2 pass with
      | .ok _ last => begun visit depth links last
      | .error _ _ => []

def Move.begun (visit : Visit ι) (depth : Nat) : Move ι → List (Activation ι)
  | .halt _ => []
  | .descend links pass _ => Generation.begun visit depth links pass

omit [DecidableEq ι] in
/-- A visit of a list begins when all those before it have succeeded, with the pass that they leave. -/
theorem exists_of_mem_begun {visit : Visit ι} {depth : Nat} {links : List (Link ι)} {pass : Pass ι}
    {a : Activation ι} (hmem : a ∈ begun visit depth links pass) :
    a.depth = depth ∧ ∃ before after values, links = before ++ (a.node, a.guard) :: after
      ∧ visitAll visit before pass = .ok values a.pass := by
  induction links generalizing pass with
  | nil => exact absurd hmem List.not_mem_nil
  | cons link links ih =>
      rw [begun, List.mem_cons] at hmem
      rcases hmem with rfl | hmem
      · exact ⟨rfl, [], links, [], rfl, rfl⟩
      · cases hrun : visit link.1 link.2 pass with
        | error failure last =>
            rw [hrun] at hmem
            exact absurd hmem List.not_mem_nil
        | ok value mid =>
            rw [hrun] at hmem
            obtain ⟨hdepth, before, after, values, hlinks, hbefore⟩ := ih hmem
            refine ⟨hdepth, link :: before, after, value :: values, by rw [hlinks]; rfl, ?_⟩
            rw [visitAll_cons_of_ok hrun, hbefore]

omit [DecidableEq ι] in
theorem link_mem_of_mem_begun {visit : Visit ι} {depth : Nat} {links : List (Link ι)} {pass : Pass ι}
    {a : Activation ι} (hmem : a ∈ begun visit depth links pass) : (a.node, a.guard) ∈ links := by
  obtain ⟨-, before, after, -, hlinks, -⟩ := exists_of_mem_begun hmem
  rw [hlinks]
  exact List.mem_append_right before List.mem_cons_self

omit [DecidableEq ι] in
/-- What a list of visits gives depends on those of them that begin. -/
theorem visitAll_congr {visit other : Visit ι} (depth : Nat) {links : List (Link ι)} {pass : Pass ι}
    (hsame : ∀ a ∈ begun visit depth links pass,
      visit a.node a.guard a.pass = other a.node a.guard a.pass) :
    visitAll visit links pass = visitAll other links pass := by
  induction links generalizing pass with
  | nil => rfl
  | cons link links ih =>
      have hhead : visit link.1 link.2 pass = other link.1 link.2 pass :=
        hsame ⟨depth, link.1, link.2, pass⟩ List.mem_cons_self
      cases hrun : visit link.1 link.2 pass with
      | error failure last =>
          rw [visitAll_cons_of_error hrun, visitAll_cons_of_error (hhead ▸ hrun)]
      | ok value mid =>
          have htail : visitAll visit links mid = visitAll other links mid := by
            apply ih
            intro a ha
            apply hsame a
            rw [begun, hrun]
            exact List.mem_cons_of_mem _ ha
          rw [visitAll_cons_of_ok hrun, visitAll_cons_of_ok (hhead ▸ hrun), htail]

omit [DecidableEq ι] in
theorem Move.run_congr {visit other : Visit ι} (depth : Nat) {m : Move ι}
    (hsame : ∀ a ∈ m.begun visit depth, visit a.node a.guard a.pass = other a.node a.guard a.pass) :
    m.run visit = m.run other := by
  cases m with
  | halt result => rfl
  | descend links pass finish => rw [Move.run, Move.run, visitAll_congr depth hsame]

omit [DecidableEq ι] in
theorem succeeds_of_mem_begun {visit : Visit ι} {depth : Nat} {links : List (Link ι)}
    {pass last : Pass ι} {values : List Value} (hall : visitAll visit links pass = .ok values last)
    {a : Activation ι} (hmem : a ∈ begun visit depth links pass) :
    ∃ value after, visit a.node a.guard a.pass = .ok value after := by
  induction links generalizing pass values with
  | nil => exact absurd hmem List.not_mem_nil
  | cons link links ih =>
      obtain ⟨value, mid, rest, hrun, hrest, -⟩ := visitAll_cons_eq_ok hall
      rw [begun, hrun, List.mem_cons] at hmem
      rcases hmem with rfl | hmem
      · exact ⟨value, mid, hrun⟩
      · exact ih hrest hmem

omit [DecidableEq ι] in
theorem Move.succeeds_of_mem_begun {visit : Visit ι} {depth : Nat} {m : Move ι} {value : Value}
    {last : Pass ι} (hrun : m.run visit = .ok value last) {a : Activation ι}
    (hmem : a ∈ m.begun visit depth) : ∃ own after, visit a.node a.guard a.pass = .ok own after := by
  cases m with
  | halt result => exact absurd hmem List.not_mem_nil
  | descend links pass finish =>
      obtain ⟨pieces, hall, -⟩ := run_descend_eq_ok hrun
      exact Generation.succeeds_of_mem_begun hall hmem

omit [DecidableEq ι] in
/-- A visit that fails ends the list of visits that it is one of. -/
theorem visitAll_eq_error_of_mem_begun {visit : Visit ι} {depth : Nat} {links : List (Link ι)}
    {pass last : Pass ι} {failure : Failure} {a : Activation ι}
    (hmem : a ∈ begun visit depth links pass)
    (hrun : visit a.node a.guard a.pass = .error failure last) :
    visitAll visit links pass = .error failure last := by
  induction links generalizing pass with
  | nil => exact absurd hmem List.not_mem_nil
  | cons link links ih =>
      rw [begun, List.mem_cons] at hmem
      rcases hmem with rfl | hmem
      · exact visitAll_cons_of_error hrun links
      · cases hfirst : visit link.1 link.2 pass with
        | error first mid =>
            rw [hfirst] at hmem
            exact absurd hmem List.not_mem_nil
        | ok value mid =>
            rw [hfirst] at hmem
            rw [visitAll_cons_of_ok hfirst, ih hmem]

omit [DecidableEq ι] in
theorem Move.run_eq_error_of_mem_begun {visit : Visit ι} {depth : Nat} {m : Move ι}
    {last : Pass ι} {failure : Failure} {a : Activation ι} (hmem : a ∈ m.begun visit depth)
    (hrun : visit a.node a.guard a.pass = .error failure last) :
    m.run visit = .error failure last := by
  cases m with
  | halt result => exact absurd hmem List.not_mem_nil
  | descend links pass finish => rw [Move.run, visitAll_eq_error_of_mem_begun hmem hrun]

/-- The visits that a visit makes itself. -/
def nested (graph : Graph ι) (options : Options) (depth : Nat) (i : ι) (guard : Option Guard)
    (pass : Pass ι) : List (Activation ι) :=
  (move graph options i guard pass).begun (visit graph options depth) depth

/-- All visits of a run in the order in which they begin. One that is beyond the limit is refused
before it begins. -/
def trace (graph : Graph ι) (options : Options) :
    Nat → ι → Option Guard → Pass ι → List (Activation ι)
  | 0, _, _, _ => []
  | depth + 1, i, guard, pass =>
    ⟨depth + 1, i, guard, pass⟩ ::
      (nested graph options depth i guard pass).flatMap fun a =>
        trace graph options depth a.node a.guard a.pass

theorem exists_of_mem_nested {graph : Graph ι} {options : Options} {depth : Nat} {i : ι}
    {guard : Option Guard} {pass : Pass ι} {a : Activation ι}
    (hmem : a ∈ nested graph options depth i guard pass) :
    ∃ links start finish, move graph options i guard pass = .descend links start finish
      ∧ a ∈ begun (visit graph options depth) depth links start := by
  rw [nested] at hmem
  cases hmove : move graph options i guard pass with
  | halt result =>
      rw [hmove] at hmem
      exact absurd hmem List.not_mem_nil
  | descend links start finish =>
      rw [hmove] at hmem
      exact ⟨links, start, finish, rfl, hmem⟩

/-- A visit is made for the chain of a node that is expanded, or for the children of one that is
rendered itself. -/
theorem nested_cases {graph : Graph ι} {options : Options} {depth : Nat} {i : ι}
    {guard : Option Guard} {pass : Pass ι} {a : Activation ι}
    (hmem : a ∈ nested graph options depth i guard pass) :
    (Opens graph pass i
      ∧ a ∈ begun (visit graph options depth) depth (chainLinks (graph i)) (recorded i pass))
    ∨ (¬ Opens graph pass i ∧ ((graph i).chain.isEmpty || guard.isSome) = true
      ∧ ∃ start, start.expanded = pass.expanded
        ∧ a ∈ begun (visit graph options depth) depth (childLinks (graph i)) start) := by
  rw [nested] at hmem
  rcases move_cases graph options i guard pass with
    ⟨hopens, hmove⟩ | ⟨-, result, hmove, -⟩ | ⟨hopens, hown, start, finish, hmove, hsame⟩
  · rw [hmove] at hmem
    exact .inl ⟨hopens, hmem⟩
  · rw [hmove] at hmem
    exact absurd hmem List.not_mem_nil
  · rw [hmove] at hmem
    exact .inr ⟨hopens, hown, start, hsame, hmem⟩

/-- What holds of a visit and passes from each visit to those that it makes itself holds of all visits
of a run. -/
theorem forall_mem_trace {graph : Graph ι} {options : Options} (holds : Activation ι → Prop)
    (hnested : ∀ depth i guard pass, holds ⟨depth + 1, i, guard, pass⟩ →
      ∀ a ∈ nested graph options depth i guard pass, holds a)
    (depth : Nat) (i : ι) (guard : Option Guard) (pass : Pass ι)
    (hfirst : holds ⟨depth, i, guard, pass⟩) :
    ∀ a ∈ trace graph options depth i guard pass, holds a := by
  induction depth generalizing i guard pass with
  | zero => exact fun a hmem => absurd hmem List.not_mem_nil
  | succ depth ih =>
      intro a hmem
      rw [trace, List.mem_cons, List.mem_flatMap] at hmem
      rcases hmem with rfl | ⟨b, hb, hmem⟩
      · exact hfirst
      · have hdepth : b.depth = depth := by
          obtain ⟨links, start, finish, -, hbegun⟩ := exists_of_mem_nested hb
          exact (exists_of_mem_begun hbegun).1
        have hholds : holds ⟨depth, b.node, b.guard, b.pass⟩ :=
          hdepth ▸ hnested depth i guard pass hfirst b hb
        exact ih b.node b.guard b.pass hholds a hmem

/-- In a run that succeeds all visits do. -/
theorem succeeds_of_mem_trace {graph : Graph ι} {options : Options} {depth : Nat} {i : ι}
    {guard : Option Guard} {pass last : Pass ι} {value : Value}
    (hvisit : visit graph options depth i guard pass = .ok value last) {a : Activation ι}
    (hmem : a ∈ trace graph options depth i guard pass) :
    ∃ own after, visit graph options a.depth a.node a.guard a.pass = .ok own after := by
  revert a
  apply forall_mem_trace fun a =>
    ∃ own after, visit graph options a.depth a.node a.guard a.pass = .ok own after
  · intro depth i guard pass hrun a hmem
    obtain ⟨own, after, hrun⟩ := hrun
    obtain ⟨links, start, finish, hmove, hbegun⟩ := exists_of_mem_nested hmem
    rw [visit_succ, hmove] at hrun
    rw [(exists_of_mem_begun hbegun).1]
    exact Move.succeeds_of_mem_begun hrun hbegun
  · exact ⟨value, last, hvisit⟩

/-- A visit that is not refused for its depth gives the same when visits may nest deeper. -/
theorem visit_eq_of_le {graph : Graph ι} {options : Options} {depth other : Nat} (hle : depth ≤ other)
    {i : ι} {guard : Option Guard} {pass : Pass ι}
    (hrun : ∀ last, visit graph options depth i guard pass ≠ .error .tooDeep last) :
    visit graph options depth i guard pass = visit graph options other i guard pass := by
  induction depth generalizing other i guard pass with
  | zero => exact absurd rfl (hrun pass)
  | succ depth ih =>
      obtain ⟨other, rfl⟩ := Nat.exists_eq_succ_of_ne_zero (Nat.ne_of_gt (Nat.lt_of_lt_of_le
        (Nat.succ_pos depth) hle))
      rw [visit_succ] at hrun
      rw [visit_succ, visit_succ]
      apply Move.run_congr depth
      intro a ha
      apply ih (Nat.le_of_succ_le_succ hle)
      -- a visit that is refused ends all those around it
      intro last hdeep
      exact hrun last (Move.run_eq_error_of_mem_begun ha hdeep)

theorem visit_eq_ok_of_le {graph : Graph ι} {options : Options} {depth other : Nat}
    (hle : depth ≤ other) {i : ι} {guard : Option Guard} {pass last : Pass ι} {value : Value}
    (hvisit : visit graph options depth i guard pass = .ok value last) :
    visit graph options other i guard pass = .ok value last := by
  rw [← visit_eq_of_le hle (by rw [hvisit]; exact nofun), hvisit]

theorem generate_eq_of_le {graph : Graph ι} {options : Options} {depth other : Nat}
    (hle : depth ≤ other) {root : ι}
    (hrun : ∀ last, visit graph options depth root none { log := [.generating options.name] } ≠
      .error .tooDeep last) :
    generate graph options depth root = generate graph options other root := by
  rw [generate, generate, EStateM.run, EStateM.run, Generation.document, Generation.document,
    bind_apply, bind_apply, visit_eq_of_le hle hrun]

/-- A document that was generated holds what the visit to the root gives. -/
theorem visit_of_generate {graph : Graph ι} {options : Options} {depth : Nat} {root : ι}
    (hsuccess : (generate graph options depth root).failed = false) :
    ∃ inner last, visit graph options depth root none { log := [.generating options.name] } =
        .ok inner last
      ∧ (generate graph options depth root).document =
        Markup.importsOf options ++ envelopeStart options.name ++ inner.text ++ envelopeEnd := by
  rw [generate] at hsuccess ⊢
  cases hrun : Generation.document graph options depth root { log := [.generating options.name] } with
  | error failure last =>
      simp only [EStateM.run, hrun] at hsuccess
      exact nomatch hsuccess
  | ok written last =>
      simp only [EStateM.run, hrun]
      rw [Generation.document, bind_apply] at hrun
      cases hvisit : visit graph options depth root none { log := [.generating options.name] } with
      | error failure mid =>
          rw [hvisit] at hrun
          exact nomatch hrun
      | ok inner mid =>
          rw [hvisit] at hrun
          cases hrun
          exact ⟨inner, last, rfl, rfl⟩

/-- How many visits are under way at once, at most, in a run. -/
def nesting (graph : Graph ι) (options : Options) :
    Nat → ι → Option Guard → Pass ι → Nat
  | 0, _, _, _ => 0
  | depth + 1, i, guard, pass =>
    ((nested graph options depth i guard pass).map fun a =>
      nesting graph options depth a.node a.guard a.pass).foldr max 0 + 1

end Generation

end MiniTemplate

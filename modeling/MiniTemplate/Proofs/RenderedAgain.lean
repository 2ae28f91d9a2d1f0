import MiniTemplate.Proofs.Refinement
/-!
# Leads that are rendered again

A chain may have several entries that stand for its lead. The lead is then rendered several times in one
pass, and from the second time on the chains among its children count as expanded and give nothing. So
the pass does not give what the tree gives. It fails where the tree fails, though, and with the same
failure, for two reasons.

First, what was visited with success can be visited again with success (`visit_again`): the chains that
it expanded are skipped, and everything else is rendered as before. Second, whether markup can be put
together depends on little of its pieces. A join asks which of them are texts, and a chain asks which
are empty. A piece may therefore be replaced by a text that is empty when it is (`Value.Like`), and the
two ways of rendering can be compared step by step (`alike_visit`).
-/

namespace MiniTemplate

/-! ### Values that are joined alike -/

/-- Two values that are the same, or two texts that are related. -/
inductive Value.Like (related : String → String → Prop) : Value → Value → Prop where
  | text {s s' : String} (h : related s s') : Like related (.str s) (.str s')
  | same (v : Value) (h : ∀ s, v ≠ .str s) : Like related v v

/-- No more is asked of two texts than that they are texts. -/
def BothText (_ _ : String) : Prop := True

/-- Both texts are empty or none is. -/
def BothEmpty (s s' : String) : Prop := s = "" ↔ s' = ""

theorem Value.Like.refl {related : String → String → Prop} (hrefl : ∀ s, related s s) (v : Value) :
    Like related v v := by
  cases v with
  | str s => exact .text (hrefl s)
  | _ => exact .same _ nofun

theorem Value.Like.bothText {related : String → String → Prop} {v w : Value}
    (hlike : Like related v w) : Like BothText v w := by
  cases hlike with
  | text h => exact .text trivial
  | same v h => exact .same v h

theorem Value.Like.truthy_eq {v w : Value} (hlike : Like BothEmpty v w) : v.truthy = w.truthy := by
  cases hlike with
  | same v h => rfl
  | @text s s' h =>
      rw [Bool.eq_iff_iff]
      simpa [truthy, BothEmpty] using not_congr h

/-! ### Markup that is put together alike -/

namespace Markup

open Value

theorem joinFrom_alike {related : String → String → Prop} (hempty : related "" "")
    (happend : ∀ {s s' r r'}, related s s' → related r r' → related (s ++ r) (s' ++ r'))
    {pieces others : List Value} (hlike : List.Forall₂ (Like related) pieces others) (index : Nat) :
    EndAlike related (joinFrom index pieces) (joinFrom index others) := by
  induction hlike generalizing index with
  | nil => exact .ok hempty
  | @cons v w pieces others hhead htail ih =>
      cases hhead with
      | text h => exact (ih (index + 1)).bind fun r r' hrest => .ok (happend h hrest)
      | same _ h =>
          cases v with
          | str s => exact absurd rfl (h s)
          | _ => exact .error _

end Markup

namespace Generation

open Value Markup

theorem finishElement_eq_ok {start tag : String} {pieces : List Value} {value : Value}
    (hrun : finishElement start tag pieces = .ok value) (start' tag' : String) :
    ∃ inner, finishElement start' tag' pieces = .ok (.str (start' ++ inner ++ endTag tag')) := by
  rw [finishElement] at hrun ⊢
  cases hjoin : join pieces with
  | error failure =>
      rw [hjoin] at hrun
      cases hrun
  | ok inner => exact ⟨inner, rfl⟩

theorem bothEmpty_element (start tag inner inner' : String) :
    BothEmpty (start ++ inner ++ endTag tag) (start ++ inner' ++ endTag tag) := by
  have hfull : ∀ middle, start ++ middle ++ endTag tag ≠ "" := by
    intro middle hempty
    simp [endTag] at hempty
  exact ⟨fun hempty => absurd hempty (hfull inner), fun hempty => absurd hempty (hfull inner')⟩

theorem finishElement_alike (start tag : String) {pieces others : List Value}
    (hlike : List.Forall₂ (Like BothText) pieces others) :
    EndAlike (Like BothEmpty) (finishElement start tag pieces) (finishElement start tag others) :=
  (joinFrom_alike trivial (fun _ _ => trivial) hlike 0).bind fun inner inner' _ =>
    .ok (.text (bothEmpty_element start tag inner inner'))

theorem finishChain_alike {pieces others : List Value}
    (hlike : List.Forall₂ (Like BothEmpty) pieces others) :
    EndAlike (Like BothEmpty) (finishChain pieces) (finishChain others) := by
  have hkept : List.Forall₂ (Like BothEmpty) (pieces.filter truthy) (others.filter truthy) :=
    List.rel_filter (fun v w h => iff_of_eq (congrArg (· = true) h.truthy_eq)) hlike
  have hjoined : EndAlike BothEmpty (join (pieces.filter truthy)) (join (others.filter truthy)) := by
    refine joinFrom_alike Iff.rfl ?_ hkept 0
    intro s s' r r' hs hr
    simp only [BothEmpty, String.append_eq_empty_iff] at hs hr ⊢
    rw [hs, hr]
  exact hjoined.bind fun s s' h => .ok (.text h)

theorem respected_like : Respected (Like BothEmpty) where
  refl := .refl fun _ => Iff.rfl
  element := by
    intro start tag pieces others hlike
    exact finishElement_alike start tag (hlike.imp fun v w h => h.bothText)
  chain := finishChain_alike

end Generation

/-! ### Visits that are made again -/

namespace Generation

open Value

variable {ι : Type} [DecidableEq ι] {graph : Graph ι} {options : Options}

theorem visitAll_again {depth : Nat} {links : List (Link ι)} {pass last other : Pass ι}
    {values : List Value}
    (hvisit : ∀ link ∈ links, ∀ {pass last other : Pass ι} {value : Value},
      visit graph options depth link.1 link.2 pass = .ok value last →
      last.expanded ⊆ other.expanded →
      ∃ again after, visit graph options depth link.1 link.2 other = .ok again after
        ∧ Like BothText value again)
    (hall : visitAll (visit graph options depth) links pass = .ok values last)
    (hsub : last.expanded ⊆ other.expanded) :
    ∃ again after, visitAll (visit graph options depth) links other = .ok again after
      ∧ List.Forall₂ (Like BothText) values again := by
  induction links generalizing pass values other with
  | nil =>
      cases hall
      exact ⟨[], other, rfl, .nil⟩
  | cons link links ih =>
      obtain ⟨value, mid, rest, hrun, hrest, rfl⟩ := visitAll_cons_eq_ok hall
      obtain ⟨hlink, hlinks⟩ := List.forall_mem_cons.mp hvisit
      obtain ⟨again, after, hagain, hlike⟩ :=
        hlink hrun fun i hi => hsub (expanded_subset_visitAll hrest hi)
      obtain ⟨agains, final, hagains, hlikes⟩ :=
        ih hlinks hrest fun i hi => expanded_subset_visit hagain (hsub hi)
      exact ⟨again :: agains, final, by rw [visitAll_cons_of_ok hagain, hagains], .cons hlike hlikes⟩

theorem ownMove_again {depth : Nat} {node : Node ι} (hencloses : Tree.Encloses options node.label)
    {guard : Option Guard} {pass last other : Pass ι} {value : Value}
    (hrun : (ownMove options node guard pass).run (visit graph options depth) = .ok value last)
    (hsub : last.expanded ⊆ other.expanded)
    (hvisit : ∀ {j : ι} {pass last other : Pass ι} {value : Value},
      visit graph options depth j none pass = .ok value last → last.expanded ⊆ other.expanded →
      ∃ again after, visit graph options depth j none other = .ok again after
        ∧ Like BothText value again) :
    ∃ again after, (ownMove options node guard other).run (visit graph options depth) = .ok again after
      ∧ Like BothText value again := by
  rw [Tree.ownMove_of_encloses hencloses] at hrun ⊢
  cases hstart : Markup.startTag options node.label guard with
  | error failure =>
      rw [hstart] at hrun
      exact nomatch hrun
  | ok written =>
      rw [hstart] at hrun
      obtain ⟨pieces, hall, hfinish⟩ := run_descend_eq_ok hrun
      have hother : last.expanded ⊆ (finalPass (isComponent options node.label other)).expanded := by
        rw [expanded_isComponent]
        exact hsub
      have hlinks : ∀ link ∈ childLinks node, link.2 = none := by
        intro link hlink
        obtain ⟨child, -, rfl⟩ := List.mem_map.mp hlink
        rfl
      obtain ⟨agains, after, hagains, hlike⟩ := visitAll_again
        (fun link hlink => by rw [hlinks link hlink]; exact hvisit) hall hother
      have hend := finishElement_alike written.1 written.2 hlike
      rw [hfinish] at hend
      obtain ⟨again, hagain, hsame⟩ := hend.exists_of_ok
      refine ⟨again, after, ?_, hsame.bothText⟩
      simp only [Move.run, hagains, hagain]
      rfl

/-- **What was visited with success can be visited again.** Nothing is assumed of the graph, only that
the chains expanded the first time count as expanded, and that the visit is not one by which a chain is
expanded under a guard. Chains are skipped then, so texts may differ. -/
theorem visit_again {depth : Nat} {i : ι} {guard : Option Guard} {pass last other : Pass ι}
    {value : Value} (hvisit : visit graph options depth i guard pass = .ok value last)
    (hclosed : guard = none ∨ ¬ Opens graph pass i) (hsub : last.expanded ⊆ other.expanded) :
    ∃ again after, visit graph options depth i guard other = .ok again after
      ∧ Like BothText value again := by
  have hkept := expanded_subset_visit hvisit
  induction depth generalizing i guard pass last other value with
  | zero => exact nomatch hvisit
  | succ depth ih =>
      by_cases hopens : Opens graph pass i
      · -- the chain was expanded, and now it gives nothing
        obtain rfl := hclosed.resolve_right (not_not_intro hopens)
        rw [visit_succ, move, if_pos hopens] at hvisit
        obtain ⟨pieces, hall, hfinish⟩ := run_descend_eq_ok hvisit
        have hheld : i ∈ other.expanded := hsub (expanded_subset_visitAll hall List.mem_cons_self)
        refine ⟨.str "", other, visit_of_expanded hopens.1 hheld options depth, ?_⟩
        obtain ⟨joined, -, hvalue⟩ := Markup.bind_eq_ok hfinish
        cases hvalue
        exact .text trivial
      · have hopens' : ¬ Opens graph other i := fun hother =>
          hopens ⟨hother.1, hother.2.1, fun hheld => hother.2.2 (hsub (hkept hheld))⟩
        rw [visit_succ, move, if_neg hopens] at hvisit
        rw [visit_succ, move, if_neg hopens']
        by_cases hown : ((graph i).chain.isEmpty || guard.isSome) = true
        · rw [if_pos hown] at hvisit ⊢
          by_cases hencloses : Tree.Encloses options (graph i).label
          · exact ownMove_again hencloses hvisit hsub fun {j pass last other value} hrun hsub =>
              ih hrun (.inl rfl) hsub (expanded_subset_visit hrun)
          · rw [Tree.ownMove_of_not_encloses hencloses (.ok []) none] at hvisit ⊢
            obtain ⟨hresult, -⟩ := ofExcept_eq_ok hvisit
            rw [hresult]
            exact ⟨value, _, rfl, .refl (fun _ => trivial) value⟩
        · rw [if_neg hown] at hvisit ⊢
          cases hvisit
          exact ⟨.str "", other, rfl, .text trivial⟩

end Generation

/-! ### A pass and the tree end alike -/

namespace Tree

open Generation Value

variable {t u : Tree} {options : Options} {depth : Nat} {place : Place} {guard : Option Guard}
  {pass : Pass Place} {a : Activation Place}

/-- A visit to a lead whose chain counts as expanded renders the lead itself. -/
theorem visit_lead (hheld : place ∈ pass.expanded) (guard : Guard) :
    visit t.graph options (depth + 1) place (some guard) pass =
      (ownMove options (t.graph place) (some guard) pass).run (visit t.graph options depth) := by
  rw [visit_succ, move, if_neg fun hopens => hopens.2.2 hheld, Option.isSome_some, Bool.or_true,
    if_pos rfl]

/-- Under another guard, a node that can be rendered in the pass and in the tree ends alike in both. -/
theorem alike_other_guard {first second : Option Guard} {value expected : Value} {last : Pass Place}
    (hat : t.at? place = some u)
    (hrun : (ownMove options (t.graph place) first pass).run (visit t.graph options depth)
      = .ok value last)
    (hown : u.own options first = .ok expected) :
    EndAlike (Like BothEmpty)
      (outcome ((ownMove options (t.graph place) second pass).run (visit t.graph options depth)))
      (u.own options second) := by
  rw [own, ← label_graph hat] at hown ⊢
  by_cases hencloses : Encloses options (t.graph place).label
  · rw [ownMove_of_encloses hencloses] at hrun ⊢
    rw [ownMarkup_of_encloses hencloses] at hown ⊢
    obtain ⟨⟨start, tag⟩, hstart, hown⟩ := Markup.bind_eq_ok hown
    obtain ⟨pieces', hpieces', hfinish'⟩ := Markup.bind_eq_ok hown
    rw [hstart] at hrun
    obtain ⟨pieces, hpieces, hfinish⟩ := run_descend_eq_ok hrun
    cases Markup.startTag options (t.graph place).label second with
    | error failure => exact .error failure
    | ok written =>
        obtain ⟨inner, hinner⟩ := finishElement_eq_ok hfinish written.1 written.2
        obtain ⟨inner', hinner'⟩ := finishElement_eq_ok hfinish' written.1 written.2
        change EndAlike _ (outcome ((Move.descend _ _ (finishElement written.1 written.2)).run _))
          (markups options u.children >>= finishElement written.1 written.2)
        rw [outcome_run_descend, hpieces, hpieces']
        change EndAlike _ (finishElement written.1 written.2 pieces)
          (finishElement written.1 written.2 pieces')
        rw [hinner, hinner']
        exact .ok (.text (bothEmpty_element _ _ _ _))
  · rw [ownMove_of_not_encloses hencloses (markups options u.children) second, Move.run,
      outcome_ofExcept]
    exact .refl (.refl fun _ => Iff.rfl) _

theorem exists_first_lead {links : List (Link Place)} (hlead : ¬ ∀ link ∈ links, link.1 ≠ place) :
    ∃ earlier link later, links = earlier ++ link :: later ∧ link.1 = place
      ∧ ∀ other ∈ earlier, other.1 ≠ place := by
  have hsome : (links.find? fun link => link.1 = place).isSome := by
    simpa using hlead
  obtain ⟨link, hfound⟩ := Option.isSome_iff_exists.mp hsome
  obtain ⟨hplace, earlier, later, hsplit, hearlier⟩ := List.find?_eq_some_iff_append.mp hfound
  exact ⟨earlier, link, later, hsplit, by simpa using hplace, by simpa using hearlier⟩

namespace Answers

/-- Each entry of a chain that stands for the lead ends as the tree says. The first one finds nothing
expanded below the children of the lead. Where there is a later one, the first has succeeded, in the
pass and hence in the tree, and so would it if it were rendered again here. -/
theorem alike_lead (hnested : Answers (Like BothEmpty) t options depth) (hat : t.at? place = some u)
    (hclear : Clear place pass) (hdepth : 2 * u.height ≤ depth + 1)
    (hmem : a ∈ begun (visit t.graph options depth) depth (chainLinks (t.graph place))
      (recorded place pass)) (hlead : a.node = place) :
    EndAlike (Like BothEmpty) (outcome (visit t.graph options depth a.node a.guard a.pass))
      (u.own options a.guard) := by
  have hguards : ∀ link ∈ chainLinks (t.graph place), ∃ guard, link.2 = some guard := by
    intro link hlink
    obtain ⟨i, branch, -, rfl⟩ := exists_of_mem_chainLinks hat hlink
    exact ⟨branch.guard, rfl⟩
  have hrecorded : place ∈ (recorded place pass).expanded := List.mem_cons_self
  obtain ⟨second, hsecond⟩ := hguards _ (link_mem_of_mem_begun hmem)
  obtain ⟨-, before, after, values, hlinks, hbefore⟩ := exists_of_mem_begun hmem
  obtain ⟨limit, node, guard, last⟩ := a
  dsimp only at hlead hsecond hlinks hbefore ⊢
  subst hlead hsecond
  have hheld : node ∈ last.expanded := expanded_subset_visitAll hbefore hrecorded
  by_cases hfirst : ∀ link ∈ before, link.1 ≠ node
  · have hready := ready_of_first_lead hat hclear hdepth hlinks hbefore hfirst hheld
    have hend := hnested hready hat
    rw [if_pos hheld] at hend
    exact hend
  · obtain ⟨earlier, ⟨lead, guard⟩, later, rfl, rfl, hearlier⟩ := exists_first_lead hfirst
    obtain ⟨start, earliers, rest, hstart, hrest⟩ := visitAll_append_eq_ok hbefore
    obtain ⟨value, mid, laters, hvisit, hlater, -⟩ := visitAll_cons_eq_ok hrest
    have hstarted : lead ∈ start.expanded := expanded_subset_visitAll hstart hrecorded
    rw [List.append_assoc, List.cons_append] at hlinks
    obtain ⟨first, hguard⟩ := hguards (lead, guard) (by rw [hlinks]; simp)
    dsimp only at hguard hvisit
    subst hguard
    have hready := ready_of_first_lead hat hclear hdepth hlinks hstart hearlier hstarted
    have hend := hnested hready hat
    rw [if_pos hstarted, hvisit] at hend
    obtain ⟨expected, hexpected, -⟩ := hend.exists_of_ok
    obtain ⟨again, final, hagain, -⟩ := visit_again hvisit
      (.inr fun hopens => hopens.2.2 hstarted) (expanded_subset_visitAll hlater)
    cases depth with
    | zero => exact nomatch hvisit
    | succ depth =>
        rw [visit_lead hheld] at hagain ⊢
        exact alike_other_guard hat hagain hexpected

theorem entries (hnested : Answers (Like BothEmpty) t options depth) :
    Entries (Like BothEmpty) t options depth := by
  intro place pass u hat hclear hdepth a ha
  by_cases hlead : a.node = place
  · simp only [linkMarkup, hlead, hat, if_true]
    exact hlead ▸ hnested.alike_lead hat hclear hdepth ha hlead
  · obtain ⟨hready, hnew⟩ := ready_of_block hat hclear hdepth ha hlead
    exact hnested.alike_link ha ⟨hready, fun hheld => absurd hheld hnew, fun hsame => absurd hsame hlead⟩

end Answers

/-- **A ready visit ends as the tree says**, however many entries of a chain stand for its lead. -/
theorem alike_visit (t : Tree) (options : Options) (depth : Nat) :
    Answers (Like BothEmpty) t options depth := by
  induction depth with
  | zero => exact Answers.zero
  | succ depth ih => exact ih.succ respected_like ih.entries

/-- A template fails exactly when its tree cannot be rendered. The diagnostic document that takes its
place is that of the failure of the tree, which the log ends with. -/
theorem generate_of_markup (hdepth : 2 * t.height ≤ depth) (options : Options) :
    match t.markup options none with
    | .ok _ => (generate t.graph options depth []).failed = false
    | .error failure =>
      (generate t.graph options depth []).failed = true
        ∧ (generate t.graph options depth []).document = failure.report.document options.name
        ∧ ∃ earlier, (generate t.graph options depth []).pass.log =
          earlier ++ [.generationFailed options.name failure, .generationTraced] := by
  have hend : EndAlike (Like BothEmpty)
      (outcome (visit t.graph options depth [] none { log := [.generating options.name] }))
      (t.markup options none) := by
    have hready : Ready t ⟨depth, [], none, { log := [.generating options.name] }⟩ :=
      ready_root hdepth rfl
    have hroot := alike_visit t options depth hready rfl
    rw [if_neg List.not_mem_nil] at hroot
    exact hroot
  cases hvisit : visit t.graph options depth [] none { log := [.generating options.name] } with
  | error failure last =>
      rw [hvisit] at hend
      rw [hend.eq_error, generate, EStateM.run, Generation.document, bind_apply, hvisit]
      exact ⟨rfl, rfl, last.log, rfl⟩
  | ok value last =>
      rw [hvisit] at hend
      obtain ⟨expected, hexpected, -⟩ := hend.exists_of_ok
      rw [hexpected, generate, EStateM.run, Generation.document, bind_apply, hvisit]
      rfl

end Tree

end MiniTemplate

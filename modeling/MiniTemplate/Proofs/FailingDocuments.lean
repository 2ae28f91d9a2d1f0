import MiniTemplate.Proofs.LabelFaults
import MiniTemplate.Proofs.RenderedAgain
/-!
# Which documents fail, and how

Rendering reaches some of the nodes of a tree, each at a position of a chain (`Visits`). A document fails
if and only if one of these is at fault, or is a text that is none and has to be joined with other
markup; only the root is not joined with anything. A component hides what is below it, and so does a
chain that is marked as done.

The failure is the first one in the order of rendering. To say so, the faults of a tree are listed in
this order (`faults`): the parts of a start tag come before the children, and all pieces of markup are
there before any of them is joined.
-/

namespace MiniTemplate

open Markup

namespace Tree

/-! ### What becomes of a tree at a position of a chain -/

/-- A tree is rendered as the node that it is, or left out, or its chain is expanded. -/
inductive Course where
  | itself
  | nothing
  | chain

def course (t : Tree) (guard : Option Guard) : Course :=
  if t.chain.isEmpty then .itself
  else if !t.label.chainDone then .chain
  else if guard.isSome then .itself
  else .nothing

theorem markup_eq (t : Tree) (options : Options) (guard : Option Guard) :
    t.markup options guard =
      match t.course guard with
      | .itself => t.own options guard
      | .nothing => .ok (.str "")
      | .chain => t.chain.mapM (branchMarkup options (t.own options)) >>= Generation.finishChain := by
  rw [course]
  cases hchain : t.chain.isEmpty with
  | true => exact markup_of_no_chain hchain options guard
  | false =>
      cases hdone : t.label.chainDone with
      | false => exact markup_of_chain hchain hdone options guard
      | true =>
          rw [markup_of_done hchain hdone]
          cases guard <;> rfl

mutual

/-- The nodes that are rendered when a tree stands at a position of a chain, with their own positions. -/
inductive Visits (options : Options) : Tree → Option Guard → Tree → Option Guard → Prop where
  | itself {t u : Tree} {guard position : Option Guard} (hcourse : t.course guard = .itself)
      (hrenders : Renders options t guard u position) : Visits options t guard u position
  | lead {t u : Tree} {guard position : Option Guard} (hcourse : t.course guard = .chain)
      (branch : Branch Tree) (hbranch : branch ∈ t.chain) (hblock : branch.block = none)
      (hrenders : Renders options t (some branch.guard) u position) : Visits options t guard u position
  | block {t u : Tree} {guard position : Option Guard} (hcourse : t.course guard = .chain)
      (branch : Branch Tree) (hbranch : branch ∈ t.chain) (block : Tree)
      (hblock : branch.block = some block)
      (hvisits : Visits options block (some branch.guard) u position) : Visits options t guard u position

/-- The nodes that are rendered when a node is rendered itself: the node, and what its children lead
to if it is rendered as an element. -/
inductive Renders (options : Options) : Tree → Option Guard → Tree → Option Guard → Prop where
  | own (t : Tree) (guard : Option Guard) : Renders options t guard t guard
  | child {t u : Tree} {guard position : Option Guard} (hencloses : Encloses options t.label)
      (child : Tree) (hchild : child ∈ t.children) (hvisits : Visits options child none u position) :
      Renders options t guard u position

end

/-! ### The faults of a tree -/

mutual

/-- A tree gives nothing at a position of a chain. -/
def blank : Tree → Option Guard → Bool
  | .node label children chain, guard =>
    match (Tree.node label children chain).course guard with
    | .itself => label.blank
    | .nothing => true
    | .chain => blanks label.blank chain

def blanks (lead : Bool) : List (Branch Tree) → Bool
  | [] => true
  | ⟨_, _, none⟩ :: branches => lead && blanks lead branches
  | ⟨guard, _, some block⟩ :: branches => block.blank (some guard) && blanks lead branches

end

/-- The value that a tree gives at a position of a chain, if it is no text. -/
def straying? (t : Tree) (guard : Option Guard) : Option Value :=
  match t.course guard with
  | .itself => t.label.straying?
  | _ => none

/-- An entry of a chain gives nothing, in terms of whether its lead does. -/
def branchBlank (lead : Bool) (branch : Branch Tree) : Bool :=
  match branch.block with
  | none => lead
  | some block => block.blank (some branch.guard)

def branchStraying? (lead : Option Value) (branch : Branch Tree) : Option Value :=
  match branch.block with
  | none => lead
  | some block => block.straying? (some branch.guard)

/-- The entries of a chain as pieces of markup, those left out that give nothing. -/
def chainStraying (label : Label) (chain : List (Branch Tree)) : List (Option Value) :=
  (chain.filter fun branch => !branchBlank label.blank branch).map (branchStraying? label.straying?)

mutual

/-- The faults of a tree at a position of a chain, in the order in which they are met. -/
def faults (options : Options) : Tree → Option Guard → List Failure
  | .node label children chain, guard =>
    let own (guard : Option Guard) := ownFaults options label guard
      (childFaults options children ++ joinFaults 0 (children.map fun child => child.straying? none))
    match (Tree.node label children chain).course guard with
    | .itself => own guard
    | .nothing => []
    | .chain => branchFaults options own chain ++ joinFaults 0 (chainStraying label chain)

def childFaults (options : Options) : List Tree → List Failure
  | [] => []
  | child :: children => child.faults options none ++ childFaults options children

def branchFaults (options : Options) (own : Option Guard → List Failure) :
    List (Branch Tree) → List Failure
  | [] => []
  | ⟨guard, _, none⟩ :: branches => own (some guard) ++ branchFaults options own branches
  | ⟨guard, _, some block⟩ :: branches =>
    block.faults options (some guard) ++ branchFaults options own branches

end

/-- The faults of what stands between the tags of an element. -/
def innerFaults (options : Options) (t : Tree) : List Failure :=
  (t.children.flatMap fun child => child.faults options none)
    ++ joinFaults 0 (t.children.map fun child => child.straying? none)

/-- The faults of an entry of the chain of a tree. -/
def entryFaults (options : Options) (t : Tree) (branch : Branch Tree) : List Failure :=
  match branch.block with
  | none => ownFaults options t.label (some branch.guard) (t.innerFaults options)
  | some block => block.faults options (some branch.guard)

theorem childFaults_eq_flatMap (options : Options) (children : List Tree) :
    childFaults options children = children.flatMap fun child => child.faults options none := by
  induction children with
  | nil => rfl
  | cons child children ih => rw [childFaults, ih, List.flatMap_cons]

theorem branchFaults_eq_flatMap (options : Options) (t : Tree) (branches : List (Branch Tree)) :
    branchFaults options (fun guard => ownFaults options t.label guard (t.innerFaults options)) branches =
      branches.flatMap (t.entryFaults options) := by
  induction branches with
  | nil => rfl
  | cons branch branches ih =>
      obtain ⟨guard, test, block⟩ := branch
      cases block with
      | none => rw [branchFaults, ih, List.flatMap_cons, entryFaults]
      | some block => rw [branchFaults, ih, List.flatMap_cons, entryFaults]

theorem faults_eq (t : Tree) (options : Options) (guard : Option Guard) :
    t.faults options guard =
      match t.course guard with
      | .itself => ownFaults options t.label guard (t.innerFaults options)
      | .nothing => []
      | .chain =>
        t.chain.flatMap (t.entryFaults options) ++ joinFaults 0 (chainStraying t.label t.chain) := by
  rw [← branchFaults_eq_flatMap]
  obtain ⟨label, children, chain⟩ := t
  rw [faults, childFaults_eq_flatMap]
  rfl

theorem blanks_eq_all (lead : Bool) (branches : List (Branch Tree)) :
    blanks lead branches = branches.all (branchBlank lead) := by
  induction branches with
  | nil => rfl
  | cons branch branches ih =>
      obtain ⟨guard, test, block⟩ := branch
      cases block with
      | none => rw [blanks, ih, List.all_cons, branchBlank]
      | some block => rw [blanks, ih, List.all_cons, branchBlank]

theorem blank_eq (t : Tree) (guard : Option Guard) :
    t.blank guard =
      match t.course guard with
      | .itself => t.label.blank
      | .nothing => true
      | .chain => t.chain.all (branchBlank t.label.blank) := by
  rw [← blanks_eq_all]
  obtain ⟨label, children, chain⟩ := t
  rw [blank]
  rfl

/-! ### The markup of a tree fails with the first of its faults -/

/-- The markup of a tree fails with the first of its faults, and is such a piece as is foreseen. -/
def Foretold (options : Options) (t : Tree) : Prop :=
  ∀ guard, FailsAs (t.markup options guard) (t.faults options guard)
    ∧ ∀ value, t.markup options guard = .ok value → value.Fits (t.straying? guard) (t.blank guard)

theorem forall₂_of_mapM {α : Type} {f : α → Except Failure Value} {related : Value → α → Prop}
    {items : List α} (hf : ∀ a ∈ items, ∀ value, f a = .ok value → related value a)
    {values : List Value} (hrun : items.mapM f = .ok values) : List.Forall₂ related values items := by
  induction items generalizing values with
  | nil =>
      cases hrun
      exact .nil
  | cons a items ih =>
      obtain ⟨hhead, htail⟩ := List.forall_mem_cons.mp hf
      rw [List.mapM_cons] at hrun
      obtain ⟨value, hvalue, hrun⟩ := bind_eq_ok hrun
      obtain ⟨rest, hrest, hrun⟩ := bind_eq_ok hrun
      cases hrun
      exact .cons (hhead value hvalue) (ih htail hrest)

/-- Pieces of markup that are set are joined to nothing only if there are none. -/
theorem joinFrom_eq_empty_iff {index : Nat} {pieces : List Value} {joined : String}
    (hjoin : joinFrom index pieces = .ok joined) (hset : ∀ piece ∈ pieces, piece.truthy = true) :
    joined = "" ↔ pieces = [] := by
  cases pieces with
  | nil =>
      cases hjoin
      exact iff_of_true rfl rfl
  | cons piece pieces =>
      cases piece with
      | str s =>
          obtain ⟨rest, -, hjoin⟩ := bind_eq_ok hjoin
          cases hjoin
          have hs : s ≠ "" := by simpa [Value.truthy] using hset (.str s) List.mem_cons_self
          refine iff_of_false ?_ (List.cons_ne_nil _ _)
          rw [String.append_eq_empty_iff]
          exact fun hboth => hs hboth.1
      | _ => cases hjoin

section Foretold

variable {options : Options} {t : Tree}

theorem failsAs_own (htags : options.TagsText) (hlabel : t.label.Loadable)
    (hchildren : ∀ child ∈ t.children, child.Foretold options) (guard : Option Guard) :
    FailsAs (t.own options guard) (ownFaults options t.label guard (t.innerFaults options)) := by
  refine failsAs_ownMarkup htags hlabel ?_ ?_ guard
  · rw [markups_eq_mapM]
    exact .mapM fun child hchild => (hchildren child hchild none).1
  · intro pieces hpieces
    rw [markups_eq_mapM] at hpieces
    refine failsAs_joinFrom ?_ 0
    rw [List.forall₂_map_right_iff]
    refine forall₂_of_mapM (fun child hchild value hvalue => ?_) hpieces
    exact ⟨child.blank none, (hchildren child hchild none).2 value hvalue⟩

theorem failsAs_branchMarkup (htags : options.TagsText) (hlabel : t.label.Loadable)
    (hchildren : ∀ child ∈ t.children, child.Foretold options) {branch : Branch Tree}
    (hblock : ∀ block, branch.block = some block → block.Foretold options) :
    FailsAs (branchMarkup options (t.own options) branch) (t.entryFaults options branch)
      ∧ ∀ value, branchMarkup options (t.own options) branch = .ok value →
        value.Fits (branchStraying? t.label.straying? branch) (branchBlank t.label.blank branch) := by
  rw [branchMarkup, entryFaults, branchStraying?, branchBlank]
  cases hfound : branch.block with
  | none =>
      refine ⟨failsAs_own htags hlabel hchildren (some branch.guard), ?_⟩
      exact fun value hvalue => fits_ownMarkup hlabel hvalue
  | some block => exact hblock block hfound (some branch.guard)

/-- The pieces of a chain that are joined are those of the entries that do not give nothing. -/
theorem fits_filter {label : Label} {pieces : List Value} {chain : List (Branch Tree)}
    (hfits : List.Forall₂ (fun value branch =>
      value.Fits (branchStraying? label.straying? branch) (branchBlank label.blank branch)) pieces chain) :
    List.Forall₂ (fun value expected => ∃ blank, value.Fits expected blank)
      (pieces.filter Value.truthy) (chainStraying label chain) := by
  have hkept := List.rel_filter (p := Value.truthy) (q := fun branch => !branchBlank label.blank branch)
    (fun value branch hfit => iff_of_eq (congrArg (· = true) hfit.truthy_eq)) hfits
  rw [chainStraying, List.forall₂_map_right_iff]
  exact hkept.imp fun value branch hfit => ⟨_, hfit⟩

theorem foretold_chain (htags : options.TagsText) (hlabel : t.label.Loadable)
    (hchildren : ∀ child ∈ t.children, child.Foretold options)
    (hblocks : ∀ branch ∈ t.chain, ∀ block, branch.block = some block → block.Foretold options) :
    FailsAs (t.chain.mapM (branchMarkup options (t.own options)) >>= Generation.finishChain)
      (t.chain.flatMap (t.entryFaults options) ++ joinFaults 0 (chainStraying t.label t.chain))
    ∧ ∀ value, (t.chain.mapM (branchMarkup options (t.own options)) >>= Generation.finishChain)
        = .ok value →
      value.Fits none (t.chain.all (branchBlank t.label.blank)) := by
  have hbranches := fun branch hbranch =>
    failsAs_branchMarkup htags hlabel hchildren (hblocks branch hbranch)
  have hfits : ∀ {pieces}, t.chain.mapM (branchMarkup options (t.own options)) = .ok pieces →
      List.Forall₂ (fun value branch => value.Fits (branchStraying? t.label.straying? branch)
        (branchBlank t.label.blank branch)) pieces t.chain :=
    forall₂_of_mapM fun branch hbranch => (hbranches branch hbranch).2
  constructor
  · refine FailsAs.bind (.mapM fun branch hbranch => (hbranches branch hbranch).1) ?_
    intro pieces hpieces
    exact (failsAs_joinFrom (fits_filter (hfits hpieces)) 0).andThen fun joined => ⟨_, rfl⟩
  · intro value hrun
    obtain ⟨pieces, hpieces, hrun⟩ := bind_eq_ok hrun
    obtain ⟨joined, hjoined, hrun⟩ := bind_eq_ok hrun
    cases hrun
    refine ⟨fun _ => ⟨joined, rfl⟩, nofun, ?_⟩
    have hkept := (fits_filter (hfits hpieces)).length_eq
    have hempty : joined = "" ↔ t.chain.all (branchBlank t.label.blank) = true := by
      rw [joinFrom_eq_empty_iff hjoined fun piece hpiece => (List.mem_filter.mp hpiece).2,
        ← List.length_eq_zero_iff, hkept, List.length_eq_zero_iff, chainStraying,
        List.map_eq_nil_iff, List.filter_eq_nil_iff, List.all_eq_true]
      simp
    cases hblank : t.chain.all (branchBlank t.label.blank) with
    | true =>
        rw [hempty.mpr hblank]
        rfl
    | false =>
        rw [hblank] at hempty
        simpa [Value.truthy] using hempty

/-- **The markup of a tree fails with the first of its faults**, and not at all if there are none. -/
theorem foretold_of_loadable (htags : options.TagsText) (t : Tree)
    (hlabels : t.Everywhere fun u => u.label.Loadable) : t.Foretold options := by
  induction t using Tree.induct with
  | hnode t hchildren hblocks =>
      obtain ⟨hlabel, hbelow, hbeside⟩ := everywhere_iff.mp hlabels
      have hchildren : ∀ child ∈ t.children, child.Foretold options :=
        fun child hmem => hchildren child hmem (hbelow child hmem)
      have hblocks : ∀ branch ∈ t.chain, ∀ block, branch.block = some block →
          block.Foretold options :=
        fun branch hmem block hblock => hblocks branch hmem block hblock (hbeside branch hmem block hblock)
      intro guard
      rw [markup_eq, faults_eq, straying?, blank_eq]
      cases t.course guard with
      | itself =>
          exact ⟨failsAs_own htags hlabel hchildren guard, fun _ hvalue => fits_ownMarkup hlabel hvalue⟩
      | chain => exact foretold_chain htags hlabel hchildren hblocks
      | nothing =>
          refine ⟨.ok _, fun value hvalue => ?_⟩
          cases hvalue
          exact ⟨fun _ => ⟨"", rfl⟩, nofun, rfl⟩

end Foretold

/-! ### A tree has no faults when nothing that is rendered is at fault -/

section Visits

variable {options : Options} {t : Tree} {guard : Option Guard}

/-- A node can be rendered at a position of a chain, and can be joined with other markup. -/
def Sound (options : Options) (u : Tree) (position : Option Guard) : Prop :=
  ¬ u.label.Faulty options position ∧ ¬ u.label.Stray

theorem forall_renders_iff {holds : Tree → Option Guard → Prop} :
    (∀ u position, Renders options t guard u position → holds u position) ↔
      holds t guard ∧ (Encloses options t.label → ∀ child ∈ t.children, ∀ u position,
        Visits options child none u position → holds u position) := by
  constructor
  · intro hall
    refine ⟨hall t guard (.own t guard), ?_⟩
    exact fun hencloses child hchild u position hvisits =>
      hall u position (.child hencloses child hchild hvisits)
  · rintro ⟨hown, hbelow⟩ u position hrenders
    cases hrenders with
    | own => exact hown
    | child hencloses child hchild hvisits => exact hbelow hencloses child hchild u position hvisits

/-- What holds of all nodes that an entry of a chain leads to. -/
def ForEntry (options : Options) (t : Tree) (holds : Tree → Option Guard → Prop)
    (branch : Branch Tree) : Prop :=
  match branch.block with
  | none => ∀ u position, Renders options t (some branch.guard) u position → holds u position
  | some block => ∀ u position, Visits options block (some branch.guard) u position → holds u position

theorem forall_visits_iff {holds : Tree → Option Guard → Prop} :
    (∀ u position, Visits options t guard u position → holds u position) ↔
      match t.course guard with
      | .itself => ∀ u position, Renders options t guard u position → holds u position
      | .nothing => True
      | .chain => ∀ branch ∈ t.chain, t.ForEntry options holds branch := by
  constructor
  · intro hall
    cases hcourse : t.course guard with
    | itself => exact fun u position hrenders => hall u position (.itself hcourse hrenders)
    | nothing => trivial
    | chain =>
        intro branch hbranch
        rw [ForEntry]
        cases hblock : branch.block with
        | none =>
            exact fun u position hrenders =>
              hall u position (.lead hcourse branch hbranch hblock hrenders)
        | some block =>
            exact fun u position hvisits =>
              hall u position (.block hcourse branch hbranch block hblock hvisits)
  · intro hall u position hvisits
    cases hvisits with
    | itself hcourse hrenders =>
        rw [hcourse] at hall
        exact hall u position hrenders
    | lead hcourse branch hbranch hblock hrenders =>
        rw [hcourse] at hall
        have hentry := hall branch hbranch
        rw [ForEntry, hblock] at hentry
        exact hentry u position hrenders
    | block hcourse branch hbranch block hblock hvisits =>
        rw [hcourse] at hall
        have hentry := hall branch hbranch
        rw [ForEntry, hblock] at hentry
        exact hentry u position hvisits

theorem innerFaults_eq_nil_iff :
    t.innerFaults options = [] ↔
      ∀ child ∈ t.children, child.faults options none = [] ∧ child.straying? none = none := by
  rw [innerFaults, List.append_eq_nil_iff, List.flatMap_eq_nil_iff, joinFaults_eq_nil_iff,
    List.forall_mem_map, ← forall₂_and]

/-- A tree is without faults, and is no stray text, exactly when all nodes that are rendered are sound. -/
def Reveals (options : Options) (t : Tree) : Prop :=
  ∀ guard, (t.faults options guard = [] ∧ t.straying? guard = none) ↔
    ∀ u position, Visits options t guard u position → Sound options u position

theorem own_reveals (hlabel : t.label.Loadable) (hchildren : ∀ child ∈ t.children, child.Reveals options)
    (guard : Option Guard) :
    (ownFaults options t.label guard (t.innerFaults options) = [] ∧ t.label.straying? = none) ↔
      ∀ u position, Renders options t guard u position → Sound options u position := by
  rw [forall_renders_iff, ownFaults_eq_nil_iff hlabel, innerFaults_eq_nil_iff,
    Label.straying?_eq_none_iff, Sound, and_right_comm]
  refine and_congr_right fun _ => forall_congr' fun _ => ?_
  exact forall_congr' fun child => forall_congr' fun hchild => hchildren child hchild none

theorem straying?_eq_none_of_blank (hblank : t.blank guard = true) : t.straying? guard = none := by
  rw [blank_eq] at hblank
  rw [straying?]
  cases hcourse : t.course guard with
  | itself =>
      rw [hcourse] at hblank
      exact t.label.straying?_eq_none_iff.mpr (Label.not_stray_of_blank hblank)
  | nothing => rfl
  | chain => rfl

theorem branchStraying?_eq_none_of_blank {label : Label} {branch : Branch Tree}
    (hblank : branchBlank label.blank branch = true) : branchStraying? label.straying? branch = none := by
  rw [branchBlank] at hblank
  rw [branchStraying?]
  cases hblock : branch.block with
  | none =>
      rw [hblock] at hblank
      exact label.straying?_eq_none_iff.mpr (Label.not_stray_of_blank hblank)
  | some block =>
      rw [hblock] at hblank
      exact straying?_eq_none_of_blank hblank

/-- No entry of a chain is refused by the join when none is stray: what is left out is not stray. -/
theorem joinFaults_chain_eq_nil_iff (label : Label) (chain : List (Branch Tree)) :
    joinFaults 0 (chainStraying label chain) = [] ↔
      ∀ branch ∈ chain, branchStraying? label.straying? branch = none := by
  rw [joinFaults_eq_nil_iff, chainStraying, List.forall_mem_map]
  constructor
  · intro hkept branch hbranch
    cases hblank : branchBlank label.blank branch with
    | true => exact branchStraying?_eq_none_of_blank hblank
    | false => exact hkept branch (List.mem_filter.mpr ⟨hbranch, by rw [hblank]; rfl⟩)
  · exact fun hall branch hbranch => hall branch (List.mem_filter.mp hbranch).1

theorem entry_reveals (hlabel : t.label.Loadable)
    (hchildren : ∀ child ∈ t.children, child.Reveals options) {branch : Branch Tree}
    (hblock : ∀ block, branch.block = some block → block.Reveals options) :
    (t.entryFaults options branch = [] ∧ branchStraying? t.label.straying? branch = none) ↔
      t.ForEntry options (Sound options) branch := by
  rw [entryFaults, branchStraying?, ForEntry]
  cases hfound : branch.block with
  | none => exact own_reveals hlabel hchildren (some branch.guard)
  | some block => exact hblock block hfound (some branch.guard)

theorem reveals_of_loadable (options : Options) (t : Tree)
    (hlabels : t.Everywhere fun u => u.label.Loadable) : t.Reveals options := by
  induction t using Tree.induct with
  | hnode t hchildren hblocks =>
      obtain ⟨hlabel, hbelow, hbeside⟩ := everywhere_iff.mp hlabels
      have hchildren : ∀ child ∈ t.children, child.Reveals options :=
        fun child hmem => hchildren child hmem (hbelow child hmem)
      intro guard
      rw [forall_visits_iff, faults_eq, straying?]
      cases t.course guard with
      | itself => exact own_reveals hlabel hchildren guard
      | nothing => exact iff_of_true ⟨rfl, rfl⟩ trivial
      | chain =>
          dsimp only
          rw [List.append_eq_nil_iff, List.flatMap_eq_nil_iff, joinFaults_chain_eq_nil_iff,
            and_iff_left rfl, ← forall₂_and]
          refine forall_congr' fun branch => forall_congr' fun hbranch => ?_
          exact entry_reveals hlabel hchildren fun block hblock =>
            hblocks branch hbranch block hblock (hbeside branch hbranch block hblock)

theorem course_none_eq_itself_iff : t.course none = .itself ↔ t.chain = [] := by
  rw [course, ← List.isEmpty_iff]
  cases t.chain.isEmpty with
  | true => exact iff_of_true rfl rfl
  | false => cases t.label.chainDone <;> exact iff_of_false nofun nofun

/-- **A tree has faults exactly when a node that is rendered is at fault**, or is a stray text and not the
root of a tree without a chain. -/
theorem faults_ne_nil_iff (hlabels : t.Everywhere fun u => u.label.Loadable) :
    t.faults options none ≠ [] ↔
      ∃ u position, Visits options t none u position
        ∧ (u.label.Faulty options position ∨ (u.label.Stray ∧ ¬ (u = t ∧ t.chain = []))) := by
  have hstraying : t.chain = [] → t.straying? none = t.label.straying? := fun hchain => by
    rw [straying?, course_none_eq_itself_iff.mpr hchain]
  by_cases hexempt : t.chain = [] ∧ t.label.Stray
  · -- the root is a stray text that is not joined with anything, and nothing else is rendered
    obtain ⟨hchain, hstray⟩ := hexempt
    have hcourse := course_none_eq_itself_iff.mpr hchain
    have hnode : ¬ Encloses options t.label := fun hnode => nomatch hstray.1.symm.trans hnode.2
    have honly : ∀ u position, Visits options t none u position → u = t ∧ position = none := by
      rw [forall_visits_iff, hcourse, forall_renders_iff]
      exact ⟨⟨rfl, rfl⟩, fun hencloses => absurd hencloses hnode⟩
    rw [ne_eq, faults_eq, hcourse, ownFaults_eq_nil_iff (everywhere_iff.mp hlabels).1,
      and_iff_left fun hencloses => absurd hencloses hnode, not_not]
    constructor
    · exact fun hfaulty => ⟨t, none, .itself hcourse (.own t none), .inl hfaulty⟩
    · rintro ⟨u, position, hvisits, hfault⟩
      obtain ⟨rfl, rfl⟩ := honly u position hvisits
      exact hfault.resolve_right fun hother => hother.2 ⟨rfl, hchain⟩
  · have hnone : t.straying? none = none := by
      by_cases hchain : t.chain = []
      · rw [hstraying hchain, Label.straying?_eq_none_iff]
        exact fun hstray => hexempt ⟨hchain, hstray⟩
      · rw [straying?]
        split
        · rename_i hcourse
          exact absurd (course_none_eq_itself_iff.mp hcourse) hchain
        · rfl
    have hreveals := reveals_of_loadable options t hlabels none
    rw [and_iff_left hnone] at hreveals
    rw [ne_eq, hreveals]
    constructor
    · intro hunsound
      push Not at hunsound
      obtain ⟨u, position, hvisits, hunsound⟩ := hunsound
      refine ⟨u, position, hvisits, ?_⟩
      by_cases hfaulty : u.label.Faulty options position
      · exact .inl hfaulty
      · have hstray : u.label.Stray := by
          by_contra hstray
          exact hunsound ⟨hfaulty, hstray⟩
        refine .inr ⟨hstray, ?_⟩
        rintro ⟨rfl, hchain⟩
        exact hexempt ⟨hchain, hstray⟩
    · rintro ⟨u, position, hvisits, hfault⟩ hall
      obtain ⟨hsound, hjoined⟩ := hall u position hvisits
      exact hfault.elim hsound fun hstray => hjoined hstray.1

end Visits

/-! ### Documents -/

theorem loadable_of_label {place : Place} {fields : Fields} {own : Label}
    (hlabel : Load.label place fields = .ok own) : own.Loadable := by
  obtain ⟨type, -, hlabel⟩ := bind_eq_ok hlabel
  cases type with
  | element =>
      change Load.elementLabel place fields = _ at hlabel
      rw [Load.elementLabel] at hlabel
      split at hlabel
      · obtain ⟨tag, -, hlabel⟩ := bind_eq_ok hlabel
        obtain ⟨attrs, -, hlabel⟩ := bind_eq_ok hlabel
        obtain ⟨events, -, hlabel⟩ := bind_eq_ok hlabel
        cases hlabel
        exact ⟨fun _ => ⟨tag, rfl⟩, nofun⟩
      · exact nomatch hlabel
  | expression =>
      cases hlabel
      exact ⟨nofun, fun _ => rfl⟩
  | text =>
      cases hlabel
      exact ⟨nofun, fun _ => rfl⟩

/-- **Exactly the documents fail in which a node at fault is rendered, with the first fault met.** A
document that was loaded, generated with room for visits to nest twice as deep and with a table of tags
that are texts, fails if and only if a node is rendered that is at fault, or one that is a stray text
and not the root itself. It is then replaced by the diagnostic document of the first of the faults in
the order of rendering, and this is what the log ends with. -/
theorem document_fails_iff {limit depth : Nat} {data : Value} {log rest : Log} {t : Tree}
    {options : Options} (hload : Load.tree limit data log = .ok t rest) (hdepth : 2 * limit ≤ depth)
    (htags : options.TagsText) :
    ((generate t.graph options depth []).failed = true ↔
      ∃ u position, Visits options t none u position
        ∧ (u.label.Faulty options position ∨ (u.label.Stray ∧ ¬ (u = t ∧ t.chain = []))))
    ∧ match (t.faults options none).head? with
      | none => (generate t.graph options depth []).failed = false
      | some failure =>
        (generate t.graph options depth []).failed = true
          ∧ (generate t.graph options depth []).document = failure.report.document options.name
          ∧ ∃ earlier, (generate t.graph options depth []).pass.log =
            earlier ++ [.generationFailed options.name failure, .generationTraced] := by
  have hlabels : t.Everywhere fun u => u.label.Loadable := Load.everywhere_of_node loadable_of_label hload
  have hheight : 2 * t.height ≤ depth := by
    have hle : t.height ≤ limit := Load.height_le_of_node hload
    omega
  have hfails := (foretold_of_loadable htags t hlabels none).1
  have hgenerate := generate_of_markup hheight options
  rw [← faults_ne_nil_iff hlabels]
  cases hmarkup : t.markup options none with
  | ok value =>
      rw [hmarkup] at hfails hgenerate
      rw [show t.faults options none = [] from hfails]
      exact ⟨iff_of_false (by rw [hgenerate]; nofun) (not_not_intro rfl), hgenerate⟩
  | error failure =>
      rw [hmarkup] at hfails hgenerate
      rw [show (t.faults options none).head? = some failure from hfails]
      refine ⟨iff_of_true hgenerate.1 fun hnil => ?_, hgenerate⟩
      rw [FailsAs, hnil] at hfails
      exact nomatch hfails

/-- A lead that is rendered twice, then a block that gives nothing, and one that is a stray text. -/
def recurring : Value :=
  .object
    [("tag", .str "p"), ("_hid", .int 4),
      ("ifConditions", .list
        [.object [("exp", .str "a")], .object [("exp", .str "b")],
          .object [("exp", .str "c"), ("block", .object [("type", .int 3)])],
          .object [("block", .object [("type", .int 3), ("text", .int 7)])]]),
      ("children", .list
        [.object [("tag", .str "b"), ("_hid", .int 6), ("ifConditions", .list [.object []])]])]

def recurringTree : Tree :=
  .node { tag := .str "p", handle := .int 4 }
    [.node { tag := .str "b", handle := .int 6 } [] [⟨.ifTrue, .null, none⟩]]
    [⟨.ifTrue, .str "a", none⟩, ⟨.elseIf, .str "b", none⟩,
      ⟨.elseIf, .str "c", some (.node { kind := .text, static := true } [] [])⟩,
      ⟨.otherwise, .null, some (.node { kind := .text, text := .int 7, static := true } [] [])⟩]

/-- The stray text is the third piece of the chain, since the block before it is left out. -/
theorem document_fails_iff_recurring :
    Load.tree 2 recurring [] = .ok recurringTree [] ∧ 2 * 2 ≤ 4 ∧ Options.TagsText {}
      ∧ (generate recurringTree.graph {} 4 []).failed = true
      ∧ (generate recurringTree.graph {} 4 []).document =
        (Failure.pieceNotText 2 (.int 7)).report.document (.str "defaultName")
      ∧ ∃ u position, Visits {} recurringTree none u position
        ∧ (u.label.Faulty {} position
          ∨ (u.label.Stray ∧ ¬ (u = recurringTree ∧ recurringTree.chain = []))) := by
  have hload : Load.tree 2 recurring [] = .ok recurringTree [] := by rfl
  have htags : Options.TagsText {} := nofun
  obtain ⟨hiff, hfirst⟩ := document_fails_iff hload (Nat.le_refl 4) htags
  have hfaults : (recurringTree.faults {} none).head? = some (.pieceNotText 2 (.int 7)) := by rfl
  rw [hfaults] at hfirst
  obtain ⟨hfailed, hdocument, -⟩ := hfirst
  exact ⟨hload, Nat.le_refl 4, htags, hfailed, hdocument, hiff.mp hfailed⟩

end Tree

end MiniTemplate

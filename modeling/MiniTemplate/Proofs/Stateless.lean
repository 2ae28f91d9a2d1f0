import MiniTemplate.Generate
/-!
# Rendering without a pass

A tree can be rendered from the root down with no memory of what was rendered before: a chain is
expanded where its lead stands, an entry without a block gives the lead itself, and nothing else can
come to a node a second time. This is what the markup of a tree means; a pass over the graph of the
tree has to give the same.
-/

namespace MiniTemplate

namespace Markup

theorem bind_eq_ok {ε α β : Type} {x : Except ε α} {f : α → Except ε β} {b : β}
    (hbind : (x >>= f) = .ok b) : ∃ a, x = .ok a ∧ f a = .ok b := by
  cases x with
  | error failure => exact nomatch hbind
  | ok a => exact ⟨a, rfl, hbind⟩

end Markup

namespace Tree

/-- Whether a node is rendered as a component, for which it must refer to one that is imported. -/
def isReference (options : Options) (label : Label) : Except Failure Bool :=
  if label.component.isNull then .ok false
  else (Markup.importOf? options label.tag).map Option.isSome

/-- The node itself, whatever chain it leads. All children are rendered before they are joined. -/
def ownMarkup (options : Options) (label : Label) (children : Except Failure (List Value))
    (guard : Option Guard) : Except Failure Value := do
  if ← isReference options label then
    return .str (← Markup.componentOf options label)
  match label.kind with
  | .text => Markup.textOf label
  | .element =>
    let (start, tag) ← Markup.startTag options label guard
    let inner ← Markup.join (← children)
    return .str (start ++ inner ++ Markup.endTag tag)

/-- Whether a node is rendered as an element, with its children between its tags. -/
def Encloses (options : Options) (label : Label) : Prop :=
  isReference options label = .ok false ∧ label.kind = .element

/-- The children that are rendered with a node, which are those of an element. -/
def enclosed {ι : Type} (options : Options) (node : Node ι) : List ι :=
  match isReference options node.label, node.label.kind with
  | .ok false, .element => node.children
  | _, _ => []

theorem enclosed_of_encloses {ι : Type} {options : Options} {node : Node ι}
    (hencloses : Encloses options node.label) : enclosed options node = node.children := by
  rw [enclosed, hencloses.1, hencloses.2]

theorem enclosed_of_not_encloses {ι : Type} {options : Options} {node : Node ι}
    (hencloses : ¬ Encloses options node.label) : enclosed options node = [] := by
  rw [enclosed]
  split
  · rename_i hreference hkind
    exact absurd ⟨hreference, hkind⟩ hencloses
  · rfl

theorem ownMarkup_of_encloses {options : Options} {label : Label} (hencloses : Encloses options label)
    (children : Except Failure (List Value)) (guard : Option Guard) :
    ownMarkup options label children guard = (do
      let (start, tag) ← Markup.startTag options label guard
      let inner ← Markup.join (← children)
      return .str (start ++ inner ++ Markup.endTag tag)) := by
  obtain ⟨hreference, hkind⟩ := hencloses
  rw [ownMarkup, hreference, hkind]
  rfl

mutual

/-- The markup of a tree at a position of a chain. Branches that are empty are left out. -/
def markup (options : Options) : Tree → Option Guard → Except Failure Value
  | .node label children chain, guard =>
    let own := ownMarkup options label (markups options children)
    if chain.isEmpty then own guard
    else if label.chainDone then if guard.isNone then .ok (.str "") else own guard
    else do
      let pieces ← branchMarkups options own chain
      return .str (← Markup.join (pieces.filter Value.truthy))

def markups (options : Options) : List Tree → Except Failure (List Value)
  | [] => .ok []
  | child :: children => do
    let piece ← markup options child none
    return piece :: (← markups options children)

/-- What the entries of a chain give; one without a block gives what its lead gives itself. -/
def branchMarkups (options : Options) (own : Option Guard → Except Failure Value) :
    List (Branch Tree) → Except Failure (List Value)
  | [] => .ok []
  | ⟨guard, _, none⟩ :: branches => do
    let piece ← own (some guard)
    return piece :: (← branchMarkups options own branches)
  | ⟨guard, _, some block⟩ :: branches => do
    let piece ← markup options block (some guard)
    return piece :: (← branchMarkups options own branches)

end

/-- The root of a tree itself, whatever chain it leads. -/
def own (options : Options) (t : Tree) : Option Guard → Except Failure Value :=
  ownMarkup options t.label (markups options t.children)

/-- What one entry of a chain gives, in terms of what its lead gives. -/
def branchMarkup (options : Options) (lead : Option Guard → Except Failure Value)
    (branch : Branch Tree) : Except Failure Value :=
  match branch.block with
  | none => lead (some branch.guard)
  | some block => block.markup options (some branch.guard)

theorem markups_eq_mapM (options : Options) (children : List Tree) :
    markups options children = children.mapM fun child => child.markup options none := by
  induction children with
  | nil => rfl
  | cons child children ih => rw [markups, ih, List.mapM_cons]

theorem branchMarkups_eq_mapM (options : Options) (lead : Option Guard → Except Failure Value)
    (branches : List (Branch Tree)) :
    branchMarkups options lead branches = branches.mapM (branchMarkup options lead) := by
  induction branches with
  | nil => rfl
  | cons branch branches ih =>
      obtain ⟨guard, test, block⟩ := branch
      cases block with
      | none => rw [branchMarkups, ih, List.mapM_cons, branchMarkup]
      | some block => rw [branchMarkups, ih, List.mapM_cons, branchMarkup]

theorem markup_of_no_chain {t : Tree} (hchain : t.chain.isEmpty = true) (options : Options)
    (guard : Option Guard) : t.markup options guard = t.own options guard := by
  obtain ⟨label, children, chain⟩ := t
  rw [markup.eq_1]
  exact if_pos hchain

theorem markup_of_done {t : Tree} (hchain : t.chain.isEmpty = false)
    (hdone : t.label.chainDone = true) (options : Options) (guard : Option Guard) :
    t.markup options guard = if guard.isNone then .ok (.str "") else t.own options guard := by
  obtain ⟨label, children, chain⟩ := t
  rw [markup.eq_1]
  change chain.isEmpty = false at hchain
  change label.chainDone = true at hdone
  simp only [hchain, hdone, Bool.false_eq_true, if_false, if_true]
  rfl

theorem markup_of_chain {t : Tree} (hchain : t.chain.isEmpty = false)
    (hdone : t.label.chainDone = false) (options : Options) (guard : Option Guard) :
    t.markup options guard = do
      let pieces ← t.chain.mapM (branchMarkup options (t.own options))
      return .str (← Markup.join (pieces.filter Value.truthy)) := by
  obtain ⟨label, children, chain⟩ := t
  rw [markup.eq_1]
  change chain.isEmpty = false at hchain
  change label.chainDone = false at hdone
  simp only [hchain, hdone, Bool.false_eq_true, if_false]
  rw [branchMarkups_eq_mapM]
  rfl

/-- The document of a tree, or why there is none. -/
def document (options : Options) (t : Tree) : Except Failure String := do
  let inner ← t.markup options none
  return Markup.importsOf options ++ envelopeStart options.name ++ inner.text ++ envelopeEnd

end Tree

end MiniTemplate

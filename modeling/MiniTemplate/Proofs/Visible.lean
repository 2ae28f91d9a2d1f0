import MiniTemplate.Proofs.LabelFaults
import MiniTemplate.Proofs.Refinement
/-!
# What of a template is visible

The expressions of a template stay where they are: what is written instead looks them up by the handle
of the node. So are the statements of its listeners, and a component is only referred to. Here all of
this is blanked (`Node.visible`, `Options.visible`), and a visit to a blanked node makes the same move
as one to the node itself (`move_visible`). Runs are made of moves, so two templates that are the same
once they are blanked cannot be told apart by anything that is generated from them, a diagnostic
document included.
-/

namespace MiniTemplate

/-! ### Blanking -/

/-- The value of such an attribute is an expression or a statement. -/
def Attribute.IsDynamic (attr : Attribute) : Prop :=
  ∃ start ∈ ["v-on:", "@", ":", "v-bind:"], start.toList <+: attr.name.toList

instance (attr : Attribute) : Decidable attr.IsDynamic :=
  inferInstanceAs (Decidable (∃ _ ∈ _, _))

def Attribute.visible (attr : Attribute) : Attribute :=
  if attr.IsDynamic then { attr with value := "" } else attr

def Listener.visible (listener : Listener) : Listener where
  event := listener.event
  modifiers := { stop := listener.modifiers.stop, capture := listener.modifiers.capture }

def Loop.visible (loop : Loop) : Loop where
  index := loop.index
  key := loop.key

/-- A label without expressions. Only a static text is written as it stands. -/
def Label.plain (label : Label) : Label :=
  { label with
    attributes := label.attributes.map Attribute.visible
    listeners := label.listeners.map fun listeners => listeners.map Listener.visible
    loop := label.loop.map Loop.visible
    text := if label.kind = .text ∧ label.static = true then label.text else .str ""
    static := label.kind == .text && label.static }

/-- What shows of a label: of a reference to a component hardly anything. -/
def Label.visible (options : Options) (label : Label) : Label :=
  match Tree.isReference options label with
  | .ok true =>
    { kind := label.kind, tag := label.tag, chainDone := label.chainDone, component := label.component }
  | _ => label.plain

/-- What shows of a node. Neither texts nor components have children of their own. -/
def Node.visible {ι : Type} (options : Options) (node : Node ι) : Node ι where
  label := node.label.visible options
  children := Tree.enclosed options node
  chain := node.chain.map fun condition => { condition with test := .null }

def Graph.visible {ι : Type} (options : Options) (graph : Graph ι) : Graph ι :=
  fun i => (graph i).visible options

def Options.visible (options : Options) : Options :=
  { options with slots := [] }

/-! ### Markup reads what is visible -/

namespace Markup

/-- A dynamic attribute is left out or looked up. -/
theorem attributeMarkup_of_isDynamic {attr : Attribute} (hdynamic : attr.IsDynamic) (label : Label)
    (value : String) :
    attributeMarkup label { attr with value } = attributeMarkup label attr := by
  have hname : isListenerName attr.name = true ∨ (boundName? attr.name).isSome = true := by
    rw [isSome_boundName?, SaysBound, isListenerName, Bool.or_eq_true, Text.isSome_dropStart?,
      Text.isSome_dropStart?]
    obtain ⟨start, hmem, hstart⟩ := hdynamic
    simp only [List.mem_cons, List.not_mem_nil, or_false] at hmem
    rcases hmem with rfl | rfl | rfl | rfl
    · exact .inl (.inl hstart)
    · exact .inl (.inr hstart)
    · exact .inr (.inl hstart)
    · exact .inr (.inr hstart)
  simp only [attributeMarkup]
  rcases hname with hlistener | hbound
  · rw [hlistener]
    rfl
  · obtain ⟨name, hname⟩ := Option.isSome_iff_exists.mp hbound
    rw [hname]

theorem attributeMarkup_visible (label : Label) (attr : Attribute) :
    attributeMarkup label.plain attr.visible = attributeMarkup label attr := by
  have hhandle : handleOf label.plain = handleOf label := rfl
  have hplain : attributeMarkup label.plain attr.visible = attributeMarkup label attr.visible := by
    rw [attributeMarkup, attributeMarkup, hhandle]
  rw [hplain, Attribute.visible]
  split
  · rename_i hdynamic
    exact attributeMarkup_of_isDynamic hdynamic label ""
  · rfl

theorem plainAttributes_plain (label : Label) : plainAttributes label.plain = plainAttributes label := by
  have hattributes : label.plain.attributes = label.attributes.map Attribute.visible := rfl
  have hmarkup : attributeMarkup label.plain ∘ Attribute.visible = attributeMarkup label :=
    funext (attributeMarkup_visible label)
  rw [plainAttributes, plainAttributes, hattributes, List.mapM_map, hmarkup]

theorem loopAttributes_plain (label : Label) : loopAttributes label.plain = loopAttributes label := by
  have hloop : label.plain.loop = label.loop.map Loop.visible := rfl
  rw [loopAttributes, loopAttributes, hloop]
  cases label.loop <;> rfl

theorem listenerAttributes_plain (label : Label) :
    listenerAttributes label.plain = listenerAttributes label := by
  have hlisteners : label.plain.listeners.getD [] = (label.listeners.getD []).map Listener.visible := by
    change (label.listeners.map _).getD [] = _
    cases label.listeners <;> rfl
  have hmarkup : ∀ (tag : Value) (listeners : List Listener),
      (listeners.map Listener.visible).mapM (listenerAttribute tag) =
        listeners.mapM (listenerAttribute tag) := by
    intro tag listeners
    rw [List.mapM_map]
    rfl
  rw [listenerAttributes, listenerAttributes, hlisteners]
  cases label.listeners.getD [] with
  | nil => rfl
  | cons listener listeners =>
      change ((_ :: _ : List Listener).mapM _ >>= _) = _
      rw [← List.map_cons, hmarkup]
      rfl

theorem startTag_plain (options : Options) (label : Label) (guard : Option Guard) :
    startTag options.visible label.plain guard = startTag options label guard := by
  have hguard : guardAttribute label.plain guard = guardAttribute label guard := by
    rcases guard with _ | _ | _ | _ <;> rfl
  rw [startTag, startTag, hguard, loopAttributes_plain, plainAttributes_plain,
    listenerAttributes_plain]
  rfl

theorem textOf_plain {label : Label} (hkind : label.kind = .text) :
    textOf label.plain = textOf label := by
  rw [textOf, textOf, Label.plain]
  dsimp only
  rw [hkind]
  cases label.static <;> rfl

end Markup

/-! ### Nodes move as their blanked copies do -/

namespace Tree

theorem isReference_visible (options : Options) (label : Label) :
    isReference options.visible (label.visible options) = isReference options label := by
  rw [Label.visible]
  split <;> rfl

theorem visible_of_encloses {options : Options} {label : Label} (hencloses : Encloses options label) :
    label.visible options = label.plain := by
  rw [Label.visible, hencloses.1]

theorem encloses_visible_iff (options : Options) (label : Label) :
    Encloses options.visible (label.visible options) ↔ Encloses options label := by
  have hkind : (label.visible options).kind = label.kind := by
    rw [Label.visible]
    split <;> rfl
  rw [Encloses, Encloses, isReference_visible, hkind]

/-- A node with nothing between its tags has the same markup once it is blanked. -/
theorem ownMarkup_visible {options : Options} {label : Label} (hencloses : ¬ Encloses options label)
    (children : Except Failure (List Value)) (guard : Option Guard) :
    ownMarkup options.visible (label.visible options) children guard =
      ownMarkup options label children guard := by
  rw [ownMarkup, ownMarkup, isReference_visible, Label.visible]
  cases hreference : isReference options label with
  | error failure => rfl
  | ok component =>
      cases component with
      | true => rfl
      | false =>
          cases hkind : label.kind with
          | element => exact absurd ⟨hreference, hkind⟩ hencloses
          | text =>
              have hplain : label.plain.kind = .text := hkind
              simp only [bind, Except.bind, Bool.false_eq_true, if_false, hplain]
              exact Markup.textOf_plain hkind

end Tree

namespace Generation

open MiniTemplate.Tree

variable {ι : Type}

theorem isComponent_visible (options : Options) (label : Label) (pass : Pass ι) :
    isComponent options.visible (label.visible options) pass = isComponent options label pass := by
  rw [Label.visible]
  split <;> rfl

theorem ownMove_visible (options : Options) (node : Node ι) (guard : Option Guard) (pass : Pass ι) :
    ownMove options.visible (node.visible options) guard pass = ownMove options node guard pass := by
  have hcomponent : isComponent options.visible (node.visible options).label pass =
      isComponent options node.label pass := isComponent_visible options node.label pass
  by_cases hencloses : Encloses options node.label
  · have hvisible : Encloses options.visible (node.visible options).label :=
      (encloses_visible_iff options node.label).mpr hencloses
    have hstart : Markup.startTag options.visible (node.visible options).label guard =
        Markup.startTag options node.label guard := by
      rw [Node.visible, visible_of_encloses hencloses]
      exact Markup.startTag_plain options node.label guard
    have hchildren : childLinks (node.visible options) = childLinks node := by
      rw [childLinks, Node.visible, enclosed_of_encloses hencloses]
      rfl
    rw [ownMove_of_encloses hencloses, ownMove_of_encloses hvisible, hstart, hchildren, hcomponent]
  · have hvisible : ¬ Encloses options.visible (node.visible options).label :=
      mt (encloses_visible_iff options node.label).mp hencloses
    have hmarkup : ownMarkup options.visible (node.visible options).label (.ok []) guard =
        ownMarkup options node.label (.ok []) guard := ownMarkup_visible hencloses (.ok []) guard
    rw [ownMove_of_not_encloses hencloses (.ok []) guard,
      ownMove_of_not_encloses hvisible (.ok []) guard, hcomponent, hmarkup]

theorem chainLinks_visible (options : Options) (node : Node ι) :
    chainLinks (node.visible options) = chainLinks node := by
  rw [chainLinks, Node.visible, List.map_map]
  rfl

theorem opens_visible_iff (graph : Graph ι) (options : Options) (pass : Pass ι) (i : ι) :
    Opens (graph.visible options) pass i ↔ Opens graph pass i := by
  have hdone : (graph.visible options i).label.chainDone = (graph i).label.chainDone := by
    change ((graph i).label.visible options).chainDone = _
    rw [Label.visible]
    split <;> rfl
  have hchain : (graph.visible options i).chain.isEmpty = (graph i).chain.isEmpty :=
    List.isEmpty_map
  rw [Opens, Opens, hdone, hchain]

variable [DecidableEq ι]

/-- What a visit does is decided by what is visible. -/
theorem move_visible (graph : Graph ι) (options : Options) (i : ι) (guard : Option Guard)
    (pass : Pass ι) :
    move (graph.visible options) options.visible i guard pass = move graph options i guard pass := by
  have hchain : (graph.visible options i).chain.isEmpty = (graph i).chain.isEmpty :=
    List.isEmpty_map
  have hlinks : chainLinks (graph.visible options i) = chainLinks (graph i) :=
    chainLinks_visible options (graph i)
  have hown : ownMove options.visible (graph.visible options i) guard pass =
      ownMove options (graph i) guard pass := ownMove_visible options (graph i) guard pass
  simp only [move, opens_visible_iff, hchain, hlinks, hown]

theorem visit_visible (graph : Graph ι) (options : Options) (depth : Nat) :
    visit (graph.visible options) options.visible depth = visit graph options depth := by
  induction depth with
  | zero => rfl
  | succ depth ih =>
      funext i guard pass
      rw [visit_succ, visit_succ, move_visible, ih]

end Generation

variable {ι : Type} [DecidableEq ι]

theorem generate_visible (graph : Graph ι) (options : Options) (depth : Nat) (root : ι) :
    generate (graph.visible options) options.visible depth root = generate graph options depth root := by
  have hdocument : Generation.document (graph.visible options) options.visible depth root =
      Generation.document graph options depth root := by
    rw [Generation.document, Generation.document, Generation.visit_visible]
    rfl
  rw [generate, generate, hdocument]
  rfl

/-- **Expressions never reach the output**: templates that differ only in what is not visible have the
same document, fail or not alike, and leave the same pass. Nodes may be shared, and links may run in
circles. -/
theorem hidden_fields_never_show {graph other : Graph ι} {options others : Options}
    (hoptions : options.visible = others.visible)
    (hgraph : ∀ i, (graph i).visible options = (other i).visible others) (depth : Nat) (root : ι) :
    generate graph options depth root = generate other others depth root := by
  have hvisible : graph.visible options = other.visible others := funext hgraph
  calc generate graph options depth root
      = generate (graph.visible options) options.visible depth root :=
        (generate_visible graph options depth root).symm
    _ = generate (other.visible others) others.visible depth root := by rw [hvisible, hoptions]
    _ = generate other others depth root := generate_visible other others depth root

/-- A lead that is its own child, and a text that links to the lead, with the given expression for
everything that is not visible. -/
def scripted (expression : String) : Graph Bool
  | false =>
    { label :=
        { tag := .str "p", handle := .int 1, text := .str expression, static := expression.isEmpty
          attributes := [⟨":id", expression⟩, ⟨"@tap", expression⟩, ⟨"lang", "en"⟩]
          listeners := some [⟨"click", { stop := true, once := expression.isEmpty }, .str expression⟩]
          loop := some { source := .str expression, item := .str expression, key := .str "item.id" } }
      children := [false, true]
      chain := [⟨.ifTrue, false, .str expression⟩] }
  | true =>
    { label := { kind := .text, text := .str expression, handle := .int 2 }
      children := if expression.isEmpty then [] else [false] }

theorem hidden_fields_never_show_scripted :
    (∀ i, (scripted "").visible { slots := ["a"] } i = (scripted "go()").visible {} i)
      ∧ (generate (scripted "") { slots := ["a"] } 4 false).failed = false
      ∧ generate (scripted "") { slots := ["a"] } 4 false = generate (scripted "go()") {} 4 false := by
  have hgraph : ∀ i, (scripted "").visible { slots := ["a"] } i = (scripted "go()").visible {} i := by
    intro i
    cases i <;> rfl
  exact ⟨hgraph, by rfl, hidden_fields_never_show rfl hgraph 4 false⟩

end MiniTemplate

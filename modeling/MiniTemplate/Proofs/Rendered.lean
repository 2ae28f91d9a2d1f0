import MiniTemplate.Proofs.Stateless
import MiniTemplate.Proofs.TagReader
import MiniTemplate.Proofs.TreeGraph
/-!
# The forest of a tree

What a tree is rendered to, before it is spelled: for each node the element, the component or the text
that it becomes, with its attributes in order. Nothing fails here; a node that cannot be rendered gets
some item that never comes to be written.

The markup of a node is the spelling of its item. For an element this is seen piece by piece, each piece
of the start tag being compared with the attributes that it stands for (`spell_startTag`).
-/

namespace MiniTemplate

open Forest

namespace Markup

/-! ### Attributes in order -/

def loopKeyText (loop : Loop) : String :=
  keyName (loop.key.orElse (.str "")).text

def loopAttrs (label : Label) : List Attr :=
  match label.loop with
  | none => []
  | some loop =>
    ⟨"wx:for", lookup label.handle "li"⟩
      :: ((if loop.index.truthy then [⟨"wx:for-index", loop.index.text⟩] else [])
        ++ if loopKeyText loop = "" then [] else [⟨"wx:key", loopKeyText loop⟩])

def guardAttrs (label : Label) : Option Guard → List Attr
  | none => []
  | some .ifTrue => [⟨"wx:if", lookup label.handle "_if"⟩]
  | some .elseIf => [⟨"wx:elif", lookup label.handle "_if"⟩]
  | some .otherwise => [⟨"wx:else", none⟩]

/-- The parts of a class or a style: what is always there, and what is bound. -/
def parts (label : Label) (static : String) (bound : Bool) (field : String) : List String :=
  (if static = "" then [] else [static]) ++ if bound then [lookup label.handle field] else []

def classText (label : Label) : String :=
  String.ofList ((label.staticClass.orElse (.str "")).text.toList.filter (· != '\x22'))

def classAttr (label : Label) : Attr :=
  ⟨"class", String.intercalate " " (("_" ++ label.tag.text)
    :: parts label (classText label) label.classBound "cl")⟩

def styleText (label : Label) : String :=
  declarations (stripStyle (label.staticStyle.orElse (.str "")).text)

def styleAttrs (label : Label) : List Attr :=
  match parts label (styleText label) label.styleBound "st" with
  | [] => []
  | styles => [⟨"style", String.intercalate " " styles⟩]

/-- The attribute that a plain or bound one becomes, none for a listener. -/
def plainAttr (label : Label) (attr : Attribute) : Option Attr :=
  if isListenerName attr.name then none
  else match boundName? attr.name with
    | some name =>
      some ⟨name, "\x7b\x7b _h[ " ++ label.handle.text ++ " ][ '" ++ name ++ "' ] \x7d\x7d"⟩
    | none => some ⟨attr.name, attr.value⟩

/-- Whether a tag is that of a text field, which reports a change when it loses the focus. -/
def reportsOnBlur : Value → Bool
  | .str tag => tag == "input" || tag == "textarea"
  | _ => false

/-- The name of an event on the platform, for an element of the given tag. -/
def eventName (event : String) (tag : Value) : String :=
  if event = "change" then if reportsOnBlur tag then "blur" else "change"
  else if event = "click" then "tap"
  else event

def listenerAttr (label : Label) (listener : Listener) : Attr :=
  ⟨binder listener.modifiers ++ eventName listener.event label.tag, "proxyEvent"⟩

def listenerAttrs (label : Label) : List Attr :=
  match label.listeners.getD [] with
  | [] => []
  | listeners =>
    ⟨"data-cid", "\x7b\x7b cid \x7d\x7d"⟩
      :: ⟨"data-hid", "\x7b\x7b " ++ label.handle.text ++ " \x7d\x7d"⟩
      :: listeners.map (listenerAttr label)

/-- All attributes of an element in the order in which they are written. -/
def attrs (label : Label) (guard : Option Guard) : List Attr :=
  loopAttrs label ++ guardAttrs label guard ++ classAttr label
    :: (styleAttrs label ++ label.attributes.filterMap (plainAttr label) ++ listenerAttrs label)

/-- The tag of the target. -/
def targetTag (options : Options) (label : Label) : String :=
  (TagMap.resolve options.tagMap label.tag.text).text

/-! ### Items -/

/-- The import that a node refers to, if it is rendered as a component. -/
def referred? (options : Options) (label : Label) : Option Import :=
  match label.tag with
  | .str tag => if label.component.isNull then none else options.import? tag
  | _ => none

def componentItem (label : Label) (entry : Import) : Item :=
  .leaf "template"
    [⟨"is", label.tag.text ++ entry.hash⟩,
      ⟨"data", "\x7b\x7b...$root[ $kk + " ++ label.component.text
        ++ " ], $root, $defaultSlot: 'defaultSlot'\x7d\x7d"⟩]

/-- What a node becomes itself, with the given items between its tags. -/
def ownItem (options : Options) (label : Label) (children : List Item) (guard : Option Guard) : Item :=
  match referred? options label with
  | some entry => componentItem label entry
  | none =>
    match label.kind with
    | .text => .text (if label.static then label.text.text else lookup label.handle "t")
    | .element => .element (targetTag options label) (attrs label guard) children

def importItem (entry : Import) : Item :=
  .leaf "import" [⟨"src", entry.source.text⟩]

/-! ### The pieces of a start tag are spelled attributes -/

variable {label : Label}

theorem handleOf_eq_ok {handle : Value} (hrun : handleOf label = .ok handle) :
    handle = label.handle := by
  rw [handleOf] at hrun
  split at hrun
  · exact nomatch hrun
  · exact (Except.ok.inj hrun).symm

theorem lookupOf_eq_ok {field written : String} (hrun : lookupOf label field = .ok written) :
    written = lookup label.handle field := by
  obtain ⟨handle, hhandle, hrun⟩ := bind_eq_ok hrun
  rw [← handleOf_eq_ok hhandle]
  exact (Except.ok.inj hrun).symm

theorem boundPart_eq_ok {bound : Bool} {field : String} {written : List String}
    (hrun : boundPart label bound field = .ok written) :
    written = if bound then [lookup label.handle field] else [] := by
  cases bound with
  | false => exact (Except.ok.inj hrun).symm
  | true =>
      obtain ⟨text, htext, hrun⟩ := bind_eq_ok hrun
      rw [if_pos rfl, ← lookupOf_eq_ok htext]
      exact (Except.ok.inj hrun).symm

/-- What is made of a value that has to be text, is made of its text. -/
theorem eq_of_text_only {given : Value} {f : String → String} {refused : Value → Failure}
    {written : String}
    (hrun : (match given with
      | .str s => Except.ok (f s)
      | v => .error (refused v)) = .ok written) : written = f given.text := by
  cases given with
  | str s => exact (Except.ok.inj hrun).symm
  | _ => exact nomatch hrun

theorem loopKey_eq_ok {loop : Loop} {key : String} (hrun : loopKey loop = .ok key) :
    key = loopKeyText loop :=
  eq_of_text_only hrun

theorem spell_loopAttributes {written : String} (hrun : loopAttributes label = .ok written) :
    written.toList = (loopAttrs label).flatMap Attr.spell := by
  rw [loopAttributes] at hrun
  rw [loopAttrs]
  cases hloop : label.loop with
  | none =>
      rw [hloop] at hrun
      cases hrun
      rfl
  | some loop =>
      rw [hloop] at hrun
      obtain ⟨items, hitems, hrun⟩ := bind_eq_ok hrun
      obtain ⟨key, hkey, hrun⟩ := bind_eq_ok hrun
      cases hrun
      rw [lookupOf_eq_ok hitems, loopKey_eq_ok hkey]
      by_cases hindex : loop.index.truthy = true <;> by_cases hempty : loopKeyText loop = ""
      all_goals simp [Attr.spell, hindex, hempty]

theorem spell_guardAttribute {guard : Option Guard} {written : String}
    (hrun : guardAttribute label guard = .ok written) :
    written.toList = (guardAttrs label guard).flatMap Attr.spell := by
  match guard with
  | none =>
      cases hrun
      rfl
  | some .ifTrue =>
      obtain ⟨test, htest, hrun⟩ := bind_eq_ok hrun
      cases hrun
      rw [lookupOf_eq_ok htest]
      simp [guardAttrs, Attr.spell]
  | some .elseIf =>
      obtain ⟨test, htest, hrun⟩ := bind_eq_ok hrun
      cases hrun
      rw [lookupOf_eq_ok htest]
      simp [guardAttrs, Attr.spell]
  | some .otherwise =>
      cases hrun
      simp [guardAttrs, Attr.spell]

theorem staticClasses_eq_ok {static : String} (hrun : staticClasses label = .ok static) :
    static = classText label :=
  eq_of_text_only hrun

theorem spell_classAttribute {written : String} (hrun : classAttribute label = .ok written) :
    written.toList = (classAttr label).spell := by
  obtain ⟨static, hstatic, hrun⟩ := bind_eq_ok hrun
  obtain ⟨bound, hbound, hrun⟩ := bind_eq_ok hrun
  cases hrun
  rw [staticClasses_eq_ok hstatic, boundPart_eq_ok hbound]
  simp [classAttr, parts, Attr.spell, beq_iff_eq]

theorem staticStyles_eq_ok {static : String} (hrun : staticStyles label = .ok static) :
    static = styleText label :=
  eq_of_text_only hrun

theorem spell_styleAttribute {written : String} (hrun : styleAttribute label = .ok written) :
    written.toList = (styleAttrs label).flatMap Attr.spell := by
  obtain ⟨static, hstatic, hrun⟩ := bind_eq_ok hrun
  obtain ⟨bound, hbound, hrun⟩ := bind_eq_ok hrun
  have hparts : (if static == "" then [] else [static]) ++ bound =
      parts label (styleText label) label.styleBound "st" := by
    rw [staticStyles_eq_ok hstatic, boundPart_eq_ok hbound]
    simp [parts, beq_iff_eq]
  rw [hparts] at hrun
  rw [styleAttrs]
  cases hstyles : parts label (styleText label) label.styleBound "st" with
  | nil =>
      rw [hstyles] at hrun
      cases hrun
      rfl
  | cons style styles =>
      rw [hstyles] at hrun
      cases hrun
      simp [Attr.spell]

/-- Pieces with a blank before each of them. -/
def spaced (pieces : List String) : List Char :=
  pieces.flatMap fun piece => ' ' :: piece.toList

theorem spaced_eq_intercalate {pieces : List String} (hpieces : pieces ≠ []) :
    (" " ++ String.intercalate " " pieces).toList = spaced pieces := by
  induction pieces with
  | nil => exact absurd rfl hpieces
  | cons piece pieces ih =>
      cases pieces with
      | nil => simp [spaced]
      | cons next pieces =>
          have hrest := ih (by simp)
          rw [String.intercalate_cons_cons, spaced, List.flatMap_cons, ← spaced, ← hrest]
          simp

theorem attributeMarkup_eq_ok {attr : Attribute} {written : Option String}
    (hrun : attributeMarkup label attr = .ok written) :
    written.map (fun piece => ' ' :: piece.toList) = (plainAttr label attr).map Attr.spell := by
  rw [attributeMarkup] at hrun
  rw [plainAttr]
  split at hrun
  · rename_i hlistener
    cases hrun
    rw [if_pos hlistener]
    rfl
  · rename_i hlistener
    rw [if_neg hlistener]
    cases hbound : boundName? attr.name with
    | some name =>
        rw [hbound] at hrun
        obtain ⟨handle, hhandle, hrun⟩ := bind_eq_ok hrun
        cases hrun
        rw [handleOf_eq_ok hhandle]
        simp [Attr.spell]
    | none =>
        rw [hbound] at hrun
        cases hrun
        simp [Attr.spell]

theorem spaced_of_attributes {attributes : List Attribute} {written : List (Option String)}
    (hrun : attributes.mapM (attributeMarkup label) = .ok written) :
    spaced (written.filterMap id) =
      (attributes.filterMap (plainAttr label)).flatMap Attr.spell := by
  induction attributes generalizing written with
  | nil =>
      cases hrun
      rfl
  | cons attr attributes ih =>
      rw [List.mapM_cons] at hrun
      obtain ⟨first, hfirst, hrun⟩ := bind_eq_ok hrun
      obtain ⟨rest, hrest, hrun⟩ := bind_eq_ok hrun
      cases hrun
      have hspell := attributeMarkup_eq_ok hfirst
      cases hplain : plainAttr label attr with
      | none =>
          rw [hplain, Option.map_none, Option.map_eq_none_iff] at hspell
          rw [hspell, List.filterMap_cons_none hplain, ← ih hrest]
          rfl
      | some found =>
          rw [hplain, Option.map_some, Option.map_eq_some_iff] at hspell
          obtain ⟨piece, rfl, hpiece⟩ := hspell
          rw [List.filterMap_cons_some hplain, List.flatMap_cons, ← ih hrest, ← hpiece]
          rfl

theorem spell_plainAttributes {written : String} (hrun : plainAttributes label = .ok written) :
    written.toList = (label.attributes.filterMap (plainAttr label)).flatMap Attr.spell := by
  obtain ⟨found, hfound, hrun⟩ := bind_eq_ok hrun
  rw [← spaced_of_attributes hfound]
  cases hpieces : found.filterMap id with
  | nil =>
      rw [hpieces] at hrun
      cases hrun
      rfl
  | cons piece pieces =>
      rw [hpieces] at hrun
      cases hrun
      exact spaced_eq_intercalate (by simp)

theorem isTextField_eq_ok {tag : Value} {found : Bool}
    (hrun : isTextField (tag.orElse (.str "")) = .ok found) : found = reportsOnBlur tag := by
  rw [Value.orElse] at hrun
  split at hrun
  · cases tag with
    | list items => exact nomatch hrun
    | object fields => exact nomatch hrun
    | _ => exact (Except.ok.inj hrun).symm
  · rename_i hempty
    cases hrun
    cases tag with
    | str s =>
        have hs : s = "" := by simpa [Value.truthy] using hempty
        rw [hs]
        rfl
    | _ => rfl

theorem isTextField_of_not_container {tag : Value} (htag : tag.isContainer = false) :
    isTextField (tag.orElse (.str "")) = .ok (reportsOnBlur tag) := by
  have hfound : ∃ found, isTextField (tag.orElse (.str "")) = .ok found := by
    rw [Value.orElse]
    split
    · cases tag with
      | list items => exact nomatch htag
      | object fields => exact nomatch htag
      | _ => exact ⟨_, rfl⟩
    · exact ⟨_, rfl⟩
  obtain ⟨found, hfound⟩ := hfound
  rw [hfound, isTextField_eq_ok hfound]

theorem eventType_eq_ok {event written : String} {tag : Value}
    (hrun : eventType event (tag.orElse (.str "")) = .ok written) : written = eventName event tag := by
  rw [eventType] at hrun
  rw [eventName]
  by_cases hchange : event = "change"
  · rw [if_pos (beq_iff_eq.mpr hchange)] at hrun
    obtain ⟨found, hfound, hrun⟩ := bind_eq_ok hrun
    rw [if_pos hchange, ← isTextField_eq_ok hfound]
    exact (Except.ok.inj hrun).symm
  · rw [if_neg (by simpa using hchange)] at hrun
    cases hrun
    rw [if_neg hchange]
    by_cases hclick : event = "click" <;> simp [hclick]

theorem spaced_of_listeners {listeners : List Listener} {written : List String}
    (hrun : listeners.mapM (listenerAttribute (label.tag.orElse (.str ""))) = .ok written) :
    spaced written = (listeners.map (listenerAttr label)).flatMap Attr.spell := by
  induction listeners generalizing written with
  | nil =>
      cases hrun
      rfl
  | cons listener listeners ih =>
      rw [List.mapM_cons] at hrun
      obtain ⟨first, hfirst, hrun⟩ := bind_eq_ok hrun
      obtain ⟨rest, hrest, hrun⟩ := bind_eq_ok hrun
      cases hrun
      obtain ⟨event, hevent, hfirst⟩ := bind_eq_ok hfirst
      cases hfirst
      rw [spaced, List.flatMap_cons, ← spaced, ih hrest, List.map_cons, List.flatMap_cons,
        eventType_eq_ok hevent]
      simp [listenerAttr, Attr.spell]

theorem spell_listenerAttributes {written : String} (hrun : listenerAttributes label = .ok written) :
    written.toList = (listenerAttrs label).flatMap Attr.spell := by
  rw [listenerAttributes] at hrun
  rw [listenerAttrs]
  cases hlisteners : label.listeners.getD [] with
  | nil =>
      rw [hlisteners] at hrun
      cases hrun
      rfl
  | cons listener listeners =>
      rw [hlisteners] at hrun
      obtain ⟨found, hfound, hrun⟩ := bind_eq_ok hrun
      obtain ⟨handle, hhandle, hrun⟩ := bind_eq_ok hrun
      cases hrun
      have hpieces : found ≠ [] := by
        intro hnone
        rw [List.mapM_cons, hnone] at hfound
        obtain ⟨first, -, hfound⟩ := bind_eq_ok hfound
        obtain ⟨rest, -, hfound⟩ := bind_eq_ok hfound
        exact nomatch hfound
      have hspaced := spaced_eq_intercalate hpieces
      rw [spaced_of_listeners hfound] at hspaced
      rw [handleOf_eq_ok hhandle, List.flatMap_cons, List.flatMap_cons, ← hspaced]
      simp [Attr.spell]

/-! ### Nodes -/

theorem joinFrom_str (index : Nat) (texts : List String) :
    joinFrom index (texts.map Value.str) = .ok (String.join texts) := by
  induction texts generalizing index with
  | nil => rfl
  | cons text texts ih =>
      rw [List.map_cons, joinFrom, ih, String.join_cons]
      rfl

theorem join_str (texts : List String) : join (texts.map Value.str) = .ok (String.join texts) :=
  joinFrom_str 0 texts

/-- What is joined is all the texts, also if some of those that are empty were left out. -/
theorem eq_join_of_joinFrom {values : List Value} {keep : Value → Bool}
    (hkeep : ∀ value ∈ values, keep value = false → value.text = "") {index : Nat} {joined : String}
    (hjoin : joinFrom index (values.filter keep) = .ok joined) :
    joined = String.join (values.map Value.text) := by
  induction values generalizing index joined with
  | nil =>
      cases hjoin
      rfl
  | cons value values ih =>
      obtain ⟨hdrop, hothers⟩ := List.forall_mem_cons.mp hkeep
      rw [List.map_cons, String.join_cons]
      cases hvalue : keep value with
      | false =>
          rw [List.filter_cons_of_neg (by simp [hvalue])] at hjoin
          rw [hdrop hvalue, String.empty_append]
          exact ih hothers hjoin
      | true =>
          rw [List.filter_cons_of_pos hvalue] at hjoin
          cases value with
          | str written =>
              obtain ⟨later, hlater, hjoin⟩ := bind_eq_ok hjoin
              cases hjoin
              rw [ih hothers hlater]
              rfl
          | _ => cases hjoin

theorem eq_join_of_join {values : List Value} {joined : String} (hjoin : join values = .ok joined) :
    joined = String.join (values.map Value.text) := by
  have hall : values.filter (fun _ => true) = values := List.filter_eq_self.mpr fun _ _ => rfl
  rw [join, ← hall] at hjoin
  refine eq_join_of_joinFrom (fun value _ hfalse => ?_) hjoin
  cases hfalse

/-- Only a tag that is text can be written. -/
theorem resolveTag_eq_ok {options : Options} {tag : String} {given : Value}
    (hrun : resolveTag options given = .ok (.str tag)) :
    ∃ name, given = .str name ∧ TagMap.resolve options.tagMap name = .str tag := by
  cases given with
  | str name => exact ⟨name, rfl, Except.ok.inj hrun⟩
  | _ => exact nomatch hrun

theorem spell_startTag {options : Options} {guard : Option Guard} {start tag : String}
    (hrun : startTag options label guard = .ok (start, tag)) :
    start.toList = spellTag tag (attrs label guard) ++ ['>']
      ∧ ∃ name, label.tag = .str name ∧ TagMap.resolve options.tagMap name = .str tag := by
  rw [startTag] at hrun
  split at hrun
  · cases hrun
  · obtain ⟨-, -, hrun⟩ := bind_eq_ok hrun
    obtain ⟨resolved, hresolved, hrun⟩ := bind_eq_ok hrun
    obtain ⟨loop, hloop, hrun⟩ := bind_eq_ok hrun
    obtain ⟨guarded, hguarded, hrun⟩ := bind_eq_ok hrun
    obtain ⟨classes, hclasses, hrun⟩ := bind_eq_ok hrun
    obtain ⟨style, hstyle, hrun⟩ := bind_eq_ok hrun
    obtain ⟨attributes, hattributes, hrun⟩ := bind_eq_ok hrun
    obtain ⟨listeners, hlisteners, hrun⟩ := bind_eq_ok hrun
    obtain ⟨joined, hjoined, hrun⟩ := bind_eq_ok hrun
    cases hrun
    cases resolved with
    | str resolved =>
        refine ⟨?_, resolveTag_eq_ok hresolved⟩
        have htexts := join_str
          ["<", resolved, loop, guarded, classes, style, attributes, listeners, ">"]
        obtain rfl := Except.ok.inj (hjoined.symm.trans htexts)
        simp [spellTag, attrs, spell_loopAttributes hloop, spell_guardAttribute hguarded,
          spell_classAttribute hclasses, spell_styleAttribute hstyle,
          spell_plainAttributes hattributes, spell_listenerAttributes hlisteners, Value.text]
    | _ => cases hjoined

/-- An element is spelled with whatever its children spell between its tags. -/
theorem spell_enclosing {options : Options} {guard : Option Guard} {start tag inner : String}
    (hrun : startTag options label guard = .ok (start, tag)) {items : List Item}
    (hinner : inner.toList = spell items) :
    (start ++ inner ++ endTag tag).toList =
      spell [.element (targetTag options label) (attrs label guard) items] := by
  obtain ⟨hspell, name, hname, hresolve⟩ := spell_startTag hrun
  have htag : targetTag options label = tag := by
    rw [targetTag, hname, Value.text, hresolve]
    rfl
  rw [spell_element, htag, ← hinner]
  simp [hspell, endTag]

end Markup

namespace Tree

open Markup

mutual

/-- The items that a tree becomes at a position of a chain. -/
def forest (options : Options) : Tree → Option Guard → List Item
  | .node label children chain, guard =>
    let own := ownItem options label (forests options children)
    if chain.isEmpty then [own guard]
    else if label.chainDone then if guard.isNone then [] else [own guard]
    else branchForests options own chain

def forests (options : Options) : List Tree → List Item
  | [] => []
  | child :: children => forest options child none ++ forests options children

/-- An entry without a block becomes what its lead becomes itself. -/
def branchForests (options : Options) (own : Option Guard → Item) : List (Branch Tree) → List Item
  | [] => []
  | ⟨guard, _, none⟩ :: branches => own (some guard) :: branchForests options own branches
  | ⟨guard, _, some block⟩ :: branches =>
    forest options block (some guard) ++ branchForests options own branches

end

/-! ### Components -/

theorem isReference_eq_ok {options : Options} {label : Label} {found : Bool}
    (hrun : isReference options label = .ok found) : found = (referred? options label).isSome := by
  rw [isReference] at hrun
  rw [referred?]
  split at hrun
  · rename_i hnull
    cases hrun
    cases label.tag with
    | str tag => simp only [hnull, if_true, Option.isSome_none]
    | _ => rfl
  · rename_i hset
    cases htag : label.tag with
    | str tag =>
        rw [htag] at hrun
        simp only [hset]
        exact (Except.ok.inj hrun).symm
    | list items =>
        rw [htag] at hrun
        exact nomatch hrun
    | object fields =>
        rw [htag] at hrun
        exact nomatch hrun
    | _ =>
        rw [htag] at hrun
        exact (Except.ok.inj hrun).symm

theorem exists_of_referred {options : Options} {label : Label} {entry : Import}
    (hentry : referred? options label = some entry) :
    ∃ tag, label.tag = .str tag ∧ options.import? tag = some entry := by
  rw [referred?] at hentry
  cases htag : label.tag with
  | str tag =>
      rw [htag] at hentry
      change (if label.component.isNull = true then none else options.import? tag) = some entry
        at hentry
      split at hentry
      · exact nomatch hentry
      · exact ⟨tag, rfl, hentry⟩
  | _ =>
      rw [htag] at hentry
      exact nomatch hentry

theorem spell_componentOf {options : Options} {label : Label} {entry : Import} {written : String}
    (hentry : referred? options label = some entry)
    (hrun : componentOf options label = .ok written) :
    written.toList = spell [componentItem label entry] := by
  obtain ⟨tag, htag, himport⟩ := exists_of_referred hentry
  obtain ⟨found, hfound, hrun⟩ := bind_eq_ok hrun
  have hsome : found = some entry := by
    rw [htag] at hfound
    exact (Except.ok.inj hfound).symm.trans himport
  rw [hsome] at hrun
  cases hrun
  simp [componentItem, spell, tokens, Item.tokens, Token.spell, spellTag, Attr.spell]

/-! ### The markup of a tree spells its forest -/

/-- A text that is written as it is, is text. -/
def WritesText (t : Tree) : Prop :=
  t.label.kind = .text → t.label.static = true → ∃ content, t.label.text = .str content

/-- The root of a tree yields fit items: whenever it can be rendered itself, its item is fit, given that
those between its tags are. -/
structure Yields (options : Options) (fit : Item → Prop) (t : Tree) : Prop where
  text : t.WritesText
  item : ∀ {guard : Option Guard} {items : List Item} {children : Except Failure (List Value)}
    {value : Value}, (∀ values, children = .ok values → ∀ item ∈ items, fit item) →
    ownMarkup options t.label children guard = .ok value → fit (ownItem options t.label items guard)

/-- A piece of markup that spells a forest of fit items. -/
def Spells (fit : Item → Prop) (value : Value) (items : List Item) : Prop :=
  (∀ item ∈ items, fit item) ∧ ∃ written : String, value = .str written ∧ written.toList = spell items

/-- Several pieces of markup that spell a forest of fit items one after the other. -/
def SpellAll (fit : Item → Prop) (values : List Value) (items : List Item) : Prop :=
  (∀ item ∈ items, fit item) ∧ ∃ texts : List String, values = texts.map Value.str
    ∧ texts.flatMap String.toList = spell items

variable {fit : Item → Prop}

theorem SpellAll.nil : SpellAll fit [] [] :=
  ⟨fun _ hmem => absurd hmem List.not_mem_nil, [], rfl, rfl⟩

theorem SpellAll.cons {value : Value} {values : List Value} {first rest : List Item}
    (hfirst : Spells fit value first) (hrest : SpellAll fit values rest) :
    SpellAll fit (value :: values) (first ++ rest) := by
  obtain ⟨hfit, written, rfl, hwritten⟩ := hfirst
  obtain ⟨hmore, texts, rfl, htexts⟩ := hrest
  refine ⟨?_, written :: texts, rfl, ?_⟩
  · intro item hmem
    exact (List.mem_append.mp hmem).elim (hfit item) (hmore item)
  · rw [List.flatMap_cons, hwritten, htexts, spell_append]

theorem SpellAll.join {values : List Value} {items : List Item} (hall : SpellAll fit values items)
    {joined : String} (hjoin : Markup.join values = .ok joined) : joined.toList = spell items := by
  obtain ⟨-, texts, rfl, htexts⟩ := hall
  rw [join_str] at hjoin
  rw [← Except.ok.inj hjoin, String.toList_join, htexts]

/-- Leaving out what is empty does not change what is spelled. -/
theorem SpellAll.filter {values : List Value} {items : List Item} (hall : SpellAll fit values items) :
    SpellAll fit (values.filter Value.truthy) items := by
  obtain ⟨hfit, texts, rfl, htexts⟩ := hall
  refine ⟨hfit, texts.filter (· != ""), ?_, ?_⟩
  · rw [List.filter_map]
    rfl
  · rw [← htexts]
    clear htexts
    induction texts with
    | nil => rfl
    | cons text texts ih =>
        by_cases hempty : text = ""
        · rw [List.filter_cons_of_neg (by simp [hempty]), ih, hempty]
          rfl
        · rw [List.filter_cons_of_pos (by simp [hempty]), List.flatMap_cons, ih, List.flatMap_cons]

theorem spell_textOf {t : Tree} (htext : t.WritesText) (hkind : t.label.kind = .text) {value : Value}
    (hrun : textOf t.label = .ok value) :
    ∃ written : String, value = .str written
      ∧ written = if t.label.static then t.label.text.text else lookup t.label.handle "t" := by
  rw [textOf] at hrun
  split at hrun
  · rename_i hstatic
    obtain ⟨content, hcontent⟩ := htext hkind hstatic
    cases hrun
    refine ⟨content, ?_, ?_⟩
    · rw [hcontent, Value.orElse]
      by_cases hempty : content = "" <;> simp [Value.truthy, hempty]
    · rw [if_pos hstatic, hcontent]
      rfl
  · rename_i hstatic
    obtain ⟨written, hwritten, hrun⟩ := bind_eq_ok hrun
    cases hrun
    refine ⟨written, rfl, ?_⟩
    rw [if_neg hstatic, lookupOf_eq_ok hwritten]

/-- What is written of a node itself: a component, a text, or an element around its children. -/
theorem ownMarkup_eq_ok {options : Options} {label : Label} {children : Except Failure (List Value)}
    {guard : Option Guard} {value : Value}
    (hrun : ownMarkup options label children guard = .ok value) :
    (∃ entry written, referred? options label = some entry ∧ componentOf options label = .ok written
      ∧ value = .str written)
    ∨ (referred? options label = none ∧ label.kind = .text ∧ textOf label = .ok value)
    ∨ (referred? options label = none ∧ label.kind = .element
      ∧ ∃ start tag values inner, startTag options label guard = .ok (start, tag)
        ∧ children = .ok values ∧ join values = .ok inner
        ∧ value = .str (start ++ inner ++ endTag tag)) := by
  obtain ⟨reference, hreference, hrun⟩ := bind_eq_ok hrun
  have hreferred := isReference_eq_ok hreference
  cases hentry : referred? options label with
  | some entry =>
      rw [hreferred, hentry] at hrun
      obtain ⟨written, hwritten, hrun⟩ := bind_eq_ok hrun
      cases hrun
      exact .inl ⟨entry, written, rfl, hwritten, rfl⟩
  | none =>
      rw [hreferred, hentry] at hrun
      cases hkind : label.kind with
      | text =>
          rw [hkind] at hrun
          exact .inr (.inl ⟨rfl, rfl, hrun⟩)
      | element =>
          rw [hkind] at hrun
          obtain ⟨⟨start, tag⟩, hstart, hrun⟩ := bind_eq_ok hrun
          obtain ⟨values, hvalues, hrun⟩ := bind_eq_ok hrun
          obtain ⟨inner, hinner, hrun⟩ := bind_eq_ok hrun
          cases hrun
          exact .inr (.inr ⟨rfl, rfl, start, tag, values, inner, hstart, hvalues, hinner, rfl⟩)

theorem spells_own {options : Options} {t : Tree} {guard : Option Guard}
    {children : Except Failure (List Value)} {items : List Item} {value : Value}
    (hyields : t.Yields options fit)
    (hchildren : ∀ values, children = .ok values → SpellAll fit values items)
    (hrun : ownMarkup options t.label children guard = .ok value) :
    Spells fit value [ownItem options t.label items guard] := by
  refine ⟨?_, ?_⟩
  · intro item hmem
    rw [List.mem_singleton.mp hmem]
    exact hyields.item (fun values hvalues => (hchildren values hvalues).1) hrun
  · rw [ownItem]
    rcases ownMarkup_eq_ok hrun with ⟨entry, written, hentry, hwritten, hvalue⟩ |
      ⟨hentry, hkind, htextOf⟩ |
      ⟨hentry, hkind, start, tag, values, inner, hstart, hvalues, hinner, hvalue⟩
    · rw [hentry]
      exact ⟨written, hvalue, spell_componentOf hentry hwritten⟩
    · obtain ⟨written, hvalue, hwritten⟩ := spell_textOf hyields.text hkind htextOf
      rw [hentry, hkind, ← hwritten]
      exact ⟨written, hvalue, by simp [spell, tokens, Item.tokens, Token.spell]⟩
    · rw [hentry, hkind]
      exact ⟨_, hvalue, spell_enclosing hstart ((hchildren values hvalues).join hinner)⟩

mutual

/-- **The markup of a tree spells its forest.** -/
theorem spells_markup {options : Options} (t : Tree) (hnodes : t.Everywhere (Yields options fit))
    {guard : Option Guard} {value : Value} (hrun : t.markup options guard = .ok value) :
    Spells fit value (t.forest options guard) := by
  obtain ⟨label, children, chain⟩ := t
  obtain ⟨hroot, hchildren, hblocks⟩ := everywhere_node_iff.mp hnodes
  have hown : ∀ {guard value}, ownMarkup options label (markups options children) guard = .ok value →
      Spells fit value [ownItem options label (forests options children) guard] :=
    fun hrun =>
      spells_own hroot (fun values hvalues => spellAll_markups children hchildren hvalues) hrun
  rw [markup] at hrun
  rw [forest]
  cases hchain : chain.isEmpty with
  | true =>
      simp only [hchain, if_true] at hrun ⊢
      exact hown hrun
  | false =>
      cases hdone : label.chainDone with
      | true =>
          simp only [hchain, hdone, Bool.false_eq_true, if_false, if_true] at hrun ⊢
          cases guard with
          | none =>
              cases hrun
              exact ⟨fun _ hmem => absurd hmem List.not_mem_nil, "", rfl, rfl⟩
          | some guard => exact hown hrun
      | false =>
          simp only [hchain, hdone, Bool.false_eq_true, if_false] at hrun ⊢
          obtain ⟨pieces, hpieces, hrun⟩ := bind_eq_ok hrun
          obtain ⟨joined, hjoined, hrun⟩ := bind_eq_ok hrun
          cases hrun
          have hall := spellAll_branchMarkups hown chain hblocks hpieces
          exact ⟨hall.1, joined, rfl, hall.filter.join hjoined⟩

theorem spellAll_markups {options : Options} (children : List Tree)
    (hnodes : ∀ child ∈ children, child.Everywhere (Yields options fit)) {values : List Value}
    (hrun : markups options children = .ok values) :
    SpellAll fit values (forests options children) := by
  cases children with
  | nil =>
      cases hrun
      exact .nil
  | cons child children =>
      rw [markups] at hrun
      obtain ⟨first, hfirst, hrun⟩ := bind_eq_ok hrun
      obtain ⟨rest, hrest, hrun⟩ := bind_eq_ok hrun
      cases hrun
      obtain ⟨hchild, hchildren⟩ := List.forall_mem_cons.mp hnodes
      rw [forests]
      exact .cons (spells_markup child hchild hfirst) (spellAll_markups children hchildren hrest)

theorem spellAll_branchMarkups {options : Options} {own : Option Guard → Except Failure Value}
    {item : Option Guard → Item}
    (hown : ∀ {guard value}, own guard = .ok value → Spells fit value [item guard])
    (branches : List (Branch Tree))
    (hnodes : ∀ branch ∈ branches, ∀ block, branch.block = some block →
      block.Everywhere (Yields options fit))
    {values : List Value} (hrun : branchMarkups options own branches = .ok values) :
    SpellAll fit values (branchForests options item branches) := by
  match branches with
  | [] =>
      cases hrun
      exact .nil
  | ⟨guard, test, none⟩ :: branches =>
      rw [branchMarkups] at hrun
      obtain ⟨first, hfirst, hrun⟩ := bind_eq_ok hrun
      obtain ⟨rest, hrest, hrun⟩ := bind_eq_ok hrun
      cases hrun
      obtain ⟨-, hbranches⟩ := List.forall_mem_cons.mp hnodes
      rw [branchForests]
      exact .cons (hown hfirst) (spellAll_branchMarkups hown branches hbranches hrest)
  | ⟨guard, test, some block⟩ :: branches =>
      rw [branchMarkups] at hrun
      obtain ⟨first, hfirst, hrun⟩ := bind_eq_ok hrun
      obtain ⟨rest, hrest, hrun⟩ := bind_eq_ok hrun
      cases hrun
      obtain ⟨hblock, hbranches⟩ := List.forall_mem_cons.mp hnodes
      rw [branchForests]
      exact .cons (spells_markup block (hblock block rfl) hfirst)
        (spellAll_branchMarkups hown branches hbranches hrest)

end

end Tree

end MiniTemplate

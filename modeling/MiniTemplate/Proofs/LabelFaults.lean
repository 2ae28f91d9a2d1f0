import Mathlib.Data.List.Forall2
import MiniTemplate.Proofs.Rendered
/-!
# The faults of a node

Why the markup of a node cannot be written, its children left aside. The faults of a node are listed in
the order in which the parts of its start tag are written, and the first of them is the failure.

Lists of faults follow the way in which markup is computed (`FailsAs`): what is done one after the other
has the faults of both, in this order. So the list for a start tag is read off its definition, piece by
piece (`failsAs_startTag`). When it is empty is said in terms of what the label binds
(`startFaults_eq_nil_iff`).
-/

namespace MiniTemplate

/-! ### Computations that fail with the first of some faults -/

/-- A computation fails with the first of the given faults, and succeeds if there are none. -/
def FailsAs {α : Type} (x : Except Failure α) (faults : List Failure) : Prop :=
  match x with
  | .ok _ => faults = []
  | .error failure => faults.head? = some failure

namespace FailsAs

variable {α β : Type} {x : Except Failure α} {first second : List Failure}

theorem ok (a : α) : FailsAs (.ok a) [] := rfl

theorem error (failure : Failure) : FailsAs (.error failure : Except Failure α) [failure] := rfl

theorem exists_ok (hx : FailsAs x []) : ∃ a, x = .ok a := by
  cases x with
  | ok a => exact ⟨a, rfl⟩
  | error failure => exact nomatch hx

theorem bind {f : α → Except Failure β} (hx : FailsAs x first)
    (hf : ∀ a, x = .ok a → FailsAs (f a) second) : FailsAs (x >>= f) (first ++ second) := by
  cases x with
  | error failure =>
      change (first ++ second).head? = some failure
      rw [List.head?_append, show first.head? = some failure from hx]
      rfl
  | ok a =>
      rw [show first = [] from hx, List.nil_append]
      exact hf a rfl

/-- A last step that always succeeds adds no faults. -/
theorem andThen {f : α → Except Failure β} (hx : FailsAs x first)
    (hf : ∀ a, ∃ b, f a = .ok b) : FailsAs (x >>= f) first := by
  rw [← List.append_nil first]
  refine hx.bind fun a _ => ?_
  obtain ⟨b, hb⟩ := hf a
  rw [hb]
  exact .ok b

theorem mapM {items : List α} {f : α → Except Failure β} {faults : α → List Failure}
    (hf : ∀ a ∈ items, FailsAs (f a) (faults a)) : FailsAs (items.mapM f) (items.flatMap faults) := by
  induction items with
  | nil => exact .ok []
  | cons a items ih =>
      obtain ⟨hhead, htail⟩ := List.forall_mem_cons.mp hf
      rw [List.mapM_cons, List.flatMap_cons]
      exact hhead.bind fun b _ => (ih htail).andThen fun bs => ⟨b :: bs, rfl⟩

end FailsAs

/-! ### Names and values -/

/-- A value that is set but is no text. -/
def Value.stray : Value → Bool
  | .str _ => false
  | v => v.truthy

theorem Value.stray_iff (v : Value) : v.stray = true ↔ v.truthy = true ∧ ∀ s, v ≠ .str s := by
  cases v with
  | str s => simp [stray]
  | _ => simp [stray]

theorem Value.stray_eq_false (v : Value) (hunset : v.truthy = false) : v.stray = false := by
  rw [Bool.eq_false_iff, ne_eq, stray_iff, hunset]
  exact fun hstray => nomatch hstray.1

/-- The name of an attribute says that it is bound. -/
def Markup.SaysBound (name : String) : Prop :=
  ":".toList <+: name.toList ∨ "v-bind:".toList <+: name.toList

instance (name : String) : Decidable (Markup.SaysBound name) :=
  inferInstanceAs (Decidable (_ ∨ _))

theorem Text.isSome_dropStart? (start chars : List Char) :
    (dropStart? start chars).isSome = true ↔ start <+: chars := by
  induction start generalizing chars with
  | nil => simp [dropStart?]
  | cons s start ih =>
      cases chars with
      | nil => simp [dropStart?]
      | cons c chars =>
          rw [dropStart?, List.cons_prefix_cons]
          by_cases hsame : s = c <;> simp [hsame, ih]

namespace Markup

theorem isSome_boundName? (name : String) : (boundName? name).isSome = true ↔ SaysBound name := by
  rw [boundName?, SaysBound, ← Text.isSome_dropStart?, ← Text.isSome_dropStart?, or_comm]
  cases Text.dropStart? "v-bind:".toList name.toList with
  | some rest => simp
  | none => simp

/-- No attribute is both bound and a listener. -/
theorem isListenerName_of_saysBound {name : String} (hbound : SaysBound name) :
    isListenerName name = false := by
  have hapart : ∀ start ∈ [":".toList, "v-bind:".toList], ∀ other ∈ ["v-on:".toList, "@".toList],
      ¬ (start <+: other) ∧ ¬ (other <+: start) := by decide
  have hnot : ∀ other ∈ ["v-on:".toList, "@".toList], ¬ (other <+: name.toList) := by
    intro other hother hlistens
    obtain ⟨start, hstart, hbound⟩ :
        ∃ start ∈ [":".toList, "v-bind:".toList], start <+: name.toList := by
      rcases hbound with hbound | hbound
      · exact ⟨_, List.mem_cons_self, hbound⟩
      · exact ⟨_, List.mem_cons_of_mem _ List.mem_cons_self, hbound⟩
    obtain ⟨hfirst, hsecond⟩ := hapart start hstart other hother
    exact (List.prefix_or_prefix_of_prefix hbound hlistens).elim hfirst hsecond
  rw [← Bool.not_eq_true, isListenerName, Bool.or_eq_true, Text.isSome_dropStart?,
    Text.isSome_dropStart?, not_or]
  exact ⟨hnot _ List.mem_cons_self, hnot _ (List.mem_cons_of_mem _ List.mem_cons_self)⟩

/-! ### Faults in the order of a start tag -/

/-- What is at fault where something is looked up at run time. -/
def missing (label : Label) (needed : Bool) : List Failure :=
  if needed && label.handle.isNull then [.noHandle label.tag] else []

def strayFault (refused : Value → Failure) (v : Value) : List Failure :=
  if v.stray then [refused v] else []

def loopFaults (label : Label) : List Failure :=
  match label.loop with
  | none => []
  | some loop => missing label true ++ strayFault .notMatchable loop.key

/-- The faults of an element in the order in which its start tag is written. -/
def startFaults (options : Options) (label : Label) (guard : Option Guard) : List Failure :=
  (if label.tag.truthy then [] else [.noTag options.name])
    ++ (loopFaults label
    ++ (missing label (guard = some .ifTrue || guard = some .elseIf)
    ++ ((strayFault .classNotText label.staticClass ++ missing label label.classBound)
    ++ ((strayFault .notMatchable label.staticStyle ++ missing label label.styleBound)
    ++ ((label.attributes.flatMap fun attr => missing label (SaysBound attr.name))
    ++ missing label (!(label.listeners.getD []).isEmpty))))))

/-- The faults of a node that is rendered itself, with those of what stands between its tags. -/
def ownFaults (options : Options) (label : Label) (guard : Option Guard) (inner : List Failure) :
    List Failure :=
  match referred? options label with
  | some _ => []
  | none =>
    match label.kind with
    | .text => missing label (!label.static)
    | .element => startFaults options label guard ++ inner

theorem failsAs_handleOf (label : Label) : FailsAs (handleOf label) (missing label true) := by
  rw [handleOf, missing, Bool.true_and]
  split
  · exact .error _
  · exact .ok _

theorem failsAs_lookupOf (label : Label) (field : String) :
    FailsAs (lookupOf label field) (missing label true) :=
  (failsAs_handleOf label).andThen fun handle => ⟨lookup handle field, rfl⟩

theorem failsAs_boundPart (label : Label) (bound : Bool) (field : String) :
    FailsAs (boundPart label bound field) (missing label bound) := by
  cases bound with
  | false => exact .ok []
  | true => exact (failsAs_lookupOf label field).andThen fun text => ⟨[text], rfl⟩

theorem failsAs_text_only (given : Value) (f : String → String) (refused : Value → Failure) :
    FailsAs (match given.orElse (.str "") with
      | .str s => Except.ok (f s)
      | v => .error (refused v)) (strayFault refused given) := by
  rw [Value.orElse, strayFault]
  cases htruthy : given.truthy with
  | false =>
      rw [given.stray_eq_false htruthy]
      exact .ok (f "")
  | true =>
      cases given with
      | str s => exact .ok (f s)
      | _ =>
          rw [if_pos rfl, (Value.stray_iff _).mpr ⟨htruthy, fun s hs => by cases hs⟩]
          exact .error _

theorem failsAs_classAttribute (label : Label) :
    FailsAs (classAttribute label)
      (strayFault .classNotText label.staticClass ++ missing label label.classBound) :=
  FailsAs.bind (failsAs_text_only label.staticClass _ _) fun _ _ =>
    (failsAs_boundPart label label.classBound "cl").andThen fun _ => ⟨_, rfl⟩

theorem failsAs_styleAttribute (label : Label) :
    FailsAs (styleAttribute label)
      (strayFault .notMatchable label.staticStyle ++ missing label label.styleBound) := by
  refine FailsAs.bind (failsAs_text_only label.staticStyle _ _) fun static _ =>
    (failsAs_boundPart label label.styleBound "st").andThen fun bound => ?_
  cases (if static == "" then [] else [static]) ++ bound with
  | nil => exact ⟨_, rfl⟩
  | cons style styles => exact ⟨_, rfl⟩

theorem failsAs_attributeMarkup (label : Label) (attr : Attribute) :
    FailsAs (attributeMarkup label attr) (missing label (SaysBound attr.name)) := by
  rw [attributeMarkup]
  by_cases hbound : SaysBound attr.name
  · obtain ⟨name, hname⟩ := Option.isSome_iff_exists.mp ((isSome_boundName? attr.name).mpr hbound)
    rw [isListenerName_of_saysBound hbound, hname, decide_eq_true hbound]
    exact (failsAs_handleOf label).andThen fun handle => ⟨_, rfl⟩
  · have hname : boundName? attr.name = none := by
      rw [← Option.not_isSome_iff_eq_none, isSome_boundName?]
      exact hbound
    rw [hname, decide_eq_false hbound]
    split
    · exact .ok none
    · exact .ok _

theorem failsAs_plainAttributes (label : Label) :
    FailsAs (plainAttributes label)
      (label.attributes.flatMap fun attr => missing label (SaysBound attr.name)) := by
  refine (FailsAs.mapM fun attr _ => failsAs_attributeMarkup label attr).andThen fun written => ?_
  cases written.filterMap id with
  | nil => exact ⟨_, rfl⟩
  | cons piece pieces => exact ⟨_, rfl⟩

theorem failsAs_listenerAttributes {label : Label} (htag : label.tag.isContainer = false) :
    FailsAs (listenerAttributes label) (missing label (!(label.listeners.getD []).isEmpty)) := by
  rw [listenerAttributes]
  cases label.listeners.getD [] with
  | nil => exact .ok ""
  | cons listener listeners =>
      -- the tag can be looked up, so every type of event has a name
      have hnames : ∀ one ∈ listener :: listeners,
          FailsAs (listenerAttribute (label.tag.orElse (.str "")) one) [] := by
        intro one _
        rw [listenerAttribute]
        refine FailsAs.andThen ?_ fun type => ⟨_, rfl⟩
        rw [eventType]
        split
        · rw [isTextField_of_not_container htag]
          exact .ok _
        · exact .ok _
      have hall := FailsAs.mapM hnames
      rw [List.flatMap_eq_nil_iff.mpr fun _ _ => rfl] at hall
      exact hall.bind fun written _ => (failsAs_handleOf label).andThen fun handle => ⟨_, rfl⟩

theorem failsAs_guardAttribute (label : Label) (guard : Option Guard) :
    FailsAs (guardAttribute label guard)
      (missing label (guard = some .ifTrue || guard = some .elseIf)) := by
  match guard with
  | none => exact .ok ""
  | some .ifTrue => exact (failsAs_lookupOf label "_if").andThen fun test => ⟨_, rfl⟩
  | some .elseIf => exact (failsAs_lookupOf label "_if").andThen fun test => ⟨_, rfl⟩
  | some .otherwise => exact .ok _

theorem failsAs_loopAttributes (label : Label) : FailsAs (loopAttributes label) (loopFaults label) := by
  rw [loopAttributes, loopFaults]
  cases label.loop with
  | none => exact .ok ""
  | some loop =>
      exact (failsAs_lookupOf label "li").bind fun items _ =>
        (failsAs_text_only loop.key keyName _).andThen fun key => ⟨_, rfl⟩

end Markup

/-- The table of tags, if one is given, holds texts only. -/
def Options.TagsText (options : Options) : Prop :=
  ∀ table, options.tagMap = some table → ∀ entry ∈ table, ∃ tag, entry.2 = .str tag

namespace Markup

theorem exists_text_of_standard {entry : String × Value} (hentry : entry ∈ TagMap.standard) :
    ∃ target, entry.2 = .str target := by
  simp only [TagMap.standard, List.mem_append, List.mem_map, List.mem_cons, List.not_mem_nil,
    or_false] at hentry
  rcases hentry with (⟨tag, -, rfl⟩ | ⟨tag, -, rfl⟩) | rfl | rfl | rfl | rfl <;> exact ⟨_, rfl⟩

theorem exists_resolve_eq {options : Options} (htags : options.TagsText) (tag : String) :
    ∃ target, TagMap.resolve options.tagMap tag = .str target := by
  have htable : ∀ entry ∈ options.tagMap.getD TagMap.standard, ∃ target, entry.2 = .str target := by
    cases htable : options.tagMap with
    | some table => exact htags table htable
    | none => exact fun entry hentry => exists_text_of_standard hentry
  rw [TagMap.resolve, Fields.get?]
  cases hfound : (options.tagMap.getD TagMap.standard).lookup tag with
  | none => exact ⟨tag, rfl⟩
  | some target =>
      obtain ⟨before, after, hsplit, -⟩ := List.lookup_eq_some_iff.mp hfound
      apply htable (tag, target)
      rw [hsplit]
      exact List.mem_append_right before List.mem_cons_self

/-- **A start tag fails with the first of its faults.** -/
theorem failsAs_startTag {options : Options} (htags : options.TagsText) {label : Label} {tag : String}
    (htag : label.tag = .str tag) (guard : Option Guard) :
    FailsAs (startTag options label guard) (startFaults options label guard) := by
  obtain ⟨target, htarget⟩ := exists_resolve_eq htags tag
  have hresolve : resolveTag options label.tag = .ok (.str target) := by
    rw [htag, resolveTag, htarget]
  rw [startTag, startFaults]
  cases label.tag.truthy with
  | false => rfl
  | true =>
      change FailsAs (resolveTag options label.tag >>= _) (loopFaults label ++ _)
      rw [hresolve]
      exact (failsAs_loopAttributes label).bind fun loop _ =>
        (failsAs_guardAttribute label guard).bind fun guarded _ =>
        (failsAs_classAttribute label).bind fun classes _ =>
        (failsAs_styleAttribute label).bind fun style _ =>
        (failsAs_plainAttributes label).bind fun attributes _ =>
        (failsAs_listenerAttributes (htag ▸ rfl)).andThen fun listeners => by
          have hjoin := join_str
            ["<", target, loop, guarded, classes, style, attributes, listeners, ">"]
          simp only [List.map_cons, List.map_nil] at hjoin
          rw [hjoin]
          exact ⟨_, rfl⟩

end Markup

/-! ### Labels that are at fault -/

namespace Label

/-- Something of an element is looked up at run time when it stands at the given position of a chain. -/
inductive Binds (label : Label) (guard : Option Guard) : Prop where
  | loop (hloop : label.loop.isSome = true)
  | test (hguard : guard = some .ifTrue ∨ guard = some .elseIf)
  | classes (hbound : label.classBound = true)
  | style (hbound : label.styleBound = true)
  | boundAttribute (attr : Attribute) (hattr : attr ∈ label.attributes)
      (hbound : Markup.SaysBound attr.name)
  | listeners (hsome : label.listeners.getD [] ≠ [])

/-- A node cannot be rendered itself at the given position of a chain: as an element it has no tag, or no
handle for what it binds, or some part that should be text and is not; as a text it has no handle for
its expression. -/
inductive Faulty (options : Options) (label : Label) (guard : Option Guard) : Prop where
  | untagged (hnode : Tree.Encloses options label) (htag : label.tag = .str "")
  | unbound (hnode : Tree.Encloses options label) (hbinds : label.Binds guard)
      (hhandle : label.handle = .null)
  | staticClass (hnode : Tree.Encloses options label) (hstray : label.staticClass.stray = true)
  | staticStyle (hnode : Tree.Encloses options label) (hstray : label.staticStyle.stray = true)
  | key (hnode : Tree.Encloses options label) (loop : Loop) (hloop : label.loop = some loop)
      (hstray : loop.key.stray = true)
  | expression (hkind : label.kind = .text) (hstatic : label.static = false)
      (hhandle : label.handle = .null)

/-- A static text that is passed on as it is, and is no text. -/
def Stray (label : Label) : Prop :=
  label.kind = .text ∧ label.static = true ∧ label.text.stray = true

instance (label : Label) : Decidable label.Stray :=
  inferInstanceAs (Decidable (_ ∧ _ ∧ _))

/-- The value that a node passes on although it is no text. -/
def straying? (label : Label) : Option Value :=
  if label.Stray then some label.text else none

theorem straying?_eq_none_iff (label : Label) : label.straying? = none ↔ ¬ label.Stray := by
  rw [straying?]
  split <;> simp_all

/-- A static text with nothing in it. -/
def blank (label : Label) : Bool :=
  label.kind = .text && label.static && !label.text.truthy

theorem not_stray_of_blank {label : Label} (hblank : label.blank = true) : ¬ label.Stray := by
  rw [blank, Bool.and_eq_true, Bool.not_eq_true'] at hblank
  rintro ⟨-, -, hstray⟩
  rw [label.text.stray_eq_false hblank.2] at hstray
  exact nomatch hstray

/-- What loading makes sure of: the tag of an element is text, and a text refers to no component. -/
structure Loadable (label : Label) : Prop where
  tag : label.kind = .element → ∃ tag, label.tag = .str tag
  component : label.kind = .text → label.component = .null

end Label

namespace Markup

variable {options : Options} {label : Label} {guard : Option Guard}

theorem isNull_iff (v : Value) : v.isNull = true ↔ v = .null := by
  cases v <;> simp [Value.isNull]

theorem missing_eq_nil_iff (needed : Bool) :
    missing label needed = [] ↔ ¬ (needed = true ∧ label.handle = .null) := by
  rw [missing, ← isNull_iff, ← Bool.and_eq_true]
  cases needed && label.handle.isNull <;> simp

theorem strayFault_eq_nil_iff (refused : Value → Failure) (v : Value) :
    strayFault refused v = [] ↔ ¬ v.stray = true := by
  rw [strayFault]
  cases v.stray <;> simp

theorem loopFaults_eq_nil_iff :
    loopFaults label = [] ↔ ¬ (label.loop.isSome = true ∧ label.handle = .null)
      ∧ ∀ loop, label.loop = some loop → ¬ loop.key.stray = true := by
  rw [loopFaults]
  cases label.loop with
  | none => simp
  | some loop =>
      rw [List.append_eq_nil_iff, missing_eq_nil_iff, strayFault_eq_nil_iff]
      simp

/-- **An element has no faults exactly when it is not at fault.** -/
theorem startFaults_eq_nil_iff {tag : String} (hnode : Tree.Encloses options label)
    (htag : label.tag = .str tag) :
    startFaults options label guard = [] ↔ ¬ label.Faulty options guard := by
  have huntagged : (if label.tag.truthy then [] else [Failure.noTag options.name]) = []
      ↔ ¬ label.tag = .str "" := by
    rw [htag, Value.truthy]
    by_cases hempty : tag = "" <;> simp [hempty]
  rw [startFaults]
  simp only [List.append_eq_nil_iff, huntagged, loopFaults_eq_nil_iff, missing_eq_nil_iff,
    strayFault_eq_nil_iff, List.flatMap_eq_nil_iff]
  constructor
  · rintro ⟨htagged, ⟨hloop, hkey⟩, htest, ⟨hclass, hclasses⟩, ⟨hstyle, hstyles⟩, hattributes,
      hlisteners⟩ hfaulty
    cases hfaulty with
    | untagged _ htag => exact htagged htag
    | staticClass _ hstray => exact hclass hstray
    | staticStyle _ hstray => exact hstyle hstray
    | key _ loop hsome hstray => exact hkey loop hsome hstray
    | expression hkind => cases hnode.2.symm.trans hkind
    | unbound _ hbinds hhandle =>
        cases hbinds with
        | loop hsome => exact hloop ⟨hsome, hhandle⟩
        | test hguard => exact htest ⟨by simpa using hguard, hhandle⟩
        | classes hbound => exact hclasses ⟨hbound, hhandle⟩
        | style hbound => exact hstyles ⟨hbound, hhandle⟩
        | boundAttribute attr hattr hbound =>
            exact hattributes attr hattr ⟨by simpa using hbound, hhandle⟩
        | listeners hsome => exact hlisteners ⟨by simpa using hsome, hhandle⟩
  · intro hsound
    have hbinds : label.Binds guard → ¬ label.handle = .null := fun hbinds hhandle =>
      hsound (.unbound hnode hbinds hhandle)
    refine ⟨fun htag => hsound (.untagged hnode htag), ⟨fun h => hbinds (.loop h.1) h.2, ?_⟩, ?_,
      ⟨fun h => hsound (.staticClass hnode h), fun h => hbinds (.classes h.1) h.2⟩,
      ⟨fun h => hsound (.staticStyle hnode h), fun h => hbinds (.style h.1) h.2⟩, ?_, ?_⟩
    · exact fun loop hloop hstray => hsound (.key hnode loop hloop hstray)
    · exact fun h => hbinds (.test (by simpa using h.1)) h.2
    · exact fun attr hattr h => hbinds (.boundAttribute attr hattr (by simpa using h.1)) h.2
    · exact fun h => hbinds (.listeners (by simpa using h.1)) h.2

end Markup

/-! ### Pieces of markup -/

/-- A piece of markup as it is foreseen: which value it is if it is no text, and whether it is empty. -/
structure Value.Fits (v : Value) (straying : Option Value) (blank : Bool) : Prop where
  text : straying = none → ∃ s, v = .str s
  stray : ∀ w, straying = some w → v = w ∧ w.stray = true
  truthy_eq : v.truthy = !blank

/-- A text, with the empty text as the one that is blank. -/
theorem Value.fits_text (s : String) : (Value.str s).Fits none (!(Value.str s).truthy) where
  text := fun _ => ⟨s, rfl⟩
  stray := nofun
  truthy_eq := (Bool.not_not _).symm

theorem Value.fits_stray {v : Value} (hstray : v.stray = true) : v.Fits (some v) (!v.truthy) where
  text := nofun
  stray := fun _ hw => ⟨Option.some.inj hw, Option.some.inj hw ▸ hstray⟩
  truthy_eq := (Bool.not_not _).symm

/-- A value is text, or it is stray, or it is not set and gives way to the empty text. -/
theorem Value.fits_orElse (v : Value) :
    (v.orElse (.str "")).Fits (if v.stray then some v else none) (!v.truthy) := by
  by_cases htruthy : v.truthy = true
  · rw [orElse, if_pos htruthy]
    cases v with
    | str s => exact fits_text s
    | _ =>
        have hstray := (stray_iff _).mpr ⟨htruthy, fun s hs => by cases hs⟩
        rw [hstray]
        exact fits_stray hstray
  · have hfalse := Bool.eq_false_iff.mpr htruthy
    rw [orElse, if_neg htruthy, v.stray_eq_false hfalse, hfalse]
    exact fits_text ""

theorem Value.Fits.of_text {s : String} (hfull : s ≠ "") : (Value.str s).Fits none false := by
  have htruthy : (Value.str s).truthy = true := by simpa [truthy] using hfull
  have hfits := fits_text s
  rwa [htruthy] at hfits

namespace Markup

/-- The faults of a join: each piece that is no text, by its index. -/
def joinFaults (index : Nat) : List (Option Value) → List Failure
  | [] => []
  | none :: pieces => joinFaults (index + 1) pieces
  | some v :: pieces => .pieceNotText index v :: joinFaults (index + 1) pieces

theorem joinFaults_eq_nil_iff (index : Nat) (pieces : List (Option Value)) :
    joinFaults index pieces = [] ↔ ∀ piece ∈ pieces, piece = none := by
  induction pieces generalizing index with
  | nil => simp [joinFaults]
  | cons piece pieces ih =>
      cases piece with
      | none => simp [joinFaults, ih]
      | some v => simp [joinFaults]

theorem failsAs_joinFrom {pieces : List Value} {straying : List (Option Value)}
    (hfits : List.Forall₂ (fun v expected => ∃ blank, v.Fits expected blank) pieces straying)
    (index : Nat) : FailsAs (joinFrom index pieces) (joinFaults index straying) := by
  induction hfits generalizing index with
  | nil => exact .ok ""
  | @cons v expected pieces straying hhead htail ih =>
      obtain ⟨blank, hhead⟩ := hhead
      cases expected with
      | none =>
          obtain ⟨s, rfl⟩ := hhead.text rfl
          exact (ih (index + 1)).andThen fun rest => ⟨s ++ rest, rfl⟩
      | some w =>
          obtain ⟨rfl, hstray⟩ := hhead.stray w rfl
          cases v with
          | str s => exact nomatch hstray
          | _ => rfl

variable {options : Options} {label : Label} {guard : Option Guard}
  {children : Except Failure (List Value)}

theorem isReference_of_loadable (hlabel : label.Loadable) (options : Options) :
    Tree.isReference options label = .ok (referred? options label).isSome := by
  have hfound : ∃ found, Tree.isReference options label = .ok found := by
    rw [Tree.isReference]
    split
    · exact ⟨false, rfl⟩
    · rename_i hset
      cases hkind : label.kind with
      | text =>
          rw [hlabel.component hkind] at hset
          exact absurd rfl hset
      | element =>
          obtain ⟨tag, htag⟩ := hlabel.tag hkind
          rw [htag]
          exact ⟨_, rfl⟩
  obtain ⟨found, hfound⟩ := hfound
  rw [hfound, Tree.isReference_eq_ok hfound]

theorem encloses_iff (hlabel : label.Loadable) :
    Tree.Encloses options label ↔ referred? options label = none ∧ label.kind = .element := by
  rw [Tree.Encloses, isReference_of_loadable hlabel]
  simp

/-- A text refers to no component. -/
theorem kind_of_referred (hlabel : label.Loadable) {entry : Import}
    (hentry : referred? options label = some entry) : label.kind = .element := by
  cases hkind : label.kind with
  | element => rfl
  | text =>
      rw [referred?, hlabel.component hkind] at hentry
      split at hentry <;> cases hentry

theorem failsAs_componentOf {entry : Import} (hentry : referred? options label = some entry) :
    FailsAs (componentOf options label) [] := by
  obtain ⟨tag, htag, himport⟩ := Tree.exists_of_referred hentry
  rw [componentOf, htag, importOf?, himport]
  exact .ok _

theorem failsAs_textOf (label : Label) : FailsAs (textOf label) (missing label (!label.static)) := by
  rw [textOf]
  cases label.static with
  | true => exact .ok _
  | false => exact (failsAs_lookupOf label "t").andThen fun text => ⟨.str text, rfl⟩

/-- **A node that is rendered itself fails with the first of its faults.** -/
theorem failsAs_ownMarkup (htags : options.TagsText) (hlabel : label.Loadable)
    {first second : List Failure} (hchildren : FailsAs children first)
    (hjoin : ∀ pieces, children = .ok pieces → FailsAs (join pieces) second) (guard : Option Guard) :
    FailsAs (Tree.ownMarkup options label children guard)
      (ownFaults options label guard (first ++ second)) := by
  rw [ownFaults]
  cases hentry : referred? options label with
  | some entry =>
      rw [Tree.ownMarkup, isReference_of_loadable hlabel, hentry]
      exact (failsAs_componentOf hentry).andThen fun written => ⟨.str written, rfl⟩
  | none =>
      cases hkind : label.kind with
      | text =>
          rw [Tree.ownMarkup, isReference_of_loadable hlabel, hentry, hkind]
          exact failsAs_textOf label
      | element =>
          obtain ⟨tag, htag⟩ := hlabel.tag hkind
          rw [Tree.ownMarkup_of_encloses ((encloses_iff hlabel).mpr ⟨hentry, hkind⟩)]
          exact (failsAs_startTag htags htag guard).bind fun written _ =>
            hchildren.bind fun pieces hpieces =>
            (hjoin pieces hpieces).andThen fun inner => ⟨_, rfl⟩

theorem ownFaults_eq_nil_iff (hlabel : label.Loadable) (inner : List Failure) :
    ownFaults options label guard inner = [] ↔
      ¬ label.Faulty options guard ∧ (Tree.Encloses options label → inner = []) := by
  rw [ownFaults]
  cases hkind : label.kind with
  | element =>
      cases hentry : referred? options label with
      | some entry =>
          have hnode : ¬ Tree.Encloses options label := fun hnode =>
            nomatch hentry.symm.trans ((encloses_iff hlabel).mp hnode).1
          refine iff_of_true rfl ⟨fun hfaulty => ?_, fun hencloses => absurd hencloses hnode⟩
          cases hfaulty with
          | expression htext => exact nomatch hkind.symm.trans htext
          | _ hencloses => exact hnode hencloses
      | none =>
          have hnode := (encloses_iff hlabel).mpr ⟨hentry, hkind⟩
          obtain ⟨tag, htag⟩ := hlabel.tag hkind
          rw [List.append_eq_nil_iff, startFaults_eq_nil_iff hnode htag]
          exact and_congr_right fun _ => (imp_iff_right hnode).symm
  | text =>
      have hnode : ¬ Tree.Encloses options label := fun hnode => nomatch hkind.symm.trans hnode.2
      have hentry : referred? options label = none := by
        cases hentry : referred? options label with
        | none => rfl
        | some entry => exact nomatch hkind.symm.trans (kind_of_referred hlabel hentry)
      rw [hentry, missing_eq_nil_iff]
      constructor
      · intro hhandle
        refine ⟨fun hfaulty => ?_, fun hencloses => absurd hencloses hnode⟩
        cases hfaulty with
        | expression _ hstatic hnull => exact hhandle ⟨by rw [hstatic]; rfl, hnull⟩
        | _ hencloses => exact hnode hencloses
      · rintro ⟨hsound, -⟩ ⟨hdynamic, hhandle⟩
        exact hsound (.expression hkind (by simpa using hdynamic) hhandle)

theorem fits_textOf (hkind : label.kind = .text) {value : Value} (hrun : textOf label = .ok value) :
    value.Fits label.straying? label.blank := by
  rw [textOf] at hrun
  simp only [Label.straying?, Label.Stray, Label.blank, hkind]
  cases hstatic : label.static with
  | false =>
      rw [hstatic] at hrun
      obtain ⟨written, hwritten, hrun⟩ := bind_eq_ok hrun
      cases hrun
      rw [lookupOf_eq_ok hwritten]
      simpa using Value.Fits.of_text (by simp [lookup])
  | true =>
      rw [hstatic] at hrun
      obtain rfl : label.text.orElse (.str "") = value := Except.ok.inj hrun
      simpa using label.text.fits_orElse

/-- What a node gives when it is rendered itself is text, unless it is a stray one. -/
theorem fits_ownMarkup (hlabel : label.Loadable) {value : Value}
    (hrun : Tree.ownMarkup options label children guard = .ok value) :
    value.Fits label.straying? label.blank := by
  have helement : label.kind = .element → label.straying? = none ∧ label.blank = false := by
    intro hkind
    simp [Label.straying?, Label.Stray, Label.blank, hkind]
  rcases Tree.ownMarkup_eq_ok hrun with ⟨entry, written, hentry, hwritten, rfl⟩ |
    ⟨-, hkind, htextOf⟩ | ⟨-, hkind, start, tag, values, inner, -, -, -, rfl⟩
  · obtain ⟨hstraying, hblank⟩ := helement (kind_of_referred hlabel hentry)
    obtain ⟨tag, htag, himport⟩ := Tree.exists_of_referred hentry
    rw [componentOf, htag, importOf?, himport] at hwritten
    cases hwritten
    rw [hstraying, hblank]
    exact .of_text (by simp)
  · exact fits_textOf hkind htextOf
  · obtain ⟨hstraying, hblank⟩ := helement hkind
    rw [hstraying, hblank]
    exact .of_text (by simp [endTag])

end Markup

end MiniTemplate

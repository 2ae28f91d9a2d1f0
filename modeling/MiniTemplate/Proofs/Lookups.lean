import MiniTemplate.Proofs.LabelFaults
import MiniTemplate.Proofs.Unbracketed
/-!
# What a node looks up

Whatever a node binds is looked up at run time by its handle: the source of a loop, the test of a guard,
the class, the style, each bound attribute, or an expression. How often its markup shows the handle is
said by its label and its position in a chain (`Label.uses`).

Each part of the markup that looks something up does so under a condition of its own. Each of them is
followed once, given that it succeeds, and says which handles it shows (`Shows`). All else that is
written is plain, so that a node shows its own handles first and then those of its children
(`gives_ownMarkup`).
-/

namespace MiniTemplate

open Handles Markup

/-! ### Handles by label -/

namespace Label

/-- The handle once, if something is looked up by it. -/
def once (label : Label) (needed : Bool) : List Value :=
  if needed then [label.handle] else []

/-- The handles in the start tag of an element. -/
def elementUses (label : Label) (guard : Option Guard) : List Value :=
  label.once label.loop.isSome
    ++ (label.once (guard = some .ifTrue || guard = some .elseIf)
    ++ (label.once label.classBound
    ++ (label.once label.styleBound
    ++ label.attributes.flatMap fun attr => label.once (SaysBound attr.name))))

/-- The handles in the markup of a node itself. A component has none. -/
def uses (options : Options) (label : Label) (guard : Option Guard) : List Value :=
  match referred? options label with
  | some _ => []
  | none =>
    match label.kind with
    | .text => label.once (!label.static)
    | .element => label.elementUses guard

/-- Whether the children of a node are rendered with it. -/
def showsChildren (options : Options) (label : Label) : Bool :=
  (referred? options label).isNone && label.kind = .element

/-- Handles are numbers, or there is none. -/
def Numbered (label : Label) : Prop :=
  label.handle = .null ∨ ∃ n : Int, label.handle = .int n

end Label

/-! ### Pieces that show handles -/

namespace Handles

/-- A piece of text shows the given handles, and these are numbers. -/
def Shows (piece : String) (uses : List Value) : Prop :=
  ∃ ids : List Int, uses = ids.map Value.int ∧ Tells piece.toList (ids.map toString)

theorem shows_of_plain {piece : String} (hpiece : Plain piece.toList) : Shows piece [] :=
  ⟨[], rfl, hpiece.tells⟩

theorem shows_literal {piece : String} (hpiece : '[' ∉ piece.toList) : Shows piece [] :=
  shows_of_plain (plain_of_not_mem hpiece)

theorem Shows.append {first second : String} {uses more : List Value} (hfirst : Shows first uses)
    (hsecond : Shows second more) : Shows (first ++ second) (uses ++ more) := by
  obtain ⟨ids, rfl, hids⟩ := hfirst
  obtain ⟨others, rfl, hothers⟩ := hsecond
  refine ⟨ids ++ others, List.map_append.symm, ?_⟩
  rw [List.map_append, String.toList_append]
  exact hids.append hothers

theorem Shows.behind {before piece : String} {uses : List Value} (hpiece : Shows piece uses)
    (hbefore : Shows before []) : Shows (before ++ piece) uses :=
  hbefore.append hpiece

theorem Shows.before {piece behind : String} {uses : List Value} (hpiece : Shows piece uses)
    (hbehind : Shows behind []) : Shows (piece ++ behind) uses := by
  have hall := hpiece.append hbehind
  rwa [List.append_nil] at hall

theorem Shows.between {before piece behind : String} {uses : List Value} (hpiece : Shows piece uses)
    (hbefore : '[' ∉ before.toList) (hbehind : '[' ∉ behind.toList) :
    Shows (before ++ piece ++ behind) uses :=
  (hpiece.behind (shows_literal hbefore)).before (shows_literal hbehind)

/-- The start of an interpolation that looks something up. -/
theorem shows_handle (n : Int) {close : List Char} (hclose : '_' ∉ close) :
    Shows (String.ofList ('\x7b' :: '\x7b' :: ' ' :: '_' :: 'h' :: '[' :: ' '
      :: ((Value.int n).text.toList ++ ' ' :: ']' :: close))) [.int n] := by
  have hinert : Inert (Value.int n).text := inert_int n
  refine ⟨[n], rfl, ?_⟩
  rw [String.toList_ofList]
  have htells := tells_handle (fun hmem => (hinert _ hmem).2.1 rfl)
    (fun hmem => (hinert _ hmem).2.2 rfl) hclose
  rwa [String.ofList_toList] at htells

theorem shows_lookup (n : Int) {field : String} (hfield : '[' ∉ field.toList) :
    Shows (lookup (.int n) field) [.int n] := by
  have hpieces : lookup (.int n) field = String.ofList ('\x7b' :: '\x7b' :: ' ' :: '_' :: 'h' :: '['
      :: ' ' :: ((Value.int n).text.toList ++ ' ' :: ']' :: ['.'])) ++ field ++ " \x7d\x7d" := by
    rw [← String.toList_inj, lookup]
    simp
  rw [hpieces]
  exact ((shows_handle n (by decide)).before (shows_literal hfield)).before
    (shows_literal (by decide))

/-- Several pieces with the handles that they show one after the other. -/
inductive ShowAll : List String → List Value → Prop where
  | nil : ShowAll [] []
  | cons {piece : String} {pieces : List String} {uses more : List Value}
      (hpiece : Shows piece uses) (hpieces : ShowAll pieces more) :
      ShowAll (piece :: pieces) (uses ++ more)

theorem ShowAll.silent {piece : String} {pieces : List String} {uses : List Value}
    (hpiece : Shows piece []) (hpieces : ShowAll pieces uses) : ShowAll (piece :: pieces) uses :=
  .cons hpiece hpieces

theorem Shows.alone {piece : String} {uses : List Value} (hpiece : Shows piece uses) :
    ShowAll [piece] uses := by
  rw [← List.append_nil uses]
  exact .cons hpiece .nil

theorem ShowAll.intercalate {pieces : List String} {uses : List Value} (hall : ShowAll pieces uses) :
    Shows (String.intercalate " " pieces) uses := by
  induction hall with
  | nil => exact shows_literal (by decide)
  | @cons piece pieces uses more hpiece hpieces ih =>
      cases hpieces with
      | nil =>
          rw [String.intercalate_singleton, List.append_nil]
          exact hpiece
      | cons hnext hrest =>
          rw [String.intercalate_cons_cons]
          exact (hpiece.before (shows_literal (by decide))).append ih

theorem ShowAll.join {pieces : List String} {uses : List Value} (hall : ShowAll pieces uses) :
    Shows (String.join pieces) uses := by
  induction hall with
  | nil => exact shows_literal (by decide)
  | cons hpiece _ ih =>
      rw [String.join_cons]
      exact hpiece.append ih

theorem ShowAll.append {first second : List String} {uses more : List Value}
    (hfirst : ShowAll first uses) (hsecond : ShowAll second more) :
    ShowAll (first ++ second) (uses ++ more) := by
  induction hfirst with
  | nil => exact hsecond
  | cons hpiece _ ih =>
      rw [List.cons_append, List.append_assoc]
      exact .cons hpiece ih

theorem showAll_of_silent {pieces : List String} (hpieces : ∀ piece ∈ pieces, Shows piece []) :
    ShowAll pieces [] := by
  induction pieces with
  | nil => exact .nil
  | cons piece pieces ih =>
      obtain ⟨hpiece, hrest⟩ := List.forall_mem_cons.mp hpieces
      exact .silent hpiece (ih hrest)

/-- What is written item by item shows handles item by item. -/
theorem showAll_of_mapM {α β : Type} {f : α → Except Failure β} {pieces : β → List String}
    {uses : α → List Value} {items : List α}
    (hf : ∀ a ∈ items, ∀ written, f a = .ok written → ShowAll (pieces written) (uses a))
    {found : List β} (hrun : items.mapM f = .ok found) :
    ShowAll (found.flatMap pieces) (items.flatMap uses) := by
  induction items generalizing found with
  | nil =>
      cases hrun
      exact .nil
  | cons a items ih =>
      obtain ⟨hhead, htail⟩ := List.forall_mem_cons.mp hf
      rw [List.mapM_cons] at hrun
      obtain ⟨first, hfirst, hrun⟩ := bind_eq_ok hrun
      obtain ⟨rest, hrest, hrun⟩ := bind_eq_ok hrun
      cases hrun
      rw [List.flatMap_cons, List.flatMap_cons]
      exact (hhead first hfirst).append (ih htail hrest)

end Handles

/-! ### The parts of a start tag -/

namespace Markup

section

variable {label : Label} (hnumbered : label.Numbered)
include hnumbered

theorem number_of_handleOf {handle : Value} (hrun : handleOf label = .ok handle) :
    ∃ n : Int, handle = .int n ∧ label.handle = .int n := by
  have hhandle := handleOf_eq_ok hrun
  rcases hnumbered with hnull | ⟨n, hn⟩
  · rw [handleOf, hnull] at hrun
    cases hrun
  · exact ⟨n, hhandle.trans hn, hn⟩

theorem shows_lookupOf {field written : String} (hfield : '[' ∉ field.toList)
    (hrun : lookupOf label field = .ok written) : Shows written [label.handle] := by
  obtain ⟨handle, hhandle, hrun⟩ := bind_eq_ok hrun
  obtain ⟨n, rfl, hn⟩ := number_of_handleOf hnumbered hhandle
  cases hrun
  rw [hn]
  exact shows_lookup n hfield

theorem showAll_boundPart {bound : Bool} {field : String} {written : List String}
    (hfield : '[' ∉ field.toList) (hrun : boundPart label bound field = .ok written) :
    ShowAll written (label.once bound) := by
  cases bound with
  | false =>
      cases hrun
      exact .nil
  | true =>
      obtain ⟨text, htext, hrun⟩ := bind_eq_ok hrun
      cases hrun
      exact .cons (shows_lookupOf hnumbered hfield htext) .nil

theorem shows_guardAttribute {guard : Option Guard} {written : String}
    (hrun : guardAttribute label guard = .ok written) :
    Shows written (label.once (guard = some .ifTrue || guard = some .elseIf)) := by
  match guard with
  | none =>
      cases hrun
      exact shows_literal (by decide)
  | some .ifTrue =>
      obtain ⟨test, htest, hrun⟩ := bind_eq_ok hrun
      cases hrun
      exact (shows_lookupOf hnumbered (by decide) htest).between (by decide) (by decide)
  | some .elseIf =>
      obtain ⟨test, htest, hrun⟩ := bind_eq_ok hrun
      cases hrun
      exact (shows_lookupOf hnumbered (by decide) htest).between (by decide) (by decide)
  | some .otherwise =>
      cases hrun
      exact shows_literal (by decide)

/-- What is always there, if anything is, and what is bound. -/
theorem showAll_parts {static field : String} (hstatic : Shows static []) {bound : Bool}
    {written : List String} (hfield : '[' ∉ field.toList)
    (hrun : boundPart label bound field = .ok written) :
    ShowAll ((if static == "" then [] else [static]) ++ written) (label.once bound) := by
  have hbound := showAll_boundPart hnumbered hfield hrun
  split
  · exact hbound
  · exact .cons hstatic hbound

theorem shows_boundAttribute {name : String} (hname : Plain name.toList) {handle : Value}
    (hrun : handleOf label = .ok handle) :
    Shows (name ++ "=\"\x7b\x7b _h[ " ++ handle.text ++ " ][ '" ++ name ++ "' ] \x7d\x7d\"")
      [label.handle] := by
  obtain ⟨n, rfl, hn⟩ := number_of_handleOf hnumbered hrun
  have hpieces : name ++ "=\"\x7b\x7b _h[ " ++ (Value.int n).text ++ " ][ '" ++ name
        ++ "' ] \x7d\x7d\"" =
      name ++ "=\"" ++ String.ofList ('\x7b' :: '\x7b' :: ' ' :: '_' :: 'h' :: '[' :: ' '
        :: ((Value.int n).text.toList ++ ' ' :: ']' :: ['[', ' ', '\'']))
        ++ name ++ "' ] \x7d\x7d\"" := by
    rw [← String.toList_inj]
    simp
  rw [hpieces, hn]
  have hplain := shows_of_plain hname
  exact (((shows_handle n (by decide)).behind (hplain.before (shows_literal (by decide)))).before
    hplain).before (shows_literal (by decide))

end

/-! What has to be text is free of brackets, and so is what is made of it. -/

theorem shows_of_text_only {given : Value} (hgiven : given.Unbracketed) {f : String → String}
    (hf : ∀ s : String, '[' ∉ s.toList → '[' ∉ (f s).toList) {refused : Value → Failure}
    {written : String}
    (hrun : (match given.orElse (.str "") with
      | .str s => Except.ok (f s)
      | v => .error (refused v)) = .ok written) : Shows written [] := by
  have hunbracketed := hgiven.orElse Value.unbracketed_empty
  cases htext : given.orElse (.str "") with
  | str s =>
      rw [htext] at hrun hunbracketed
      cases hrun
      exact shows_literal (hf s (Value.unbracketed_str_iff.mp hunbracketed))
  | _ =>
      rw [htext] at hrun
      cases hrun

theorem not_mem_keyName (key : String) (hkey : '[' ∉ key.toList) : '[' ∉ (keyName key).toList := by
  rw [keyName]
  split
  next rest hrest =>
    rw [String.toList_ofList]
    intro hmem
    have hdrop : '[' ∈ key.toList.dropWhile Text.isWord := by
      rw [hrest]
      exact List.mem_cons_of_mem _ hmem
    exact hkey ((List.dropWhile_suffix Text.isWord).subset hdrop)
  next => exact hkey

theorem plain_of_dropStart? {start chars rest : List Char} (hchars : Plain chars)
    (hdrop : Text.dropStart? start chars = some rest) : Plain rest := by
  induction start generalizing chars with
  | nil =>
      cases hdrop
      exact hchars
  | cons s start ih =>
      cases chars with
      | nil => cases hdrop
      | cons c chars =>
          rw [Text.dropStart?] at hdrop
          split at hdrop
          · exact ih hchars.of_cons hdrop
          · cases hdrop

theorem plain_of_boundName? {name bound : String} (hname : Plain name.toList)
    (hbound : boundName? name = some bound) : Plain bound.toList := by
  rw [boundName?] at hbound
  split at hbound
  next rest hrest =>
    cases hbound
    rw [String.toList_ofList]
    exact plain_of_dropStart? hname hrest
  next =>
    obtain ⟨rest, hrest, rfl⟩ := Option.map_eq_some_iff.mp hbound
    rw [String.toList_ofList]
    exact plain_of_dropStart? hname hrest

section

variable {label : Label} (hclear : label.Unbracketed)
include hclear

theorem shows_loopKey {loop : Loop} (hloop : label.loop = some loop) {key : String}
    (hrun : loopKey loop = .ok key) : Shows key [] :=
  shows_of_text_only (hclear.loop loop hloop).2 not_mem_keyName hrun

theorem shows_staticClasses {static : String} (hrun : staticClasses label = .ok static) :
    Shows static [] := by
  refine shows_of_text_only hclear.staticClass (fun s hs => ?_) hrun
  rw [String.toList_ofList, List.mem_filter]
  exact fun hmem => hs hmem.1

theorem shows_staticStyles {static : String} (hrun : staticStyles label = .ok static) :
    Shows static [] := by
  refine shows_of_text_only hclear.staticStyle (fun s hs => ?_) hrun
  rw [declarations, String.toList_ofList, List.mem_flatMap]
  rintro ⟨c, hc, hmem⟩
  rw [stripStyle, List.mem_filter] at hc
  split at hmem
  · revert hmem
    decide
  · rw [← List.mem_singleton.mp hmem] at hc
    exact hs hc.1

theorem shows_listenerAttribute {listener : Listener} (hlistener : listener ∈ label.listeners.getD [])
    {written : String}
    (hrun : listenerAttribute (label.tag.orElse (.str "")) listener = .ok written) :
    Shows written [] := by
  obtain ⟨event, hevent, hrun⟩ := bind_eq_ok hrun
  cases hrun
  have hbinder : Shows (binder listener.modifiers) [] := by
    rw [binder]
    split
    · exact shows_literal (by decide)
    · split <;> exact shows_literal (by decide)
  have hname : Shows event [] := by
    rw [eventType_eq_ok hevent, eventName]
    split
    · split <;> exact shows_literal (by decide)
    · split
      · exact shows_literal (by decide)
      · exact shows_literal (hclear.listeners listener hlistener)
  exact (hbinder.append hname).before (shows_literal (by decide))

theorem unbracketed_of_resolveTag {options : Options} (hoptions : options.Unbracketed)
    {resolved : Value} (hrun : resolveTag options label.tag = .ok resolved) : resolved.Unbracketed := by
  have hgiven := hclear.tag
  rw [resolveTag.eq_def] at hrun
  split at hrun
  next tag htag =>
    cases hrun
    rw [htag] at hgiven
    exact hoptions.resolve (Value.unbracketed_str_iff.mp hgiven)
  next =>
    split at hrun
    · cases hrun
    · cases hrun
      exact hgiven

/-- What a component gets does not look like a handle, though it is looked up in brackets, too. -/
theorem shows_componentOf {options : Options} (hoptions : options.Unbracketed) {entry : Import}
    (hentry : referred? options label = some entry) {written : String}
    (hrun : componentOf options label = .ok written) : Shows written [] := by
  obtain ⟨tag, htag, himport⟩ := Tree.exists_of_referred hentry
  obtain ⟨found, hfound, hrun⟩ := bind_eq_ok hrun
  have hsome : found = some entry := by
    rw [htag] at hfound
    exact (Except.ok.inj hfound).symm.trans himport
  rw [hsome] at hrun
  cases hrun
  have hhash := (hoptions.imports entry (List.mem_of_find?_eq_some himport)).plain_hash
  -- the bracket before the blank is no handle, for no underscore comes before it in this piece
  have hopen : Shows "\" data=\"\x7b\x7b...$root[ $kk + " [] :=
    ⟨[], rfl, tells_silent (by decide) (by decide) (by decide)⟩
  exact (((((shows_of_plain hclear.tag.plain_text).behind (shows_literal (by decide))).before
    (shows_of_plain hhash)).before hopen).before (shows_of_plain hclear.component.plain_text)).before
    (shows_literal (by decide))

variable (hnumbered : label.Numbered)
include hnumbered

theorem shows_loopAttributes {written : String} (hrun : loopAttributes label = .ok written) :
    Shows written (label.once label.loop.isSome) := by
  rw [loopAttributes] at hrun
  cases hloop : label.loop with
  | none =>
      rw [hloop] at hrun
      cases hrun
      exact shows_literal (by decide)
  | some loop =>
      rw [hloop] at hrun
      obtain ⟨items, hitems, hrun⟩ := bind_eq_ok hrun
      obtain ⟨key, hkey, hrun⟩ := bind_eq_ok hrun
      cases hrun
      have hindex : Shows
          (if loop.index.truthy then " wx:for-index=\"" ++ loop.index.text ++ "\"" else "") [] := by
        split
        · have htext := shows_of_plain (hclear.loop loop hloop).1.plain_text
          exact htext.between (by decide) (by decide)
        · exact shows_literal (by decide)
      have hkeyed : Shows (if key == "" then "" else " wx:key=\"" ++ key ++ "\"") [] := by
        split
        · exact shows_literal (by decide)
        · exact (shows_loopKey hclear hloop hkey).between (by decide) (by decide)
      have hsource := shows_lookupOf hnumbered (by decide) hitems
      exact ((hsource.between (by decide) (by decide)).before hindex).before hkeyed

theorem shows_classAttribute {written : String} (hrun : classAttribute label = .ok written) :
    Shows written (label.once label.classBound) := by
  obtain ⟨static, hstatic, hrun⟩ := bind_eq_ok hrun
  obtain ⟨bound, hbound, hrun⟩ := bind_eq_ok hrun
  cases hrun
  have htag : Shows ("_" ++ label.tag.text) [] :=
    (shows_of_plain hclear.tag.plain_text).behind (shows_literal (by decide))
  have hparts := showAll_parts hnumbered (shows_staticClasses hclear hstatic) (by decide) hbound
  exact (ShowAll.silent htag hparts).intercalate.between (by decide) (by decide)

theorem shows_styleAttribute {written : String} (hrun : styleAttribute label = .ok written) :
    Shows written (label.once label.styleBound) := by
  obtain ⟨static, hstatic, hrun⟩ := bind_eq_ok hrun
  obtain ⟨bound, hbound, hrun⟩ := bind_eq_ok hrun
  have hparts := showAll_parts hnumbered (shows_staticStyles hclear hstatic) (by decide) hbound
  split at hrun
  next hnone =>
    cases hrun
    rw [hnone] at hparts
    exact hparts.intercalate
  next =>
    cases hrun
    exact hparts.intercalate.between (by decide) (by decide)

theorem showAll_attributeMarkup {attr : Attribute} (hattr : attr ∈ label.attributes)
    {written : Option String} (hrun : attributeMarkup label attr = .ok written) :
    ShowAll written.toList (label.once (SaysBound attr.name)) := by
  obtain ⟨hname, hvalue⟩ := hclear.attributes attr hattr
  rw [attributeMarkup] at hrun
  by_cases hbound : SaysBound attr.name
  · obtain ⟨name, hsome⟩ := Option.isSome_iff_exists.mp ((isSome_boundName? attr.name).mpr hbound)
    rw [isListenerName_of_saysBound hbound, hsome] at hrun
    obtain ⟨handle, hhandle, hrun⟩ := bind_eq_ok hrun
    cases hrun
    rw [decide_eq_true hbound]
    exact .cons (shows_boundAttribute hnumbered (plain_of_boundName? hname hsome) hhandle) .nil
  · have hnone : boundName? attr.name = none := by
      rw [← Option.not_isSome_iff_eq_none, isSome_boundName?]
      exact hbound
    rw [hnone] at hrun
    rw [decide_eq_false hbound]
    split at hrun
    · cases hrun
      exact .nil
    · cases hrun
      have hopen : Shows "=\"" [] := shows_literal (by decide)
      exact .cons ((((shows_of_plain hname).before hopen).append (shows_of_plain hvalue)).before
        (shows_literal (by decide))) .nil

theorem shows_plainAttributes {written : String} (hrun : plainAttributes label = .ok written) :
    Shows written (label.attributes.flatMap fun attr => label.once (SaysBound attr.name)) := by
  obtain ⟨found, hfound, hrun⟩ := bind_eq_ok hrun
  have hpieces : ShowAll (found.filterMap id)
      (label.attributes.flatMap fun attr => label.once (SaysBound attr.name)) := by
    rw [List.filterMap_eq_flatMap_toList]
    exact showAll_of_mapM (fun attr hattr written => showAll_attributeMarkup hclear hnumbered hattr)
      hfound
  split at hrun
  next hnone =>
    cases hrun
    rw [hnone] at hpieces
    exact hpieces.intercalate
  next =>
    cases hrun
    exact hpieces.intercalate.behind (shows_literal (by decide))

theorem shows_listenerAttributes {written : String} (hrun : listenerAttributes label = .ok written) :
    Shows written [] := by
  rw [listenerAttributes] at hrun
  split at hrun
  next =>
    cases hrun
    exact shows_literal (by decide)
  next =>
    obtain ⟨found, hfound, hrun⟩ := bind_eq_ok hrun
    obtain ⟨handle, hhandle, hrun⟩ := bind_eq_ok hrun
    cases hrun
    obtain ⟨n, rfl, -⟩ := number_of_handleOf hnumbered hhandle
    have hpieces := showAll_of_mapM (fun listener hmem written hwritten =>
      ShowAll.cons (shows_listenerAttribute hclear hmem hwritten) .nil) hfound
    rw [List.flatMap_singleton', List.append_nil, List.flatMap_eq_nil_iff.mpr fun _ _ => rfl] at hpieces
    have hhandle : Shows (Value.int n).text [] :=
      shows_literal fun hmem => (inert_int n _ hmem).1 rfl
    exact (hhandle.between (by decide) (by decide)).append hpieces.intercalate

/-- A start tag shows the handle for everything that it binds, in this order. -/
theorem shows_startTag {options : Options} (hoptions : options.Unbracketed) {guard : Option Guard}
    {start tag : String}
    (hrun : startTag options label guard = .ok (start, tag)) :
    Shows start (label.elementUses guard) ∧ Shows tag [] := by
  rw [startTag] at hrun
  split at hrun
  · cases hrun
  · obtain ⟨-, -, hrun⟩ := bind_eq_ok hrun
    obtain ⟨resolved, hresolved, hrun⟩ := bind_eq_ok hrun
    obtain ⟨loop, hloop, hrun⟩ := bind_eq_ok hrun
    obtain ⟨guarded, hguarded, hrun⟩ := bind_eq_ok hrun
    obtain ⟨classes, hclasses, hrun⟩ := bind_eq_ok hrun
    obtain ⟨style, hstyle, hrun⟩ := bind_eq_ok hrun
    obtain ⟨attributes, hattributes, hrun⟩ := bind_eq_ok hrun
    obtain ⟨listeners, hlisteners, hrun⟩ := bind_eq_ok hrun
    obtain ⟨joined, hjoined, hrun⟩ := bind_eq_ok hrun
    cases hrun
    have htag := shows_of_plain (unbracketed_of_resolveTag hclear hoptions hresolved).plain_text
    refine ⟨?_, htag⟩
    rw [eq_join_of_join hjoined]
    apply ShowAll.join
    rw [Label.elementUses, ← List.append_nil (label.attributes.flatMap _)]
    exact .silent (shows_literal (by decide)) (.silent htag
      (.cons (shows_loopAttributes hclear hnumbered hloop)
      (.cons (shows_guardAttribute hnumbered hguarded)
      (.cons (shows_classAttribute hclear hnumbered hclasses)
      (.cons (shows_styleAttribute hclear hnumbered hstyle)
      (.cons (shows_plainAttributes hclear hnumbered hattributes)
      (.silent (shows_listenerAttributes hclear hnumbered hlisteners)
      (.silent (shows_literal (by decide)) .nil))))))))

end

end Markup

/-! ### Nodes -/

namespace Handles

/-- A piece of markup shows some handles. One that is left out as empty is the empty text. -/
def Gives (value : Value) (uses : List Value) : Prop :=
  (value.truthy = false → value.text = "") ∧ Shows value.text uses

theorem gives_str {written : String} {uses : List Value} (hwritten : Shows written uses) :
    Gives (.str written) uses := by
  refine ⟨fun hfalsy => ?_, hwritten⟩
  rw [Value.truthy, bne_eq_false_iff_eq] at hfalsy
  rw [hfalsy]
  rfl

end Handles

namespace Tree

section

variable {label : Label} (hclear : label.Unbracketed) (hnumbered : label.Numbered)
include hclear hnumbered

theorem gives_textOf {value : Value} (hrun : textOf label = .ok value) :
    Gives value (label.once (!label.static)) := by
  rw [textOf] at hrun
  cases hstatic : label.static with
  | true =>
      rw [hstatic] at hrun
      cases hrun
      have hplain := (hclear.text.orElse Value.unbracketed_empty).plain_text
      refine ⟨fun hfalsy => ?_, shows_of_plain hplain⟩
      rw [Value.orElse] at hfalsy ⊢
      split
      next htruthy =>
        rw [if_pos htruthy, htruthy] at hfalsy
        cases hfalsy
      next => rfl
  | false =>
      rw [hstatic] at hrun
      obtain ⟨written, hwritten, hrun⟩ := bind_eq_ok hrun
      cases hrun
      exact gives_str (shows_lookupOf hnumbered (by decide) hwritten)

/-- A node that is rendered itself shows its own handles before those of its children. -/
theorem gives_ownMarkup {options : Options} (hoptions : options.Unbracketed) {guard : Option Guard}
    {children : Except Failure (List Value)} {inner : List Value}
    (hchildren : ∀ values, children = .ok values → ShowAll (values.map Value.text) inner)
    {value : Value} (hrun : ownMarkup options label children guard = .ok value) :
    Gives value (label.uses options guard ++ if label.showsChildren options then inner else []) := by
  rw [Label.uses, Label.showsChildren]
  rcases ownMarkup_eq_ok hrun with ⟨entry, written, hentry, hwritten, rfl⟩ |
    ⟨hentry, hkind, htextOf⟩ | ⟨hentry, hkind, start, tag, values, inner, hstart, hvalues, hinner, rfl⟩
  · rw [hentry]
    exact gives_str (shows_componentOf hclear hoptions hentry hwritten)
  · rw [hentry, hkind]
    simp only [reduceCtorEq, decide_false, Bool.and_false, Bool.false_eq_true, if_false,
      List.append_nil]
    exact gives_textOf hclear hnumbered htextOf
  · rw [hentry, hkind]
    simp only [Option.isNone_none, decide_true, Bool.and_true, if_true]
    obtain ⟨hopen, htag⟩ := shows_startTag hclear hnumbered hoptions hstart
    have hclose : Shows (endTag tag) [] := htag.between (by decide) (by decide)
    rw [eq_join_of_join hinner]
    exact gives_str ((hopen.append (hchildren values hvalues).join).before hclose)

end

end Tree

end MiniTemplate

import MiniTemplate.Proofs.Rendered
/-!
# Nodes that can be read back

Little of what a node says is escaped when it is written, so markup can be read back only if names are
names and values keep clear of the quotes around them. Class and style need no such promise, for they
lose their quotes on the way. Here it is said what a node has to promise, and that the attributes it
becomes can be read back then (`legible_of_mem_attrs`).
-/

namespace MiniTemplate

open Forest

/-- Text that can stand between double quotes. -/
def Quotable (s : String) : Prop :=
  '\x22' ∉ s.toList

instance (s : String) : Decidable (Quotable s) :=
  inferInstanceAs (Decidable (¬ _))

/-- What a node has to keep to when it is written. The names it is written with are names, and the
values that are written as they are can be quoted. -/
structure Label.Writable (options : Options) (label : Label) : Prop where
  tag : ∀ tag, label.tag = .str tag → isName tag = true
  target : ∀ tag target, label.tag = .str tag →
    TagMap.resolve options.tagMap tag = .str target → isName target = true
  name : ∀ attr ∈ label.attributes, Markup.isListenerName attr.name = false →
    isName (Markup.unboundName attr.name) = true
  value : ∀ attr ∈ label.attributes, Markup.isListenerName attr.name = false →
    Markup.boundName? attr.name = none → Quotable attr.value
  event : ∀ listener ∈ label.listeners.getD [], isName listener.event = true
  loop : ∀ loop, label.loop = some loop → Quotable loop.index.text ∧ Quotable loop.key.text
  handle : Quotable label.handle.text
  component : Quotable label.component.text
  text : label.kind = .text → ∃ content, label.text = .str content
    ∧ (label.static = true → '<' ∉ content.toList)

/-- The imports can be written. -/
def Options.Writable (options : Options) : Prop :=
  ∀ entry ∈ options.imports, Quotable entry.source.text ∧ Quotable entry.hash

namespace Quotable

theorem append {first second : String} (hfirst : Quotable first) (hsecond : Quotable second) :
    Quotable (first ++ second) := by
  rw [Quotable, String.toList_append, List.mem_append, not_or]
  exact ⟨hfirst, hsecond⟩

theorem intercalate {separator : String} (hseparator : Quotable separator) {pieces : List String}
    (hpieces : ∀ piece ∈ pieces, Quotable piece) : Quotable (String.intercalate separator pieces) := by
  induction pieces with
  | nil =>
      rw [String.intercalate_nil]
      decide
  | cons piece pieces ih =>
      obtain ⟨hpiece, hrest⟩ := List.forall_mem_cons.mp hpieces
      cases pieces with
      | nil => rwa [String.intercalate_singleton]
      | cons next pieces =>
          rw [String.intercalate_cons_cons]
          exact (hpiece.append hseparator).append (ih hrest)

end Quotable

namespace Markup

/-- A lookup holds the text of the handle, and what it always holds. -/
theorem mem_lookup {handle : Value} {field : String} {c : Char}
    (hmem : c ∈ (lookup handle field).toList) :
    c ∈ handle.text.toList ∨ c ∈ (lookup (.str "") field).toList := by
  simp only [lookup, String.toList_append, List.mem_append] at hmem ⊢
  rcases hmem with (((hmem | hmem) | hmem) | hmem) | hmem
  · exact .inr (.inl (.inl (.inl (.inl hmem))))
  · exact .inl hmem
  · exact .inr (.inl (.inl (.inr hmem)))
  · exact .inr (.inl (.inr hmem))
  · exact .inr (.inr hmem)

theorem quotable_lookup {handle : Value} (hhandle : Quotable handle.text) {field : String}
    (hfield : Quotable (lookup (.str "") field)) : Quotable (lookup handle field) :=
  fun hmem => (mem_lookup hmem).elim hhandle hfield

theorem quotable_keyName {key : String} (hkey : Quotable key) : Quotable (keyName key) := by
  rw [keyName]
  split
  · rename_i rest heq
    rw [Quotable, String.toList_ofList]
    intro hmem
    have hmem' : '\x22' ∈ key.toList.dropWhile Text.isWord := by
      rw [heq]
      exact List.mem_cons_of_mem _ hmem
    exact hkey ((List.dropWhile_sublist Text.isWord).subset hmem')
  · exact hkey

theorem quotable_classText (label : Label) : Quotable (classText label) := by
  rw [Quotable, classText, String.toList_ofList, List.mem_filter]
  simp

/-- A style has lost its quotes, and semicolons bring none back. -/
theorem quotable_styleText (label : Label) : Quotable (styleText label) := by
  rw [Quotable, styleText, declarations, String.toList_ofList, List.mem_flatMap]
  rintro ⟨c, hc, hquote⟩
  have hkept : c ≠ '\x22' := by
    rw [stripStyle, List.mem_filter] at hc
    intro heq
    rw [heq] at hc
    exact absurd hc.2 (by decide)
  split at hquote
  · exact absurd hquote (by decide)
  · exact hkept (List.mem_singleton.mp hquote).symm

theorem quotable_of_mem_parts {label : Label} (hhandle : Quotable label.handle.text) {static : String}
    (hstatic : Quotable static) {bound : Bool} {field : String}
    (hfield : Quotable (lookup (.str "") field)) :
    ∀ part ∈ parts label static bound field, Quotable part := by
  intro part hmem
  rw [parts, List.mem_append] at hmem
  rcases hmem with hmem | hmem
  · split at hmem
    · exact absurd hmem List.not_mem_nil
    · exact List.mem_singleton.mp hmem ▸ hstatic
  · split at hmem
    · exact List.mem_singleton.mp hmem ▸ quotable_lookup hhandle hfield
    · exact absurd hmem List.not_mem_nil

theorem isName_append {first second : String} (hfirst : first.toList.all isNameChar = true)
    (hsecond : isName second = true) : isName (first ++ second) = true := by
  rw [isName, Bool.and_eq_true, Bool.not_eq_true'] at hsecond ⊢
  obtain ⟨hnonempty, hall⟩ := hsecond
  rw [String.toList_append, List.all_append, hfirst, hall]
  refine ⟨?_, rfl⟩
  rw [List.isEmpty_eq_false_iff] at hnonempty ⊢
  exact List.append_ne_nil_of_right_ne_nil _ hnonempty

theorem isName_eventName {event : String} (hevent : isName event = true) (tag : Value) :
    isName (eventName event tag) = true := by
  rw [eventName]
  split
  · split <;> decide
  · split
    · decide
    · exact hevent

/-! ### The attributes of an element -/

theorem legible_of_value {name value : String} (hname : isName name = true) (hvalue : Quotable value) :
    Attr.Legible ⟨name, value⟩ := by
  refine ⟨hname, ?_⟩
  intro written hwritten
  rw [← Option.some.inj hwritten]
  exact hvalue

variable {options : Options} {label : Label}

theorem legible_of_mem_loopAttrs (hwritable : label.Writable options) :
    ∀ attr ∈ loopAttrs label, attr.Legible := by
  intro attr hmem
  rw [loopAttrs] at hmem
  cases hloop : label.loop with
  | none =>
      rw [hloop] at hmem
      exact absurd hmem List.not_mem_nil
  | some loop =>
      obtain ⟨hindex, hkey⟩ := hwritable.loop loop hloop
      rw [hloop] at hmem
      rcases List.mem_cons.mp hmem with rfl | hmem
      · exact legible_of_value (by decide) (quotable_lookup hwritable.handle (by decide))
      · rcases List.mem_append.mp hmem with hmem | hmem
        · split at hmem
          · rw [List.mem_singleton.mp hmem]
            exact legible_of_value (by decide) hindex
          · exact absurd hmem List.not_mem_nil
        · split at hmem
          · exact absurd hmem List.not_mem_nil
          · rw [List.mem_singleton.mp hmem]
            refine legible_of_value (by decide) (quotable_keyName ?_)
            rw [Value.orElse]
            split
            · exact hkey
            · decide

theorem legible_of_mem_guardAttrs (hwritable : label.Writable options) (guard : Option Guard) :
    ∀ attr ∈ guardAttrs label guard, attr.Legible := by
  intro attr hmem
  have htest : Quotable (lookup label.handle "_if") := quotable_lookup hwritable.handle (by decide)
  match guard with
  | none => exact absurd hmem List.not_mem_nil
  | some .ifTrue =>
      rw [List.mem_singleton.mp hmem]
      exact legible_of_value (by decide) htest
  | some .elseIf =>
      rw [List.mem_singleton.mp hmem]
      exact legible_of_value (by decide) htest
  | some .otherwise =>
      rw [List.mem_singleton.mp hmem]
      exact ⟨by decide, nofun⟩

theorem quotable_of_isName {name : String} (hname : isName name = true) : Quotable name := by
  rw [isName, Bool.and_eq_true] at hname
  intro hquote
  exact absurd (List.all_eq_true.mp hname.2 _ hquote) (by decide)

theorem legible_classAttr (hwritable : label.Writable options) {tag : String}
    (htag : label.tag = .str tag) : (classAttr label).Legible := by
  refine legible_of_value (by decide) (Quotable.intercalate (by decide) ?_)
  refine List.forall_mem_cons.mpr ⟨?_, quotable_of_mem_parts hwritable.handle
    (quotable_classText label) (by decide)⟩
  rw [htag]
  exact Quotable.append (by decide) (quotable_of_isName (hwritable.tag tag htag))

theorem legible_of_mem_styleAttrs (hwritable : label.Writable options) :
    ∀ attr ∈ styleAttrs label, attr.Legible := by
  intro attr hmem
  rw [styleAttrs] at hmem
  split at hmem
  · exact absurd hmem List.not_mem_nil
  · rw [List.mem_singleton.mp hmem]
    exact legible_of_value (by decide) (Quotable.intercalate (by decide)
      (quotable_of_mem_parts hwritable.handle (quotable_styleText label) (by decide)))

theorem legible_of_plainAttr (hwritable : label.Writable options) {attr : Attribute}
    (hattr : attr ∈ label.attributes) {found : Attr} (hfound : plainAttr label attr = some found) :
    found.Legible := by
  rw [plainAttr] at hfound
  split at hfound
  · cases hfound
  · rename_i hlistener
    have hplain : isListenerName attr.name = false := Bool.eq_false_iff.mpr hlistener
    have hname := hwritable.name attr hattr hplain
    cases hbound : boundName? attr.name with
    | some name =>
        rw [unboundName, hbound] at hname
        rw [hbound] at hfound
        cases hfound
        have hopen : Quotable "\x7b\x7b _h[ " := by decide
        have hmiddle : Quotable " ][ '" := by decide
        exact legible_of_value hname ((((hopen.append hwritable.handle).append hmiddle).append
          (quotable_of_isName hname)).append (by decide))
    | none =>
        rw [unboundName, hbound] at hname
        rw [hbound] at hfound
        cases hfound
        exact legible_of_value hname (hwritable.value attr hattr hplain hbound)

theorem legible_of_mem_listenerAttrs (hwritable : label.Writable options) :
    ∀ attr ∈ listenerAttrs label, attr.Legible := by
  intro attr hmem
  rw [listenerAttrs] at hmem
  split at hmem
  · exact absurd hmem List.not_mem_nil
  · rcases List.mem_cons.mp hmem with rfl | hmem
    · exact legible_of_value (by decide) (by decide)
    · rcases List.mem_cons.mp hmem with rfl | hmem
      · have hopen : Quotable "\x7b\x7b " := by decide
        exact legible_of_value (by decide) ((hopen.append hwritable.handle).append (by decide))
      · obtain ⟨listener, hlistener, rfl⟩ := List.mem_map.mp hmem
        refine legible_of_value (isName_append ?_ (isName_eventName ?_ label.tag)) (by decide)
        · rw [binder]
          split
          · decide
          · split <;> decide
        · exact hwritable.event listener hlistener

/-- **All attributes of an element that keeps to its promises can be read back.** -/
theorem legible_of_mem_attrs (hwritable : label.Writable options) {tag : String}
    (htag : label.tag = .str tag) (guard : Option Guard) :
    ∀ attr ∈ attrs label guard, attr.Legible := by
  intro attr hmem
  rw [attrs] at hmem
  rcases List.mem_append.mp hmem with hmem | hmem
  · rcases List.mem_append.mp hmem with hmem | hmem
    · exact legible_of_mem_loopAttrs hwritable attr hmem
    · exact legible_of_mem_guardAttrs hwritable guard attr hmem
  · rcases List.mem_cons.mp hmem with rfl | hmem
    · exact legible_classAttr hwritable htag
    · rcases List.mem_append.mp hmem with hmem | hmem
      · rcases List.mem_append.mp hmem with hmem | hmem
        · exact legible_of_mem_styleAttrs hwritable attr hmem
        · obtain ⟨source, hsource, hfound⟩ := List.mem_filterMap.mp hmem
          exact legible_of_plainAttr hwritable hsource hfound
      · exact legible_of_mem_listenerAttrs hwritable attr hmem

end Markup

end MiniTemplate

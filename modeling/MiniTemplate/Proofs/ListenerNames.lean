import Mathlib.Data.List.Nodup
import MiniTemplate.Proofs.LabelFaults
/-!
# Names of listeners

The attributes that listeners become, by their names. A name is the binder followed by the name of the
event on the platform. No binder is the start of another one, so the name tells both
(`listenerAttr_name_eq_iff`); and since the platform has names of its own for some events, two types of
event may come to the same name (`eventName_eq_iff`). These are the only names that can collide.
-/

namespace MiniTemplate.Markup

open Forest

/-! ### Binders -/

def binders : List String := ["catchbind", "capturebind", "bind"]

theorem binder_mem (modifiers : Modifiers) : binder modifiers ∈ binders := by
  rw [binder]
  split
  · decide
  · split <;> decide

theorem binder_append_inj {modifiers others : Modifiers} {event other : String} :
    binder modifiers ++ event = binder others ++ other
      ↔ binder modifiers = binder others ∧ event = other := by
  constructor
  · intro heq
    have hapart : ∀ first ∈ binders, ∀ second ∈ binders,
        first.toList <+: second.toList → first = second := by decide
    have hfirst : (binder modifiers).toList <+: (binder others ++ other).toList := by
      rw [← heq, String.toList_append]
      exact List.prefix_append _ _
    have hsecond : (binder others).toList <+: (binder others ++ other).toList := by
      rw [String.toList_append]
      exact List.prefix_append _ _
    have hsame : binder modifiers = binder others := by
      rcases List.prefix_or_prefix_of_prefix hfirst hsecond with hstart | hstart
      · exact hapart _ (binder_mem modifiers) _ (binder_mem others) hstart
      · exact (hapart _ (binder_mem others) _ (binder_mem modifiers) hstart).symm
    rw [hsame, String.append_right_inj] at heq
    exact ⟨hsame, heq⟩
  · rintro ⟨hbinder, rfl⟩
    rw [hbinder]

/-! ### Events -/

/-- The platform has another name for the event, and that is itself a type of event. -/
def Renamed (tag : Value) (event other : String) : Prop :=
  event = "click" ∧ other = "tap" ∨ reportsOnBlur tag = true ∧ event = "change" ∧ other = "blur"

theorem Renamed.ne {tag : Value} {event other : String} (hrenamed : Renamed tag event other) :
    event ≠ other := by
  rcases hrenamed with ⟨rfl, rfl⟩ | ⟨-, rfl, rfl⟩
  · decide
  · decide

theorem renamed_or_kept (tag : Value) (event : String) :
    Renamed tag event (eventName event tag) ∨ eventName event tag = event := by
  rw [eventName]
  split
  · rename_i hchange
    split
    · rename_i hfield
      exact .inl (.inr ⟨hfield, hchange, rfl⟩)
    · exact .inr hchange.symm
  · split
    · rename_i hclick
      exact .inl (.inl ⟨hclick, rfl⟩)
    · exact .inr rfl

/-- The name that an event gets on the platform stays as it is. -/
theorem Renamed.eventName_eq {tag : Value} {event other : String} (hrenamed : Renamed tag event other) :
    eventName event tag = other ∧ eventName other tag = other := by
  rcases hrenamed with ⟨rfl, rfl⟩ | ⟨hfield, rfl, rfl⟩
  · exact ⟨rfl, rfl⟩
  · rw [eventName, hfield]
    exact ⟨rfl, rfl⟩

theorem Renamed.inj {tag : Value} {first second other : String} (hfirst : Renamed tag first other)
    (hsecond : Renamed tag second other) : first = second := by
  have hapart : "tap" ≠ "blur" := by decide
  rcases hfirst with ⟨rfl, rfl⟩ | ⟨-, rfl, rfl⟩
  · rcases hsecond with ⟨rfl, -⟩ | ⟨-, -, hblur⟩
    · rfl
    · exact absurd hblur hapart
  · rcases hsecond with ⟨-, htap⟩ | ⟨-, rfl, -⟩
    · exact absurd htap.symm hapart
    · rfl

theorem eventName_eq_iff {tag : Value} {event other : String} :
    eventName event tag = eventName other tag
      ↔ event = other ∨ Renamed tag event other ∨ Renamed tag other event := by
  constructor
  · intro hsame
    rcases renamed_or_kept tag event with hfirst | hfirst
    · rw [hsame] at hfirst
      rcases renamed_or_kept tag other with hsecond | hsecond
      · exact .inl (hfirst.inj hsecond)
      · rw [hsecond] at hfirst
        exact .inr (.inl hfirst)
    · rw [hfirst] at hsame
      rcases renamed_or_kept tag other with hsecond | hsecond
      · rw [← hsame] at hsecond
        exact .inr (.inr hsecond)
      · exact .inl (hsame.trans hsecond)
  · rintro (rfl | hrenamed | hrenamed)
    · rfl
    · exact hrenamed.eventName_eq.1.trans hrenamed.eventName_eq.2.symm
    · exact hrenamed.eventName_eq.2.trans hrenamed.eventName_eq.1.symm

theorem reportsOnBlur_iff {tag : Value} :
    reportsOnBlur tag = true ↔ tag = .str "input" ∨ tag = .str "textarea" := by
  cases tag with
  | str s => simp [reportsOnBlur]
  | _ => simp [reportsOnBlur]

/-! ### Names -/

theorem listenerAttr_name_eq_iff {label : Label} {first second : Listener} :
    (listenerAttr label first).name = (listenerAttr label second).name
      ↔ binder first.modifiers = binder second.modifiers
        ∧ (first.event = second.event ∨ Renamed label.tag first.event second.event
          ∨ Renamed label.tag second.event first.event) := by
  rw [listenerAttr, listenerAttr, binder_append_inj, eventName_eq_iff]

/-- The names beside those of the listeners start with no binder. -/
theorem listenerAttr_name_not_mem (label : Label) (listener : Listener) :
    (listenerAttr label listener).name ∉ ["data-cid", "data-hid"] := by
  have hapart : ∀ start ∈ binders, ∀ name ∈ ["data-cid", "data-hid"],
      ¬ start.toList <+: name.toList := by decide
  intro hmem
  refine hapart _ (binder_mem listener.modifiers) _ hmem ?_
  rw [listenerAttr, String.toList_append]
  exact List.prefix_append _ _

/-- Listeners for the two given types of event have the same binder. -/
def ShareBinder (listeners : List Listener) (event other : String) : Prop :=
  ∃ first ∈ listeners, ∃ second ∈ listeners, first.event = event ∧ second.event = other
    ∧ binder first.modifiers = binder second.modifiers

instance (listeners : List Listener) (event other : String) :
    Decidable (ShareBinder listeners event other) :=
  inferInstanceAs (Decidable (∃ first ∈ listeners, _))

theorem nodup_listenerAttr_names_iff {label : Label} {listeners : List Listener}
    (hdistinct : (listeners.map Listener.event).Nodup) :
    ((listeners.map (listenerAttr label)).map Attr.name).Nodup
      ↔ ∀ event other, Renamed label.tag event other → ¬ ShareBinder listeners event other := by
  rw [List.map_map, List.nodup_map_iff_inj_on (.of_map Listener.event hdistinct)]
  simp only [Function.comp_apply, listenerAttr_name_eq_iff]
  constructor
  · rintro hinj event other hrenamed ⟨first, hfirst, second, hsecond, rfl, rfl, hbinder⟩
    have hsame := hinj first hfirst second hsecond ⟨hbinder, .inr (.inl hrenamed)⟩
    exact hrenamed.ne (congrArg Listener.event hsame)
  · rintro hapart first hfirst second hsecond ⟨hbinder, hevent | hrenamed | hrenamed⟩
    · exact List.inj_on_of_nodup_map hdistinct hfirst hsecond hevent
    · exact absurd ⟨first, hfirst, second, hsecond, rfl, rfl, hbinder⟩ (hapart _ _ hrenamed)
    · exact absurd ⟨second, hsecond, first, hfirst, rfl, rfl, hbinder.symm⟩ (hapart _ _ hrenamed)

/-! ### Attributes -/

variable {label : Label}

theorem listenerAttributes_of_handle (hhandle : label.handle.isNull = false)
    (htag : label.tag.isContainer = false) :
    listenerAttributes label = .ok (String.ofList ((listenerAttrs label).flatMap Attr.spell)) := by
  have hfails := failsAs_listenerAttributes htag
  rw [missing, hhandle, Bool.and_false] at hfails
  obtain ⟨written, hwritten⟩ := hfails.exists_ok
  rw [hwritten, ← spell_listenerAttributes hwritten, String.ofList_toList]

theorem listenerAttrs_of_ne_nil {listeners : List Listener}
    (hlisteners : label.listeners = some listeners) (hne : listeners ≠ []) :
    listenerAttrs label =
      ⟨"data-cid", "\x7b\x7b cid \x7d\x7d"⟩
        :: ⟨"data-hid", "\x7b\x7b " ++ label.handle.text ++ " \x7d\x7d"⟩
        :: listeners.map (listenerAttr label) := by
  rw [listenerAttrs, hlisteners]
  cases listeners with
  | nil => exact absurd rfl hne
  | cons listener listeners => rfl

theorem nodup_listenerAttrs_names_iff {listeners : List Listener}
    (hlisteners : label.listeners = some listeners) (hne : listeners ≠ []) :
    ((listenerAttrs label).map Attr.name).Nodup
      ↔ ((listeners.map (listenerAttr label)).map Attr.name).Nodup := by
  have hrest : ∀ name ∈ ["data-cid", "data-hid"],
      name ∉ (listeners.map (listenerAttr label)).map Attr.name := by
    intro name hname hmem
    obtain ⟨attr, hattr, rfl⟩ := List.mem_map.mp hmem
    obtain ⟨listener, -, rfl⟩ := List.mem_map.mp hattr
    exact listenerAttr_name_not_mem label listener hname
  have hapart : "data-cid" ≠ "data-hid" := by decide
  have hcid := hrest "data-cid" (by decide)
  have hhid := hrest "data-hid" (by decide)
  rw [listenerAttrs_of_ne_nil hlisteners hne, List.map_cons, List.map_cons, List.nodup_cons,
    List.nodup_cons, List.mem_cons, not_or]
  exact ⟨fun hall => hall.2.2, fun hnodup => ⟨⟨hapart, hcid⟩, hhid, hnodup⟩⟩

/-- **Two listeners get one name exactly where the platform has one name for their events and they share
a binder.** A node that has a handle, a tag that is no list or object, and listeners for some events of
different types gets the attributes of the component and of the handle and one for every listener, in
order. The names of all these attributes are different unless it listens for `click` and `tap` with the
same binder, or is a text field and does so for `change` and `blur`. -/
theorem listener_names_distinct_iff {listeners : List Listener}
    (hlisteners : label.listeners = some listeners) (hne : listeners ≠ [])
    (hdistinct : (listeners.map Listener.event).Nodup)
    (hhandle : label.handle.isNull = false) (htag : label.tag.isContainer = false) :
    listenerAttributes label = .ok (String.ofList ((listenerAttrs label).flatMap Attr.spell))
      ∧ listenerAttrs label =
        ⟨"data-cid", "\x7b\x7b cid \x7d\x7d"⟩
          :: ⟨"data-hid", "\x7b\x7b " ++ label.handle.text ++ " \x7d\x7d"⟩
          :: listeners.map (fun listener =>
            ⟨binder listener.modifiers ++ eventName listener.event label.tag, "proxyEvent"⟩)
      ∧ (((listenerAttrs label).map Attr.name).Nodup
        ↔ ¬ ShareBinder listeners "click" "tap"
          ∧ (label.tag = .str "input" ∨ label.tag = .str "textarea" →
            ¬ ShareBinder listeners "change" "blur")) := by
  refine ⟨listenerAttributes_of_handle hhandle htag, listenerAttrs_of_ne_nil hlisteners hne, ?_⟩
  rw [nodup_listenerAttrs_names_iff hlisteners hne, nodup_listenerAttr_names_iff hdistinct,
    ← reportsOnBlur_iff]
  constructor
  · intro hapart
    exact ⟨hapart _ _ (.inl ⟨rfl, rfl⟩), fun hfield => hapart _ _ (.inr ⟨hfield, rfl, rfl⟩)⟩
  · rintro ⟨hclick, hchange⟩ event other (⟨rfl, rfl⟩ | ⟨hfield, rfl, rfl⟩)
    · exact hclick
    · exact hchange hfield

/-- A text field that listens for touches under both of their names, and for a change of its text. -/
def searchField (stop : Bool) : Label where
  tag := .str "input"
  handle := .int 3
  listeners := some
    [{ event := "click" }, { event := "change" }, { event := "tap", modifiers := { stop } }]

theorem listener_names_distinct_iff_searchField :
    ((listenerAttrs (searchField true)).map Attr.name).Nodup
      ∧ ¬ ((listenerAttrs (searchField false)).map Attr.name).Nodup
      ∧ listenerAttributes (searchField false) = .ok (" data-cid=\"\x7b\x7b cid \x7d\x7d\""
        ++ " data-hid=\"\x7b\x7b 3 \x7d\x7d\" bindtap=\"proxyEvent\" bindblur=\"proxyEvent\""
        ++ " bindtap=\"proxyEvent\"") := by
  have hlisteners : ∀ stop, (searchField stop).listeners = some
      [{ event := "click" }, { event := "change" }, { event := "tap", modifiers := { stop } }] :=
    fun stop => rfl
  have hdistinct : (["click", "change", "tap"] : List String).Nodup := by decide
  have hiff := fun stop =>
    listener_names_distinct_iff (hlisteners stop) (List.cons_ne_nil _ _) hdistinct rfl rfl
  refine ⟨(hiff true).2.2.mpr ⟨by decide, fun _ => by decide⟩, fun hnodup => ?_, ?_⟩
  · exact ((hiff false).2.2.mp hnodup).1 (by decide)
  · rw [(hiff false).1]
    rfl

end MiniTemplate.Markup

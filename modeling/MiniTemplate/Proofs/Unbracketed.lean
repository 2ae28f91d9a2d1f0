import MiniTemplate.Load.Options
import MiniTemplate.Proofs.CodePoints
import MiniTemplate.Proofs.HandleReader
import MiniTemplate.Proofs.Loaded
import MiniTemplate.Proofs.Stateless
/-!
# Data without brackets

If no text of a document holds an opening bracket, and no name of a field does, then brackets come into
its markup only as those of lists that are written as literals. There a bracket is followed by the first
item or by the closing bracket, and never by a blank. So the text of every value in the data is plain,
and so are all names and values in the labels that are loaded from it.
-/

namespace MiniTemplate

open Handles

namespace Value

mutual

/-- The texts in a value, the names of fields among them. -/
def strings : Value → List String
  | .str s => [s]
  | .list items => itemStrings items
  | .object fields => fieldStrings fields
  | _ => []

def itemStrings : List Value → List String
  | [] => []
  | item :: items => strings item ++ itemStrings items

def fieldStrings : List (String × Value) → List String
  | [] => []
  | (name, value) :: fields => name :: (strings value ++ fieldStrings fields)

end

/-- No text in the value holds an opening bracket. -/
def Unbracketed (v : Value) : Prop :=
  ∀ s ∈ v.strings, '[' ∉ s.toList

instance (v : Value) : Decidable v.Unbracketed :=
  List.decidableBAll (fun s : String => '[' ∉ s.toList) v.strings

theorem mem_itemStrings {s : String} {items : List Value} :
    s ∈ itemStrings items ↔ ∃ item ∈ items, s ∈ item.strings := by
  induction items with
  | nil => simp [itemStrings]
  | cons item items ih => simp [itemStrings, ih]

theorem mem_fieldStrings {s : String} {fields : List (String × Value)} :
    s ∈ fieldStrings fields ↔ ∃ field ∈ fields, s = field.1 ∨ s ∈ field.2.strings := by
  induction fields with
  | nil => simp [fieldStrings]
  | cons field fields ih => simp [fieldStrings, ih, or_assoc]

theorem unbracketed_list_iff {items : List Value} :
    (Value.list items).Unbracketed ↔ ∀ item ∈ items, item.Unbracketed := by
  simp only [Unbracketed, strings, mem_itemStrings]
  exact ⟨fun hall item hitem s hs => hall s ⟨item, hitem, hs⟩,
    fun hall s ⟨item, hitem, hs⟩ => hall item hitem s hs⟩

theorem unbracketed_object_iff {fields : Fields} :
    (Value.object fields).Unbracketed ↔
      ∀ field ∈ fields, '[' ∉ field.1.toList ∧ field.2.Unbracketed := by
  simp only [Unbracketed, strings, mem_fieldStrings]
  constructor
  · intro hall field hfield
    exact ⟨hall field.1 ⟨field, hfield, .inl rfl⟩, fun s hs => hall s ⟨field, hfield, .inr hs⟩⟩
  · rintro hall s ⟨field, hfield, rfl | hs⟩
    · exact (hall field hfield).1
    · exact (hall field hfield).2 s hs

theorem unbracketed_str_iff {s : String} : (Value.str s).Unbracketed ↔ '[' ∉ s.toList := by
  simp [Unbracketed, strings]

theorem unbracketed_null : Value.null.Unbracketed := by decide

theorem unbracketed_empty : (Value.str "").Unbracketed := by decide

theorem Unbracketed.of_part {part whole : Value} (hpart : part.Part whole)
    (hwhole : whole.Unbracketed) : part.Unbracketed := by
  induction hpart with
  | whole => exact hwhole
  | item hmem _ ih => exact ih (unbracketed_list_iff.mp hwhole _ hmem)
  | field hmem _ ih => exact ih (unbracketed_object_iff.mp hwhole _ hmem).2

theorem Unbracketed.orElse {v default : Value} (hv : v.Unbracketed) (hdefault : default.Unbracketed) :
    (v.orElse default).Unbracketed := by
  rw [Value.orElse]
  split
  · exact hv
  · exact hdefault

theorem Unbracketed.get {fields : Fields} (hfields : (Value.object fields).Unbracketed) (key : String) :
    (fields.get key).Unbracketed := by
  rcases fields.part_get key with hnull | hpart
  · rw [hnull]
    exact unbracketed_null
  · exact hfields.of_part hpart

/-! ### The text of a value -/

/-- What literals look like: a plain text that does not start with a blank. -/
structure Tidy (s : String) : Prop where
  plain : Plain s.toList
  head : s.toList.head? ≠ some ' '

theorem tidy_of_not_mem {s : String} (hs : '[' ∉ s.toList) (hhead : s.toList.head? ≠ some ' ') :
    Tidy s :=
  ⟨plain_of_not_mem hs, hhead⟩

theorem Tidy.append {first second : String} (hfirst : Tidy first) (hsecond : Tidy second) :
    Tidy (first ++ second) := by
  constructor
  · rw [String.toList_append]
    exact hfirst.plain.append hsecond.plain
  · rw [String.toList_append, List.head?_append]
    intro hhead
    rcases Option.or_eq_some_iff.mp hhead with hhead | ⟨-, hhead⟩
    · exact hfirst.head hhead
    · exact hsecond.head hhead

theorem tidy_of_inert {s : String} (hs : Inert s) : Tidy s := by
  apply tidy_of_not_mem
  · exact fun hmem => (hs _ hmem).1 rfl
  · exact fun hhead => (hs _ (List.mem_of_head? hhead)).2.1 rfl

theorem not_mem_hexadecimal (width n : Nat) : '[' ∉ Text.Quoted.hexadecimal width n := by
  rw [Text.Quoted.hexadecimal, List.mem_append, not_or]
  constructor
  · intro hmem
    cases (List.mem_replicate.mp hmem).2
  · exact fun hmem => (isInert_of_mem_toDigits (by decide) n _ hmem).1 rfl

theorem not_mem_codePoint (n : Nat) : '[' ∉ Text.Quoted.codePoint n := by
  rw [Text.Quoted.codePoint]
  split
  · simp [not_mem_hexadecimal]
  · split <;> simp [not_mem_hexadecimal]

theorem not_mem_encodeChar {c : Char} (hc : c ≠ '[') (quote : Char) :
    '[' ∉ Text.Quoted.encodeChar quote c := by
  rw [Text.Quoted.encodeChar]
  split
  · simp [Ne.symm hc]
  · split
    · decide
    · split
      · decide
      · split
        · decide
        · split
          · simp [Ne.symm hc]
          · exact not_mem_codePoint c.toNat

theorem not_mem_encodePoint {chars : List Char} (hchars : '[' ∉ chars) {point : Nat}
    (hpoint : point ∈ Text.points chars) (quote : Char) :
    '[' ∉ Text.Quoted.encodePoint quote point := by
  rw [Text.Quoted.encodePoint]
  split
  · exact not_mem_codePoint point
  · rename_i hplain
    refine not_mem_encodeChar ?_ quote
    rcases Text.mem_points hpoint with hmark | ⟨c, hc, rfl⟩
    · -- of the code points with a mark only that of the mark is no surrogate
      obtain rfl : point = Text.mark.toNat := by
        simp only [Text.TakesMark, Text.mark, Char.reduceToNat] at hmark ⊢
        simp only [Text.isSurrogate, Bool.and_eq_true, decide_eq_true_eq] at hplain
        omega
      decide
    · rw [Char.ofNat_toNat]
      rintro rfl
      exact hchars hc

theorem tidy_quoted {s : String} (hs : '[' ∉ s.toList) : Tidy (Text.quoted s) := by
  have hquote : ∀ chars, Text.Quoted.enclosing chars ≠ '[' ∧ Text.Quoted.enclosing chars ≠ ' ' := by
    intro chars
    rw [Text.Quoted.enclosing]
    split <;> decide
  obtain ⟨hbracket, hblank⟩ := hquote s.toList
  have hencoded : (Text.quoted s).toList = Text.Quoted.enclosing s.toList
      :: ((Text.points s.toList).flatMap (Text.Quoted.encodePoint (Text.Quoted.enclosing s.toList))
        ++ [Text.Quoted.enclosing s.toList]) := by
    rw [Text.quoted, String.toList_ofList]
    rfl
  apply tidy_of_not_mem
  · rw [hencoded, List.mem_cons, List.mem_append, List.mem_singleton, List.mem_flatMap]
    rintro (hquote | ⟨point, hpoint, hmem⟩ | hquote)
    · exact hbracket hquote.symm
    · exact not_mem_encodePoint hs hpoint _ hmem
    · exact hbracket hquote.symm
  · rw [hencoded, List.head?_cons, ne_eq, Option.some.injEq]
    exact hblank

/-- The brackets of a list that is written as a literal. -/
theorem Tidy.bracketed {s : String} (hs : Tidy s) : Tidy ("[" ++ s ++ "]") := by
  have hclosed : Tidy (s ++ "]") := hs.append (tidy_of_not_mem (by decide) (by decide))
  have hchars : ("[" ++ s ++ "]").toList = '[' :: (s ++ "]").toList := by
    simp
  constructor
  · rw [hchars]
    have hplain := hclosed.plain
    have hhead := hclosed.head
    cases hrest : (s ++ "]").toList with
    | nil => simp at hrest
    | cons c rest =>
        rw [hrest] at hplain hhead
        refine .bracket ?_ hplain
        rintro rfl
        exact hhead rfl
  · rw [hchars, List.head?_cons]
    decide

mutual

theorem tidy_literal (v : Value) (hv : v.Unbracketed) : Tidy v.literal := by
  cases v with
  | null => exact tidy_of_inert (by decide)
  | bool b => cases b <;> exact tidy_of_inert (by decide)
  | int n => exact tidy_of_inert (inert_int n)
  | float x => exact tidy_of_inert (inert_decimal x)
  | str s => exact tidy_quoted (unbracketed_str_iff.mp hv)
  | list items => exact (tidy_literalItems items (unbracketed_list_iff.mp hv)).bracketed
  | object fields =>
      have hopen : Tidy "\x7b" := tidy_of_not_mem (by decide) (by decide)
      have hclose : Tidy "\x7d" := tidy_of_not_mem (by decide) (by decide)
      exact (hopen.append (tidy_literalFields fields (unbracketed_object_iff.mp hv))).append hclose

theorem tidy_literalItems (items : List Value) (hitems : ∀ item ∈ items, item.Unbracketed) :
    Tidy (literalItems items) := by
  match items with
  | [] => exact tidy_of_not_mem (by decide) (by decide)
  | [v] => exact tidy_literal v (hitems v List.mem_cons_self)
  | v :: next :: rest =>
      obtain ⟨hv, hrest⟩ := List.forall_mem_cons.mp hitems
      have hcomma : Tidy ", " := tidy_of_not_mem (by decide) (by decide)
      exact ((tidy_literal v hv).append hcomma).append (tidy_literalItems (next :: rest) hrest)

theorem tidy_literalFields (fields : List (String × Value))
    (hfields : ∀ field ∈ fields, '[' ∉ field.1.toList ∧ field.2.Unbracketed) :
    Tidy (literalFields fields) := by
  have hcolon : Tidy ": " := tidy_of_not_mem (by decide) (by decide)
  match fields with
  | [] => exact tidy_of_not_mem (by decide) (by decide)
  | [(key, v)] =>
      obtain ⟨hkey, hv⟩ := hfields (key, v) List.mem_cons_self
      exact ((tidy_quoted hkey).append hcolon).append (tidy_literal v hv)
  | (key, v) :: next :: rest =>
      obtain ⟨⟨hkey, hv⟩, hrest⟩ := List.forall_mem_cons.mp hfields
      have hcomma : Tidy ", " := tidy_of_not_mem (by decide) (by decide)
      exact ((((tidy_quoted hkey).append hcolon).append (tidy_literal v hv)).append hcomma).append
        (tidy_literalFields (next :: rest) hrest)

end

theorem Unbracketed.plain_text {v : Value} (hv : v.Unbracketed) : Plain v.text.toList := by
  cases v with
  | str s => exact plain_of_not_mem (unbracketed_str_iff.mp hv)
  | _ => exact (tidy_literal _ hv).plain

end Value

/-! ### Loaded labels -/

/-- What a node says of itself in data without brackets. -/
structure Label.Unbracketed (label : Label) : Prop where
  tag : label.tag.Unbracketed
  attributes : ∀ attr ∈ label.attributes, Plain attr.name.toList ∧ Plain attr.value.toList
  listeners : ∀ listener ∈ label.listeners.getD [], '[' ∉ listener.event.toList
  staticClass : label.staticClass.Unbracketed
  staticStyle : label.staticStyle.Unbracketed
  loop : ∀ loop ∈ label.loop, loop.index.Unbracketed ∧ loop.key.Unbracketed
  text : label.text.Unbracketed
  component : label.component.Unbracketed

namespace Load

theorem plain_of_attributesFrom {place : Place} {index : Nat} {items : List Value}
    (hitems : ∀ item ∈ items, item.Unbracketed) {attributes : List Attribute}
    (hrun : attributesFrom place index items = .ok attributes) :
    ∀ attr ∈ attributes, Plain attr.name.toList ∧ Plain attr.value.toList := by
  induction items generalizing index attributes with
  | nil =>
      cases hrun
      exact fun attr hmem => absurd hmem List.not_mem_nil
  | cons item items ih =>
      obtain ⟨hitem, hrests⟩ := List.forall_mem_cons.mp hitems
      cases item with
      | object fields =>
          rw [attributesFrom] at hrun
          cases hname : Fields.get? fields "name" with
          | none =>
              rw [hname] at hrun
              cases hrun
          | some name =>
              rw [hname] at hrun
              obtain ⟨attr, hattr, hrun⟩ := Markup.bind_eq_ok hrun
              obtain ⟨rest, hrest, hrun⟩ := Markup.bind_eq_ok hrun
              cases hattr
              cases hrun
              have hpart : name.Part (.object fields) :=
                .field (Fields.mem_of_get? hname) (.whole name)
              refine List.forall_mem_cons.mpr ⟨⟨(hitem.of_part hpart).plain_text, ?_⟩, ih hrests hrest⟩
              dsimp only
              split
              · exact .nil
              · exact (hitem.get "value").plain_text
      | _ => cases hrun

theorem plain_of_attributes {place : Place} {fields : Fields}
    (hfields : (Value.object fields).Unbracketed) {found : List Attribute}
    (hrun : attributes place fields = .ok found) :
    ∀ attr ∈ found, Plain attr.name.toList ∧ Plain attr.value.toList := by
  rw [attributes] at hrun
  cases hitems : (fields.get "attrsList").orElse (.list []) with
  | list items =>
      rw [hitems] at hrun
      refine plain_of_attributesFrom (fun item hmem => ?_) hrun
      exact hfields.of_part (Fields.part_of_mem hitems hmem)
  | _ =>
      rw [hitems] at hrun
      cases hrun

theorem event_of_listener {place : Place} {event : String} {handler : Value} {found : Listener}
    (hrun : listener place event handler = .ok found) : found.event = event := by
  rw [listener] at hrun
  split at hrun
  · split at hrun
    · cases hrun
      rfl
    · cases hrun
  · cases hrun

theorem events_of_mapM {place : Place} {events : Fields} {found : List Listener}
    (hrun : events.mapM (fun (event, handler) => listener place event handler) = .ok found) :
    found.map Listener.event = events.map Prod.fst := by
  induction events generalizing found with
  | nil =>
      cases hrun
      rfl
  | cons event events ih =>
      rw [List.mapM_cons] at hrun
      obtain ⟨first, hfirst, hrun⟩ := Markup.bind_eq_ok hrun
      obtain ⟨rest, hrest, hrun⟩ := Markup.bind_eq_ok hrun
      cases hrun
      rw [List.map_cons, List.map_cons, event_of_listener hfirst, ih hrest]

theorem unbracketed_of_listeners {place : Place} {fields : Fields}
    (hfields : (Value.object fields).Unbracketed) {found : Option (List Listener)}
    (hrun : listeners place fields = .ok found) :
    ∀ listener ∈ found.getD [], '[' ∉ listener.event.toList := by
  have hevents := hfields.get "events"
  rw [listeners] at hrun
  cases hget : fields.get "events" with
  | null =>
      rw [hget] at hrun
      cases hrun
      exact fun listener hmem => absurd hmem List.not_mem_nil
  | object events =>
      rw [hget] at hrun hevents
      obtain ⟨listed, hlisted, hrun⟩ := Markup.bind_eq_ok hrun
      cases hrun
      intro listener hmem
      have hnamed : listener.event ∈ listed.map Listener.event := List.mem_map_of_mem hmem
      rw [events_of_mapM hlisted] at hnamed
      obtain ⟨field, hfield, hname⟩ := List.mem_map.mp hnamed
      rw [← hname]
      exact (Value.unbracketed_object_iff.mp hevents field hfield).1
  | _ =>
      rw [hget] at hrun
      cases hrun

theorem unbracketed_of_loop {fields : Fields} (hfields : (Value.object fields).Unbracketed) :
    ∀ loop ∈ loopOf fields, loop.index.Unbracketed ∧ loop.key.Unbracketed := by
  intro loop hloop
  rw [loopOf] at hloop
  split at hloop
  · cases hloop
    exact ⟨hfields.get "iterator1", hfields.get "key"⟩
  · cases hloop

theorem unbracketed_textLabel {fields : Fields} (hfields : (Value.object fields).Unbracketed)
    (type : NodeType) : (textLabel type fields).Unbracketed where
  tag := Value.unbracketed_null
  attributes := fun _ hmem => absurd hmem List.not_mem_nil
  listeners := fun _ hmem => absurd hmem List.not_mem_nil
  staticClass := Value.unbracketed_empty
  staticStyle := Value.unbracketed_empty
  loop := by
    intro loop hloop
    cases hloop
  text := (hfields.get "text").orElse Value.unbracketed_empty
  component := Value.unbracketed_null

theorem unbracketed_of_label {place : Place} {fields : Fields}
    (hfields : (Value.object fields).Unbracketed) {own : Label}
    (hrun : label place fields = .ok own) : own.Unbracketed := by
  obtain ⟨type, -, hrun⟩ := Markup.bind_eq_ok hrun
  cases type with
  | element =>
      change elementLabel place fields = _ at hrun
      rw [elementLabel] at hrun
      cases htag : fields.get "tag" with
      | str tag =>
          have hgiven := hfields.get "tag"
          rw [htag] at hrun hgiven
          obtain ⟨tag, htag, hrun⟩ := Markup.bind_eq_ok hrun
          obtain ⟨attrs, hattrs, hrun⟩ := Markup.bind_eq_ok hrun
          obtain ⟨events, hevents, hrun⟩ := Markup.bind_eq_ok hrun
          cases htag
          cases hrun
          exact
            { tag := hgiven
              attributes := plain_of_attributes hfields hattrs
              listeners := unbracketed_of_listeners hfields hevents
              staticClass := (hfields.get "staticClass").orElse Value.unbracketed_empty
              staticStyle := (hfields.get "staticStyle").orElse Value.unbracketed_empty
              loop := unbracketed_of_loop hfields
              text := Value.unbracketed_empty
              component := hfields.get "_cid" }
      | _ =>
          rw [htag] at hrun
          cases hrun
  | expression =>
      cases hrun
      exact unbracketed_textLabel hfields .expression
  | text =>
      cases hrun
      exact unbracketed_textLabel hfields .text

/-- Without brackets in the data there are none in the labels. -/
theorem unbracketed_of_node {depth : Nat} {place : Place} {data : Value} {log last : Log} {t : Tree}
    (hdata : data.Unbracketed) (hrun : node depth place data log = .ok t last) :
    t.Everywhere fun u => u.label.Unbracketed := by
  refine everywhere_of_fit (fun hpart hwhole => hwhole.of_part hpart) ?_ hdata hrun
  intro load place data log last u hdata hnode
  obtain ⟨fields, rfl, hown⟩ := label_of_nodeWith hnode
  exact unbracketed_of_label hdata hown

end Load

/-! ### Options -/

/-- An import without brackets. Its hash is the text of whatever was given as one. -/
structure Import.Unbracketed (entry : Import) : Prop where
  source : entry.source.Unbracketed
  hash : ∃ given : Value, given.Unbracketed ∧ entry.hash = given.text

/-- Options without brackets in anything that is written. -/
structure Options.Unbracketed (options : Options) : Prop where
  name : options.name.Unbracketed
  imports : ∀ entry ∈ options.imports, entry.Unbracketed
  tagMap : ∀ table ∈ options.tagMap, ∀ field ∈ table, field.2.Unbracketed

theorem Import.Unbracketed.plain_hash {entry : Import} (hentry : entry.Unbracketed) :
    Plain entry.hash.toList := by
  obtain ⟨given, hgiven, htext⟩ := hentry.hash
  rw [htext]
  exact hgiven.plain_text

theorem TagMap.unbracketed_standard : ∀ field ∈ standard, field.2.Unbracketed := by
  decide

theorem Options.Unbracketed.resolve {options : Options} (hoptions : options.Unbracketed) {tag : String}
    (htag : '[' ∉ tag.toList) : (TagMap.resolve options.tagMap tag).Unbracketed := by
  have htable : ∀ field ∈ options.tagMap.getD TagMap.standard, field.2.Unbracketed := by
    cases hmap : options.tagMap with
    | none => exact TagMap.unbracketed_standard
    | some table => exact hoptions.tagMap table hmap
  rw [TagMap.resolve]
  cases hfound : (options.tagMap.getD TagMap.standard).get? tag with
  | none => exact Value.unbracketed_str_iff.mpr htag
  | some value => exact htable _ (Fields.mem_of_get? hfound)

namespace Load

theorem unbracketed_of_importEntry {tag : String} {data : Value} (hdata : data.Unbracketed)
    {entry : Import} (hrun : importEntry tag data = .ok entry) : entry.Unbracketed := by
  cases data with
  | object fields =>
      rw [importEntry] at hrun
      cases hsource : Fields.get? fields "src" with
      | none =>
          rw [hsource] at hrun
          cases hrun
      | some source =>
          rw [hsource] at hrun
          cases hrun
          refine ⟨hdata.of_part (.field (Fields.mem_of_get? hsource) (.whole source)), _, ?_, rfl⟩
          cases hhash : Fields.get? fields "hash" with
          | none => exact Value.unbracketed_empty
          | some hash => exact hdata.of_part (.field (Fields.mem_of_get? hhash) (.whole hash))
  | _ => cases hrun

theorem unbracketed_of_imports {entries : Fields} (hentries : (Value.object entries).Unbracketed)
    {imports : List Import}
    (hrun : entries.mapM (fun (tag, entry) => importEntry tag entry) = .ok imports) :
    ∀ entry ∈ imports, entry.Unbracketed := by
  rw [Value.unbracketed_object_iff] at hentries
  induction entries generalizing imports with
  | nil =>
      cases hrun
      exact fun entry hmem => absurd hmem List.not_mem_nil
  | cons field entries ih =>
      obtain ⟨hfield, hrests⟩ := List.forall_mem_cons.mp hentries
      rw [List.mapM_cons] at hrun
      obtain ⟨first, hfirst, hrun⟩ := Markup.bind_eq_ok hrun
      obtain ⟨rest, hrest, hrun⟩ := Markup.bind_eq_ok hrun
      cases hrun
      exact List.forall_mem_cons.mpr ⟨unbracketed_of_importEntry hfield.2 hfirst, ih hrests hrest⟩

theorem options_eq_ok {data : Value} {found : Options} (hrun : options data = .ok found) :
    ∃ fields : Fields, data = .object fields
      ∧ (∃ entries : Fields, (fields.get "imports").orElse (.object []) = .object entries
        ∧ entries.mapM (fun (tag, entry) => importEntry tag entry) = .ok found.imports)
      ∧ (fields.get "name").orElse (.str "defaultName") = found.name ∧ found.tagMap = none := by
  rw [options.eq_def] at hrun
  split at hrun
  next fields =>
    split at hrun
    next entries hentries =>
      obtain ⟨imports, himports, hrun⟩ := Markup.bind_eq_ok hrun
      split at hrun
      next name hname =>
        split at hrun
        next items hitems =>
          split at hrun
          · cases hrun
            exact ⟨fields, rfl, ⟨entries, hentries, himports⟩, hname, rfl⟩
          · cases hrun
        next => cases hrun
      next => cases hrun
    next => cases hrun
  next => cases hrun

/-- Options that are loaded from data without brackets have none. -/
theorem unbracketed_of_options {data : Value} (hdata : data.Unbracketed) {found : Options}
    (hrun : options data = .ok found) : found.Unbracketed := by
  obtain ⟨fields, rfl, ⟨entries, hentries, himports⟩, hname, hmap⟩ := options_eq_ok hrun
  have hnone : (Value.object []).Unbracketed := by decide
  have hdefault : (Value.str "defaultName").Unbracketed := by decide
  constructor
  · rw [← hname]
    exact (hdata.get "name").orElse hdefault
  · refine unbracketed_of_imports ?_ himports
    rw [← hentries]
    exact (hdata.get "imports").orElse hnone
  · intro table htable
    rw [hmap] at htable
    cases htable

end Load

end MiniTemplate

import Mathlib.Data.List.Basic
import MiniTemplate.Markup.Attribute
/-!
# Style objects

A style is given as the compact text of an object, a property and its value in each entry. What is
written is a list of declarations. The conversion knows nothing of entries: quotes and braces go, and
every comma becomes a semicolon and a blank. So it is a conversion of each piece by itself
(`declarations_intercalate`), and the list of declarations comes out as it stands in the object, but for
the commas inside of the properties and values. No comma is left (`comma_not_mem_declarations`), hence
there may be none in them if the declarations are to be those of the object.
-/

namespace MiniTemplate.Markup

/-! ### Objects and declarations -/

/-- A text that is written into an object as it is, and of which nothing is stripped. -/
def Unmarked (s : String) : Prop :=
  ∀ c ∈ s.toList, c ≠ '\x22' ∧ c ≠ '\x7b' ∧ c ≠ '\x7d'

instance (s : String) : Decidable (Unmarked s) :=
  List.decidableBAll (fun c => c ≠ '\x22' ∧ c ≠ '\x7b' ∧ c ≠ '\x7d') s.toList

/-- The compact text of an object with texts for its values. -/
def styleObject (entries : List (String × String)) : String :=
  "\x7b" ++ String.intercalate ","
    (entries.map fun entry => "\"" ++ entry.1 ++ "\":\"" ++ entry.2 ++ "\"") ++ "\x7d"

def declaration (entry : String × String) : String :=
  entry.1 ++ ":" ++ entry.2

/-- The attribute with the given declarations, followed by what is bound. -/
def declaredStyle (label : Label) (pieces : List String) : String :=
  " style=\"" ++ (String.intercalate "; " pieces
    ++ if label.styleBound then " " ++ lookup label.handle "st" else "") ++ "\""

/-! ### What is stripped -/

theorem stripStyle_append (first second : String) :
    stripStyle (first ++ second) = stripStyle first ++ stripStyle second := by
  rw [stripStyle, String.toList_append, List.filter_append]
  rfl

theorem stripStyle_of_unmarked {s : String} (hs : Unmarked s) : stripStyle s = s.toList := by
  apply List.filter_eq_self.mpr
  intro c hc
  have hkept := hs c hc
  simp [hkept]

theorem stripStyle_entry {entry : String × String} (hentry : Unmarked entry.1 ∧ Unmarked entry.2) :
    stripStyle ("\"" ++ entry.1 ++ "\":\"" ++ entry.2 ++ "\"") = (declaration entry).toList := by
  have hquote : stripStyle "\"" = [] := by decide
  have hcolon : stripStyle "\":\"" = [':'] := by decide
  simp only [stripStyle_append, hquote, hcolon, stripStyle_of_unmarked hentry.1,
    stripStyle_of_unmarked hentry.2, declaration, String.toList_append]
  simp

theorem stripStyle_intercalate {entries : List (String × String)}
    (hentries : ∀ entry ∈ entries, Unmarked entry.1 ∧ Unmarked entry.2) :
    stripStyle (String.intercalate ","
      (entries.map fun entry => "\"" ++ entry.1 ++ "\":\"" ++ entry.2 ++ "\"")) =
      (String.intercalate "," (entries.map declaration)).toList := by
  induction entries with
  | nil => rfl
  | cons entry rest ih =>
      obtain ⟨hentry, hrest⟩ := List.forall_mem_cons.mp hentries
      cases rest with
      | nil =>
          simp only [List.map_cons, List.map_nil, String.intercalate_singleton]
          exact stripStyle_entry hentry
      | cons next rest =>
          have hcomma : stripStyle "," = ",".toList := by decide
          have htail := ih hrest
          simp only [List.map_cons] at htail ⊢
          rw [String.intercalate_cons_cons, String.intercalate_cons_cons, stripStyle_append,
            stripStyle_append, stripStyle_entry hentry, hcomma, htail, String.toList_append,
            String.toList_append]

/-- Without its marks an object is its declarations with commas between them. -/
theorem stripStyle_styleObject {entries : List (String × String)}
    (hentries : ∀ entry ∈ entries, Unmarked entry.1 ∧ Unmarked entry.2) :
    stripStyle (styleObject entries) =
      (String.intercalate "," (entries.map declaration)).toList := by
  have hopen : stripStyle "\x7b" = [] := by decide
  have hclose : stripStyle "\x7d" = [] := by decide
  rw [styleObject, stripStyle_append, stripStyle_append, hopen, hclose,
    stripStyle_intercalate hentries, List.nil_append, List.append_nil]

/-! ### What becomes of commas -/

theorem declarations_append (first second : List Char) :
    declarations (first ++ second) = declarations first ++ declarations second := by
  rw [declarations, List.flatMap_append, String.ofList_append]
  rfl

theorem declarations_intercalate (pieces : List String) :
    declarations (String.intercalate "," pieces).toList =
      String.intercalate "; " (pieces.map fun piece => declarations piece.toList) := by
  induction pieces with
  | nil => rfl
  | cons piece pieces ih =>
      cases pieces with
      | nil => simp only [List.map_cons, List.map_nil, String.intercalate_singleton]
      | cons next pieces =>
          have hcomma : declarations ",".toList = "; " := by decide
          simp only [List.map_cons] at ih ⊢
          rw [String.intercalate_cons_cons, String.intercalate_cons_cons, String.toList_append,
            String.toList_append, declarations_append, declarations_append, hcomma, ih]

theorem declarations_of_not_mem {chars : List Char} (hcomma : ',' ∉ chars) :
    declarations chars = String.ofList chars := by
  have hsame : ∀ c ∈ chars, (if c == ',' then [';', ' '] else [c]) = [c] := by
    intro c hc
    have hne : c ≠ ',' := fun heq => hcomma (heq ▸ hc)
    simp [hne]
  rw [declarations, List.flatMap_congr hsame, List.flatMap_singleton']

/-- No comma is left in a list of declarations. -/
theorem comma_not_mem_declarations (chars : List Char) : ',' ∉ (declarations chars).toList := by
  rw [declarations, String.toList_ofList, List.mem_flatMap]
  intro hmem
  obtain ⟨c, -, hc⟩ := hmem
  split at hc
  · simp at hc
  · rename_i hne
    rw [List.mem_singleton.mp hc] at hne
    exact hne (beq_self_eq_true c)

theorem mem_intercalate {c : Char} (separator : String) {pieces : List String} {piece : String}
    (hpiece : piece ∈ pieces) (hc : c ∈ piece.toList) :
    c ∈ (String.intercalate separator pieces).toList := by
  induction pieces with
  | nil => exact absurd hpiece List.not_mem_nil
  | cons first pieces ih =>
      cases pieces with
      | nil =>
          rw [String.intercalate_singleton]
          exact List.mem_singleton.mp hpiece ▸ hc
      | cons next pieces =>
          rw [String.intercalate_cons_cons, String.toList_append, String.toList_append]
          rcases List.mem_cons.mp hpiece with hfirst | hrest
          · exact List.mem_append_left _ (List.mem_append_left _ (hfirst ▸ hc))
          · exact List.mem_append_right _ (ih hrest)

/-- Pieces come out as they are exactly if there is no comma in any of them. -/
theorem intercalate_declarations_eq_iff (pieces : List String) :
    String.intercalate "; " (pieces.map fun piece => declarations piece.toList) =
        String.intercalate "; " pieces
      ↔ ∀ piece ∈ pieces, ',' ∉ piece.toList := by
  constructor
  · intro hsame piece hpiece hcomma
    have hnone := comma_not_mem_declarations (String.intercalate "," pieces).toList
    rw [declarations_intercalate, hsame] at hnone
    exact hnone (mem_intercalate "; " hpiece hcomma)
  · intro hnone
    have hpieces : pieces.map (fun piece => declarations piece.toList) = pieces.map id := by
      apply List.map_congr_left
      intro piece hpiece
      rw [declarations_of_not_mem (hnone piece hpiece), String.ofList_toList]
      rfl
    rw [hpieces, List.map_id]

/-! ### The attribute -/

theorem styleAttribute_of_static {label : Label} {static : String}
    (hstatic : staticStyles label = .ok static) (hne : static ≠ "")
    (hhandle : label.styleBound = true → label.handle.isNull = false) :
    styleAttribute label = .ok (" style=\"" ++ (static
      ++ if label.styleBound then " " ++ lookup label.handle "st" else "") ++ "\"") := by
  have hset : (static == "") = false := beq_false_of_ne hne
  rw [styleAttribute, hstatic]
  cases hbound : label.styleBound with
  | false => simp [bind, Except.bind, pure, Except.pure, boundPart, hset]
  | true =>
      have hsome := hhandle hbound
      simp [bind, Except.bind, pure, Except.pure, boundPart, lookupOf, handleOf, hset, hsome,
        String.append_assoc]

/-- The entries of an object are declared with every comma in them replaced. -/
theorem staticStyles_styleObject {label : Label} {entries : List (String × String)}
    (hentries : ∀ entry ∈ entries, Unmarked entry.1 ∧ Unmarked entry.2)
    (hstyle : label.staticStyle = .str (styleObject entries)) :
    staticStyles label = .ok (String.intercalate "; "
      ((entries.map declaration).map fun piece => declarations piece.toList)) := by
  have htruthy : (Value.str (styleObject entries)).truthy = true := by
    have hne : styleObject entries ≠ "" := by
      intro hempty
      have hlength := congrArg String.length hempty
      simp [styleObject] at hlength
    simpa [Value.truthy] using hne
  rw [staticStyles, hstyle, Value.orElse, if_pos htruthy, ← declarations_intercalate,
    ← stripStyle_styleObject hentries]

theorem intercalate_declarations_ne_empty {entries : List (String × String)} (hne : entries ≠ []) :
    String.intercalate "; " ((entries.map declaration).map fun piece => declarations piece.toList)
      ≠ "" := by
  intro hempty
  obtain ⟨entry, hentry⟩ := List.exists_mem_of_ne_nil entries hne
  have hpiece : declarations (declaration entry).toList ∈
      (entries.map declaration).map fun piece => declarations piece.toList :=
    List.mem_map_of_mem (List.mem_map_of_mem hentry)
  have hcolon : ':' ∈ (declarations (declaration entry).toList).toList := by
    rw [declarations, String.toList_ofList, List.mem_flatMap]
    exact ⟨':', by simp [declaration], by decide⟩
  have hmem := mem_intercalate "; " hpiece hcolon
  rw [hempty, String.toList_empty] at hmem
  exact absurd hmem List.not_mem_nil

theorem comma_not_mem_declaration {entry : String × String} :
    ',' ∉ (declaration entry).toList ↔ ',' ∉ entry.1.toList ∧ ',' ∉ entry.2.toList := by
  simp [declaration]

/-- **Every comma of a style object separates declarations**, also one inside of a property or a value:
the style attribute holds the declarations of the entries with the commas in them replaced. They are the
declarations of the entries exactly if there is no comma in any of them. -/
theorem styleObject_declared_iff {label : Label} {entries : List (String × String)}
    (hne : entries ≠ []) (hentries : ∀ entry ∈ entries, Unmarked entry.1 ∧ Unmarked entry.2)
    (hstyle : label.staticStyle = .str (styleObject entries))
    (hhandle : label.styleBound = true → label.handle.isNull = false) :
    styleAttribute label = .ok (declaredStyle label
        ((entries.map declaration).map fun piece => declarations piece.toList))
      ∧ (styleAttribute label = .ok (declaredStyle label (entries.map declaration))
        ↔ ∀ entry ∈ entries, ',' ∉ entry.1.toList ∧ ',' ∉ entry.2.toList) := by
  have hwritten := styleAttribute_of_static (staticStyles_styleObject hentries hstyle)
    (intercalate_declarations_ne_empty hne) hhandle
  have hsame : ∀ first second : List String,
      declaredStyle label first = declaredStyle label second
        ↔ String.intercalate "; " first = String.intercalate "; " second := by
    intro first second
    rw [declaredStyle, declaredStyle, String.append_left_inj, String.append_right_inj,
      String.append_left_inj]
  refine ⟨hwritten, ?_⟩
  rw [hwritten, Except.ok.injEq]
  refine (hsame _ _).trans ?_
  rw [intercalate_declarations_eq_iff, List.forall_mem_map]
  simp only [comma_not_mem_declaration]

/-- The entries of a style with a border of the given colour. -/
def bordered (colour : String) : List (String × String) :=
  [("border", colour), ("margin", "0 4px")]

/-- An element with these entries, and with a binding beside them. -/
def framed (colour : String) : Label where
  tag := .str "p"
  staticStyle := .str (styleObject (bordered colour))
  styleBound := true
  handle := .int 2

theorem unmarked_bordered {colour : String} (hcolour : Unmarked colour) :
    ∀ entry ∈ bordered colour, Unmarked entry.1 ∧ Unmarked entry.2 := by
  have hborder : Unmarked "border" := by decide
  have hmargin : Unmarked "margin" ∧ Unmarked "0 4px" := by decide
  rw [bordered, List.forall_mem_cons, List.forall_mem_singleton]
  exact ⟨⟨hborder, hcolour⟩, hmargin⟩

theorem styleObject_declared_iff_framed :
    bordered "red" ≠ [] ∧ (∀ entry ∈ bordered "red", Unmarked entry.1 ∧ Unmarked entry.2)
    ∧ (framed "red").styleBound = true ∧ (framed "red").handle.isNull = false
    ∧ styleAttribute (framed "red") =
      .ok " style=\"border:red; margin:0 4px \x7b\x7b _h[ 2 ].st \x7d\x7d\"" := by
  have hne : bordered "red" ≠ [] := List.cons_ne_nil _ _
  have hentries := unmarked_bordered (show Unmarked "red" by decide)
  have hcommas : ∀ entry ∈ bordered "red", ',' ∉ entry.1.toList ∧ ',' ∉ entry.2.toList := by decide
  have hstyle : (framed "red").staticStyle = .str (styleObject (bordered "red")) := rfl
  have hdeclared := (styleObject_declared_iff hne hentries hstyle fun _ => rfl).2.mpr hcommas
  exact ⟨hne, hentries, rfl, rfl, hdeclared⟩

/-- The parts of a colour are taken for declarations. -/
theorem colour_parts_separated :
    (∀ entry ∈ bordered "rgb(1,2,3)", Unmarked entry.1 ∧ Unmarked entry.2)
    ∧ styleAttribute (framed "rgb(1,2,3)") =
      .ok " style=\"border:rgb(1; 2; 3); margin:0 4px \x7b\x7b _h[ 2 ].st \x7d\x7d\""
    ∧ styleAttribute (framed "rgb(1,2,3)") ≠
      .ok (declaredStyle (framed "rgb(1,2,3)") ((bordered "rgb(1,2,3)").map declaration)) := by
  have hwritten : styleAttribute (framed "rgb(1,2,3)") =
      .ok " style=\"border:rgb(1; 2; 3); margin:0 4px \x7b\x7b _h[ 2 ].st \x7d\x7d\"" := by rfl
  have hother : " style=\"border:rgb(1; 2; 3); margin:0 4px \x7b\x7b _h[ 2 ].st \x7d\x7d\"" ≠
      declaredStyle (framed "rgb(1,2,3)") ((bordered "rgb(1,2,3)").map declaration) := by decide
  refine ⟨unmarked_bordered (by decide), hwritten, ?_⟩
  rw [hwritten]
  exact fun hsame => hother (Except.ok.inj hsame)

end MiniTemplate.Markup

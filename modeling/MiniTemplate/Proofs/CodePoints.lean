import Mathlib.Data.String.Basic
import MiniTemplate.Diagnostic
import MiniTemplate.Text.Utf8
/-!
# Texts in their code

Texts are kept in a code with two characters for some code points. Nothing is lost in it: the code
points can be read off again (`points_ofPoints`), so texts that differ are kept apart. Texts are joined
in the code as they are outside of it (`ofPoints_append`), and come in the same order
(`ofPoints_lt_iff`). A text can be encoded in bytes exactly if no surrogate is among its code points
(`exists_encode_iff`).
-/

namespace MiniTemplate

namespace Text

variable {point : Nat} {text : String}

/-! ### Spellings -/

/-- A number that is a code point. -/
def IsPoint (point : Nat) : Prop :=
  point < 0x110000

/-- A code point that is spelled by two characters. -/
def TakesMark (point : Nat) : Prop :=
  mark.toNat ≤ point ∧ point < 0xe000

theorem spelling_of_takesMark (hmark : TakesMark point) :
    spelling point = [mark, Char.ofNat (point + markedDistance)] := by
  obtain ⟨hlow, hhigh⟩ := hmark
  rw [spelling, if_pos]
  simp only [mark, Char.reduceToNat, isSurrogate, Bool.or_eq_true, beq_iff_eq, Bool.and_eq_true,
    decide_eq_true_eq] at hlow ⊢
  omega

theorem spelling_of_not_takesMark (hplain : ¬ TakesMark point) :
    spelling point = [Char.ofNat point] := by
  rw [spelling, if_neg]
  simp only [TakesMark, mark, Char.reduceToNat, isSurrogate, Bool.or_eq_true, beq_iff_eq,
    Bool.and_eq_true, decide_eq_true_eq] at hplain ⊢
  omega

theorem toNat_ofNat (hvalid : point.isValidChar) : (Char.ofNat point).toNat = point := by
  rw [Char.ofNat, dif_pos hvalid]
  rfl

theorem toNat_ofNat_of_not_takesMark (hpoint : IsPoint point) (hplain : ¬ TakesMark point) :
    (Char.ofNat point).toNat = point := by
  apply toNat_ofNat
  simp only [IsPoint, TakesMark, mark, Char.reduceToNat, Nat.isValidChar] at hpoint hplain ⊢
  omega

theorem toNat_ofNat_of_takesMark (hmark : TakesMark point) :
    (Char.ofNat (point + markedDistance)).toNat = point + markedDistance := by
  apply toNat_ofNat
  simp only [TakesMark, mark, Char.reduceToNat, Nat.isValidChar, markedDistance] at hmark ⊢
  omega

theorem points_cons_of_ne {c : Char} (hc : c ≠ mark) (chars : List Char) :
    points (c :: chars) = c.toNat :: points chars := by
  cases chars with
  | nil => rfl
  | cons next chars => rw [points, if_neg (by simp [hc])]

/-- A code point can be read off its spelling, whatever follows. -/
theorem points_spelling_append (hpoint : IsPoint point) (chars : List Char) :
    points (spelling point ++ chars) = point :: points chars := by
  by_cases hmark : TakesMark point
  · have hnext := toNat_ofNat_of_takesMark hmark
    rw [spelling_of_takesMark hmark, List.cons_append, List.singleton_append, points, if_pos, hnext,
      Nat.add_sub_cancel]
    obtain ⟨hlow, hhigh⟩ := hmark
    simp only [beq_self_eq_true, isMarked, hnext, Bool.true_and, Bool.and_eq_true, decide_eq_true_eq]
    omega
  · have hchar := toNat_ofNat_of_not_takesMark hpoint hmark
    rw [spelling_of_not_takesMark hmark, List.singleton_append, points_cons_of_ne, hchar]
    intro hsame
    rw [hsame] at hchar
    exact hmark ⟨Nat.le_of_eq hchar, hchar ▸ by decide⟩

/-- **A text can be read off its code.** -/
theorem points_ofPoints {text : List Nat} (htext : ∀ point ∈ text, IsPoint point) :
    points (ofPoints text).toList = text := by
  rw [ofPoints, String.toList_ofList]
  induction text with
  | nil => rfl
  | cons point text ih =>
      obtain ⟨hpoint, hrest⟩ := List.forall_mem_cons.mp htext
      rw [List.flatMap_cons, points_spelling_append hpoint, ih hrest]

theorem ofPoints_append (first second : List Nat) :
    ofPoints (first ++ second) = ofPoints first ++ ofPoints second := by
  rw [ofPoints, List.flatMap_append, String.ofList_append]
  rfl

/-! ### Order -/

theorem char_lt_iff {a b : Char} : a < b ↔ a.toNat < b.toNat :=
  Iff.rfl

theorem spelling_append_lt {first second : Nat} (hlt : first < second) (hsecond : IsPoint second)
    (chars others : List Char) : spelling first ++ chars < spelling second ++ others := by
  have hfirst : IsPoint first := Nat.lt_trans hlt hsecond
  by_cases hmark : TakesMark first
  · rw [spelling_of_takesMark hmark]
    by_cases hmark' : TakesMark second
    · -- the marks are the same, and the characters behind them are in order
      rw [spelling_of_takesMark hmark']
      refine List.cons_lt_cons_iff.mpr (.inr ⟨rfl, List.cons_lt_cons_iff.mpr (.inl ?_)⟩)
      rw [char_lt_iff, toNat_ofNat_of_takesMark hmark, toNat_ofNat_of_takesMark hmark']
      exact Nat.add_lt_add_right hlt _
    · rw [spelling_of_not_takesMark hmark']
      refine List.cons_lt_cons_iff.mpr (.inl ?_)
      rw [char_lt_iff, toNat_ofNat_of_not_takesMark hsecond hmark']
      exact Nat.lt_of_le_of_lt hmark.1 hlt
  · rw [spelling_of_not_takesMark hmark]
    by_cases hmark' : TakesMark second
    · rw [spelling_of_takesMark hmark']
      refine List.cons_lt_cons_iff.mpr (.inl ?_)
      rw [char_lt_iff, toNat_ofNat_of_not_takesMark hfirst hmark]
      exact Nat.lt_of_not_le fun hlow => hmark ⟨hlow, Nat.lt_trans hlt hmark'.2⟩
    · rw [spelling_of_not_takesMark hmark']
      refine List.cons_lt_cons_iff.mpr (.inl ?_)
      rw [char_lt_iff, toNat_ofNat_of_not_takesMark hfirst hmark,
        toNat_ofNat_of_not_takesMark hsecond hmark']
      exact hlt

theorem ofPoints_lt {first second : List Nat} (hsecond : ∀ point ∈ second, IsPoint point)
    (hlt : first < second) : ofPoints first < ofPoints second := by
  rw [String.lt_iff_toList_lt, ofPoints, ofPoints, String.toList_ofList, String.toList_ofList]
  induction hlt with
  | @nil point second =>
      rw [List.flatMap_nil, List.flatMap_cons]
      by_cases hmark : TakesMark point
      · rw [spelling_of_takesMark hmark]
        exact List.nil_lt_cons _ _
      · rw [spelling_of_not_takesMark hmark]
        exact List.nil_lt_cons _ _
  | rel hlt =>
      rw [List.flatMap_cons, List.flatMap_cons]
      exact spelling_append_lt hlt (hsecond _ List.mem_cons_self) _ _
  | cons _ ih =>
      rw [List.flatMap_cons, List.flatMap_cons]
      exact List.append_left_lt (ih fun point hmem => hsecond point (List.mem_cons_of_mem _ hmem))

/-- **Texts in the code are in the order of the texts.** -/
theorem ofPoints_lt_iff {first second : List Nat} (hfirst : ∀ point ∈ first, IsPoint point)
    (hsecond : ∀ point ∈ second, IsPoint point) :
    ofPoints first < ofPoints second ↔ first < second := by
  refine ⟨fun hlt => ?_, ofPoints_lt hsecond⟩
  rcases lt_trichotomy first second with hless | rfl | hmore
  · exact hless
  · exact absurd hlt (lt_irrefl (ofPoints first))
  · exact absurd hlt (lt_asymm (ofPoints_lt hfirst hmore))

/-! ### Code points of any characters -/

theorem mem_points {chars : List Char} (hmem : point ∈ points chars) :
    TakesMark point ∨ ∃ c ∈ chars, point = c.toNat := by
  induction chars using points.induct with
  | case1 => exact absurd hmem List.not_mem_nil
  | case2 c =>
      rw [points, List.mem_singleton] at hmem
      exact .inr ⟨c, List.mem_singleton_self c, hmem⟩
  | case3 c next chars hmarked ih =>
      rw [points, if_pos hmarked] at hmem
      rcases List.mem_cons.mp hmem with hpoint | hmem
      · simp only [isMarked, Bool.and_eq_true, decide_eq_true_eq] at hmarked
        obtain ⟨-, hlow, hhigh⟩ := hmarked
        refine .inl ⟨?_, ?_⟩ <;> omega
      · refine (ih hmem).imp_right ?_
        rintro ⟨c, hc, rfl⟩
        exact ⟨c, List.mem_cons_of_mem _ (List.mem_cons_of_mem _ hc), rfl⟩
  | case4 c next chars hmarked ih =>
      rw [points, if_neg hmarked] at hmem
      rcases List.mem_cons.mp hmem with hpoint | hmem
      · exact .inr ⟨c, List.mem_cons_self, hpoint⟩
      · refine (ih hmem).imp_right ?_
        rintro ⟨c, hc, rfl⟩
        exact ⟨c, List.mem_cons_of_mem _ hc, rfl⟩

theorem points_of_unmarked {chars : List Char} (hchars : mark ∉ chars) :
    points chars = chars.map Char.toNat := by
  induction chars with
  | nil => rfl
  | cons c chars ih =>
      rw [List.mem_cons, not_or] at hchars
      rw [points_cons_of_ne (Ne.symm hchars.1), ih hchars.2, List.map_cons]

/-! ### Bytes -/

/-- A surrogate is among the code points of a text. -/
def HoldsSurrogate (text : String) : Prop :=
  ∃ point ∈ points text.toList, isSurrogate point = true

instance (text : String) : Decidable (HoldsSurrogate text) :=
  inferInstanceAs (Decidable (∃ point ∈ points text.toList, isSurrogate point = true))

namespace Utf8

theorem unwritable?_eq_none_iff (position : Nat) (points : List Nat) :
    unwritable? position points = none ↔ ¬ ∃ point ∈ points, isSurrogate point = true := by
  induction points generalizing position with
  | nil => simp [unwritable?]
  | cons point points ih =>
      rw [unwritable?]
      cases hpoint : isSurrogate point with
      | true => simp [hpoint]
      | false => simp [hpoint, ih]

/-- **A text can be encoded exactly if it holds no surrogate.** -/
theorem exists_encode_iff : (∃ bytes, encode text = .ok bytes) ↔ ¬ HoldsSurrogate text := by
  rw [HoldsSurrogate, ← unwritable?_eq_none_iff 0, encode]
  cases unwritable? 0 (points text.toList) <;> simp

/-- Where there is no mark, a text has the bytes of its characters. -/
theorem encode_of_unmarked (htext : mark ∉ text.toList) : encode text = .ok text.toUTF8 := by
  have hpoints := points_of_unmarked htext
  have hnone : unwritable? 0 (text.toList.map Char.toNat) = none := by
    rw [unwritable?_eq_none_iff]
    rintro ⟨point, hmem, hpoint⟩
    obtain ⟨c, -, rfl⟩ := List.mem_map.mp hmem
    simp only [isSurrogate, Bool.and_eq_true, decide_eq_true_eq] at hpoint
    rcases c.valid with hbelow | ⟨habove, -⟩
    · exact absurd hpoint.1 (Nat.not_le.mpr hbelow)
    · exact absurd hpoint.2 (Nat.not_lt.mpr habove)
  have hchars : (text.toList.map Char.toNat).map Char.ofNat = text.toList := by
    rw [List.map_map]
    exact (List.map_congr_left fun c _ => Char.ofNat_toNat c).trans (List.map_id _)
  simp only [encode, hpoints, hnone, hchars, String.ofList_toList]

end Utf8

theorem not_holdsSurrogate_of_unmarked (htext : mark ∉ text.toList) : ¬ HoldsSurrogate text :=
  Utf8.exists_encode_iff.mp ⟨_, Utf8.encode_of_unmarked htext⟩

/-! ### Texts that are put together -/

theorem unmarked_append {first second : String} (hfirst : mark ∉ first.toList)
    (hsecond : mark ∉ second.toList) : mark ∉ (first ++ second).toList := by
  rw [String.toList_append, List.mem_append, not_or]
  exact ⟨hfirst, hsecond⟩

theorem unmarked_escape (htext : mark ∉ text.toList) : mark ∉ (escape text).toList := by
  have hreference : ∀ c, mark ∈ Escape.reference c → mark = c := by
    intro c hmem
    rw [Escape.reference] at hmem
    repeat' split at hmem
    all_goals first
      | exact List.mem_singleton.mp hmem
      | exact absurd hmem (by decide)
  rw [escape, String.toList_ofList, List.mem_flatMap]
  rintro ⟨c, hc, hmem⟩
  exact htext (hreference c hmem ▸ hc)

theorem unmarked_trimEnd (htext : mark ∉ text.toList) : mark ∉ (trimEnd text).toList := by
  rw [trimEnd, String.toList_ofList, List.mem_reverse]
  intro hmem
  exact htext (List.mem_reverse.mp ((List.dropWhile_sublist _).mem hmem))

end Text

/-- A diagnostic document holds no mark that its name or its error does not hold. -/
theorem Report.unmarked_document {report : Report} {name : Value}
    (hname : Text.mark ∉ name.text.toList) (hkind : Text.mark ∉ report.kind.toList)
    (htext : Text.mark ∉ report.text.toList) : Text.mark ∉ (report.document name).toList := by
  have hqualified : Text.mark ∉ report.qualifiedKind.toList := by
    rw [qualifiedKind]
    split
    · exact Text.unmarked_append (by decide) hkind
    · exact hkind
  have hline : Text.mark ∉ report.traceLine.toList := by
    rw [traceLine]
    split
    · exact hqualified
    · exact Text.unmarked_append (Text.unmarked_append hqualified (by decide)) htext
  have hheading : Text.mark ∉ (if report.raised then traceHeading else "").toList := by
    split <;> decide
  have hsummary : Text.mark ∉ report.summary.toList :=
    Text.unmarked_append (Text.unmarked_append hkind (by decide)) htext
  have htrace : Text.mark ∉ report.trace.toList :=
    Text.unmarked_trimEnd (Text.unmarked_append hheading hline)
  have hstart : Text.mark ∉ (envelopeStart name).toList :=
    Text.unmarked_append (Text.unmarked_append (by decide) (Text.unmarked_escape hname)) (by decide)
  unfold Report.document
  exact Text.unmarked_append (Text.unmarked_append (Text.unmarked_append (Text.unmarked_append
    (Text.unmarked_append hstart (by decide)) (Text.unmarked_escape hsummary)) (by decide))
    (Text.unmarked_escape htrace)) (by decide)

end MiniTemplate

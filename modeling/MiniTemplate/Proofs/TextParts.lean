import Mathlib.Data.List.DropRight
import MiniTemplate.Text.Blank
/-!
# Parts of a text

A text can be taken apart at a separator if what stands before it is known not to hold one. At its end
a text may be blank; what is left without these blanks is a start of the text, and it is all of it up to
the last character that is not blank.
-/

namespace MiniTemplate.Text

/-! ### Separators -/

/-- A separator that is not in the start of a text stands behind it. -/
theorem exists_between_of_append {separator : Char} {start first left right : List Char}
    (hstart : separator ∉ start) (heq : first ++ separator :: left = start ++ right) :
    ∃ between, first = start ++ between ∧ right = between ++ separator :: left := by
  rcases List.append_eq_append_iff.mp heq with ⟨between, hsplit, hleft⟩ | hbehind
  · cases between with
    | nil => exact ⟨[], by simpa using hsplit.symm, hleft.symm⟩
    | cons c between =>
        have hmem : separator ∈ start := by
          rw [hsplit, (List.cons.inj hleft).1]
          exact List.mem_append_right first List.mem_cons_self
        exact absurd hmem hstart
  · exact hbehind

/-- Two texts are cut alike at their first separator. -/
theorem eq_of_append_separator {separator : Char} {first second left right : List Char}
    (hfirst : separator ∉ first) (hsecond : separator ∉ second)
    (heq : first ++ separator :: left = second ++ separator :: right) :
    first = second ∧ left = right := by
  obtain ⟨between, rfl, hright⟩ := exists_between_of_append hsecond heq
  cases between with
  | nil => exact ⟨List.append_nil second, (List.cons.inj hright).2.symm⟩
  | cons c between =>
      rw [(List.cons.inj hright).1] at hfirst
      exact absurd (List.mem_append_right second List.mem_cons_self) hfirst

/-! ### Blanks at the end -/

/-- A text and what it is without the blanks at its end. -/
def IsTrimmed (s trimmed : String) : Prop :=
  (∃ blanks, s = trimmed ++ blanks ∧ ∀ c ∈ blanks.toList, isBlank c = true)
    ∧ ∀ c, trimmed.toList.getLast? = some c → isBlank c = false

theorem toList_trimEnd (s : String) : (trimEnd s).toList = s.toList.rdropWhile isBlank :=
  String.toList_ofList

theorem trimEnd_prefix (s : String) : (trimEnd s).toList <+: s.toList := by
  rw [toList_trimEnd]
  exact List.rdropWhile_prefix isBlank s.toList

theorem isTrimmed_trimEnd (s : String) : IsTrimmed s (trimEnd s) := by
  constructor
  · refine ⟨String.ofList (s.toList.rtakeWhile isBlank), ?_, ?_⟩
    · rw [← String.toList_inj, String.toList_append, toList_trimEnd, String.toList_ofList,
        List.rdropWhile_append_rtakeWhile]
    · intro c hc
      rw [String.toList_ofList] at hc
      exact List.mem_rtakeWhile_imp hc
  · intro c hc
    rw [toList_trimEnd] at hc
    obtain ⟨hne, rfl⟩ := List.mem_getLast?_eq_getLast hc
    exact eq_false_of_ne_true (List.rdropWhile_last_not isBlank s.toList hne)

/-- What stands up to a character that is not blank is kept. -/
theorem rdropWhile_append_cons {before after : List Char} {c : Char} (hc : isBlank c = false) :
    (before ++ c :: after).rdropWhile isBlank = before ++ c :: after.rdropWhile isBlank := by
  have hlast : ([c] ++ before.reverse).dropWhile isBlank = [c] ++ before.reverse :=
    List.dropWhile_cons_of_neg (by simp [hc])
  have hbehind : (before ++ c :: after).reverse = after.reverse ++ ([c] ++ before.reverse) := by simp
  rw [List.rdropWhile, List.rdropWhile, hbehind, List.dropWhile_append, hlast]
  split
  · rename_i hempty
    rw [List.isEmpty_iff.mp hempty]
    simp
  · simp

end MiniTemplate.Text

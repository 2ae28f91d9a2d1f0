import Mathlib.Data.List.Basic
import MiniTemplate.Text.Escape
/-!
# Escaped text can be read back

Escaping replaces five characters by references. It leaves none of the characters that end a text or a
quoted value, and the references are told apart from everything else by the ampersand, which is itself
replaced.
-/

namespace MiniTemplate.Text

namespace Escape

/-- Reads the references back. An ampersand that opens none of them stands for itself. -/
def resolve : List Char → List Char
  | '&' :: 'a' :: 'm' :: 'p' :: ';' :: rest => '&' :: resolve rest
  | '&' :: 'l' :: 't' :: ';' :: rest => '<' :: resolve rest
  | '&' :: 'g' :: 't' :: ';' :: rest => '>' :: resolve rest
  | '&' :: '#' :: '3' :: '4' :: ';' :: rest => '\x22' :: resolve rest
  | '&' :: '#' :: '3' :: '9' :: ';' :: rest => '\x27' :: resolve rest
  | c :: rest => c :: resolve rest
  | [] => []

theorem resolve_cons_of_ne {c : Char} (hc : c ≠ '&') (rest : List Char) :
    resolve (c :: rest) = c :: resolve rest := by
  rw [resolve.eq_def]
  split <;> simp_all

/-- The characters that escaping replaces. -/
def replaced : List Char := ['&', '<', '>', '\x22', '\x27']

theorem reference_of_not_mem_replaced {c : Char} (hc : c ∉ replaced) : reference c = [c] := by
  simp only [replaced, List.mem_cons, List.not_mem_nil, or_false, not_or] at hc
  simp [reference, hc]

theorem resolve_reference (c : Char) (rest : List Char) :
    resolve (reference c ++ rest) = c :: resolve rest := by
  by_cases hc : c ∈ replaced
  · simp only [replaced, List.mem_cons, List.not_mem_nil, or_false] at hc
    rcases hc with rfl | rfl | rfl | rfl | rfl <;> rfl
  · rw [reference_of_not_mem_replaced hc]
    refine resolve_cons_of_ne ?_ rest
    intro hamp
    exact hc (hamp ▸ by decide)

theorem resolve_flatMap_reference (chars : List Char) :
    resolve (chars.flatMap reference) = chars := by
  induction chars with
  | nil => rfl
  | cons c chars ih => rw [List.flatMap_cons, resolve_reference, ih]

/-- No reference holds a character that is replaced, the ampersand apart. -/
theorem not_mem_reference {special : Char} (hspecial : special ∈ ['<', '>', '\x22', '\x27'])
    (c : Char) : special ∉ reference c := by
  by_cases hc : c ∈ replaced
  · have hall : (replaced.all fun c => ['<', '>', '\x22', '\x27'].all fun d =>
        !(reference c).contains d) = true := by decide
    have hone := List.all_eq_true.mp (List.all_eq_true.mp hall c hc) special hspecial
    simpa using hone
  · rw [reference_of_not_mem_replaced hc, List.mem_singleton]
    rintro rfl
    exact hc (List.mem_cons_of_mem '&' hspecial)

end Escape

/-- The text that an escaped text stands for. -/
def unescape (s : String) : String :=
  String.ofList (Escape.resolve s.toList)

theorem unescape_escape (s : String) : unescape (escape s) = s := by
  rw [unescape, escape, String.toList_ofList, Escape.resolve_flatMap_reference, String.ofList_toList]

theorem escape_inj {first second : String} : escape first = escape second ↔ first = second := by
  constructor
  · intro heq
    rw [← unescape_escape first, heq, unescape_escape]
  · exact congrArg escape

/-- A text in which nothing is replaced. -/
def Unreplaced (s : String) : Prop :=
  ∀ c ∈ s.toList, c ∉ Escape.replaced

instance (s : String) : Decidable (Unreplaced s) :=
  List.decidableBAll (fun c => c ∉ Escape.replaced) s.toList

theorem escape_of_unreplaced {s : String} (hs : Unreplaced s) : escape s = s := by
  have hsame : ∀ c ∈ s.toList, Escape.reference c = [c] :=
    fun c hc => Escape.reference_of_not_mem_replaced (hs c hc)
  rw [escape, List.flatMap_congr hsame, List.flatMap_singleton', String.ofList_toList]

theorem escape_ne_empty {s : String} (hs : s ≠ "") : escape s ≠ "" := by
  intro hempty
  have hback := unescape_escape s
  rw [hempty] at hback
  exact hs hback.symm

theorem escape_append (first second : String) :
    escape (first ++ second) = escape first ++ escape second := by
  rw [escape, String.toList_append, List.flatMap_append, String.ofList_append]
  rfl

theorem not_mem_escape {special : Char} (hspecial : special ∈ ['<', '>', '\x22', '\x27'])
    (s : String) : special ∉ (escape s).toList := by
  rw [escape, String.toList_ofList, List.mem_flatMap]
  rintro ⟨c, -, hmem⟩
  exact Escape.not_mem_reference hspecial c hmem

end MiniTemplate.Text

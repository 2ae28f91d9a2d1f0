import Mathlib.Data.Nat.Basic
import MiniTemplate.Text.Escape
import MiniTemplate.Value.Literal
/-!
# Handles in a text

Where markup looks something up, the handle of a node stands in it as `_h[ 7 ]`. Here the handles are
read back, from any text: whatever stands without blanks between `_h[ ` and ` ]` is one.

A text is put together from pieces, and a handle could come about where two of them meet. That it does
not is seen from the pieces alone: a bracket is followed, in the same piece, by something that is no
blank (`Plain`), or the piece is one that looks something up and starts with braces. What such a piece
says does not depend on the pieces before and behind it (`Tells`), so the handles of the whole text are
those of its pieces.
-/

namespace MiniTemplate.Handles

/-- The handle with which a text starts. -/
def at? : List Char → Option String
  | '_' :: 'h' :: '[' :: ' ' :: chars =>
    match chars.dropWhile (· != ' ') with
    | ' ' :: ']' :: _ => some (String.ofList (chars.takeWhile (· != ' ')))
    | _ => none
  | _ => none

/-- All handles of a text, from left to right. -/
def read : List Char → List String
  | [] => []
  | c :: chars =>
    match at? (c :: chars) with
    | some id => id :: read chars
    | none => read chars

/-! ### Pieces of text -/

/-- Every bracket is followed by a character that is no blank. -/
inductive Plain : List Char → Prop where
  | nil : Plain []
  | char {c : Char} {chars : List Char} (hc : c ≠ '[') (hchars : Plain chars) : Plain (c :: chars)
  | bracket {c : Char} {chars : List Char} (hc : c ≠ ' ') (hchars : Plain (c :: chars)) :
      Plain ('[' :: c :: chars)

/-- What can follow a piece: it neither starts like the bracket of a handle, nor does it so behind its
first character. -/
def Fresh (rest : List Char) : Prop :=
  ¬ ['[', ' '] <+: rest ∧ ¬ ['[', ' '] <+: rest.tail

/-- A piece of text holds some handles, whatever follows it. -/
def Tells (piece : List Char) (ids : List String) : Prop :=
  ∀ rest, Fresh rest → Fresh (piece ++ rest) ∧ read (piece ++ rest) = ids ++ read rest

theorem at?_of_ne {c : Char} (hc : c ≠ '_') (chars : List Char) : at? (c :: chars) = none := by
  rw [at?.eq_def]
  split
  next heq => exact absurd (List.cons.inj heq).1 hc
  next => rfl

theorem read_of_not_mem {silent : List Char} (hsilent : '_' ∉ silent) (chars : List Char) :
    read (silent ++ chars) = read chars := by
  induction silent with
  | nil => rfl
  | cons c silent ih =>
      rw [List.mem_cons, not_or] at hsilent
      rw [List.cons_append, read, at?_of_ne (Ne.symm hsilent.1)]
      exact ih hsilent.2

theorem read_cons_of_fresh (c : Char) {chars : List Char} (hchars : Fresh chars) :
    read (c :: chars) = read chars := by
  have hnone : at? (c :: chars) = none := by
    rw [at?.eq_def]
    split
    next heq =>
      obtain ⟨-, rfl⟩ := List.cons.inj heq
      exact absurd ⟨_, rfl⟩ hchars.2
    next => rfl
  rw [read, hnone]

theorem fresh_nil : Fresh [] := by
  simp [Fresh]

theorem Fresh.cons {c : Char} (hc : c ≠ '[') {chars : List Char} (hchars : ¬ ['[', ' '] <+: chars) :
    Fresh (c :: chars) := by
  refine ⟨fun hstart => ?_, hchars⟩
  rw [List.cons_prefix_cons] at hstart
  exact hc hstart.1.symm

theorem fresh_of_ne {c d : Char} (hc : c ≠ '[') (hd : d ≠ '[') (chars : List Char) :
    Fresh (c :: d :: chars) := by
  refine .cons hc fun hstart => ?_
  rw [List.cons_prefix_cons] at hstart
  exact hd hstart.1.symm

/-! ### What a piece tells -/

theorem Tells.append {first second : List Char} {ids more : List String} (hfirst : Tells first ids)
    (hsecond : Tells second more) : Tells (first ++ second) (ids ++ more) := by
  intro rest hrest
  obtain ⟨hfresh, hread⟩ := hsecond rest hrest
  obtain ⟨hfresh', hread'⟩ := hfirst (second ++ rest) hfresh
  rw [List.append_assoc, List.append_assoc, ← hread]
  exact ⟨hfresh', hread'⟩

theorem Plain.tells {piece : List Char} (hpiece : Plain piece) : Tells piece [] := by
  intro rest hrest
  induction hpiece with
  | nil => exact ⟨hrest, rfl⟩
  | @char c chars hc hchars ih =>
      obtain ⟨hfresh, hread⟩ := ih
      exact ⟨.cons hc hfresh.1, (read_cons_of_fresh c hfresh).trans hread⟩
  | @bracket c chars hc hchars ih =>
      obtain ⟨hfresh, hread⟩ := ih
      refine ⟨⟨fun hstart => ?_, hfresh.1⟩, ?_⟩
      · rw [List.cons_append, List.cons_append, List.cons_prefix_cons, List.cons_prefix_cons] at hstart
        exact hc hstart.2.1.symm
      · have hsilent : '_' ∉ ['['] := by decide
        exact (read_of_not_mem hsilent _).trans hread

/-- A piece without underscores may hold any brackets but at its beginning. -/
theorem tells_silent {c d : Char} {chars : List Char} (hc : c ≠ '[') (hd : d ≠ '[')
    (hsilent : '_' ∉ c :: d :: chars) : Tells (c :: d :: chars) [] := by
  intro rest _
  exact ⟨fresh_of_ne hc hd (chars ++ rest), read_of_not_mem hsilent rest⟩

theorem at?_handle {id : List Char} (hid : ' ' ∉ id) (rest : List Char) :
    at? ('_' :: 'h' :: '[' :: ' ' :: (id ++ ' ' :: ']' :: rest)) = some (String.ofList id) := by
  have hpos : ∀ c ∈ id, (c != ' ') = true := by
    intro c hc
    rw [bne_iff_ne]
    rintro rfl
    exact hid hc
  rw [at?, List.dropWhile_append_of_pos hpos, List.takeWhile_append_of_pos hpos]
  simp

/-- A piece that looks something up tells the handle. -/
theorem tells_handle {id close : List Char} (hblank : ' ' ∉ id) (hid : '_' ∉ id)
    (hclose : '_' ∉ close) :
    Tells ('\x7b' :: '\x7b' :: ' ' :: '_' :: 'h' :: '[' :: ' ' :: (id ++ ' ' :: ']' :: close))
      [String.ofList id] := by
  intro rest _
  constructor
  · exact fresh_of_ne (by decide) (by decide) _
  · have hopen : ('\x7b' :: '\x7b' :: ' ' :: '_' :: 'h' :: '[' :: ' ' :: (id ++ ' ' :: ']' :: close))
        ++ rest = ['\x7b', '\x7b', ' ']
          ++ '_' :: 'h' :: '[' :: ' ' :: (id ++ ' ' :: ']' :: (close ++ rest)) := by
      simp
    have hbehind : 'h' :: '[' :: ' ' :: (id ++ ' ' :: ']' :: (close ++ rest)) =
        ('h' :: '[' :: ' ' :: (id ++ ' ' :: ']' :: close)) ++ rest := by
      simp
    rw [hopen, read_of_not_mem (by decide), read, at?_handle hblank, hbehind, read_of_not_mem]
    · rfl
    · simp [hid, hclose]

/-! ### Plain text -/

theorem plain_of_not_mem {chars : List Char} (hchars : '[' ∉ chars) : Plain chars := by
  induction chars with
  | nil => exact .nil
  | cons c chars ih =>
      rw [List.mem_cons, not_or] at hchars
      exact .char (Ne.symm hchars.1) (ih hchars.2)

theorem Plain.append {first second : List Char} (hfirst : Plain first) (hsecond : Plain second) :
    Plain (first ++ second) := by
  induction hfirst with
  | nil => exact hsecond
  | char hc _ ih => exact .char hc ih
  | bracket hc _ ih => exact .bracket hc ih

theorem Plain.of_cons {c : Char} {chars : List Char} (hchars : Plain (c :: chars)) : Plain chars := by
  cases hchars with
  | char _ hchars => exact hchars
  | bracket _ hchars => exact hchars

theorem plain_reference {c : Char} (hc : c ≠ '[') : Plain (Text.Escape.reference c) := by
  apply plain_of_not_mem
  rw [Text.Escape.reference]
  repeat' split
  any_goals decide
  rw [List.mem_singleton]
  exact Ne.symm hc

theorem reference_head {c : Char} (hc : c ≠ ' ') :
    ∃ first rest, Text.Escape.reference c = first :: rest ∧ first ≠ ' ' := by
  rw [Text.Escape.reference]
  repeat' split
  all_goals first | exact ⟨c, [], rfl, hc⟩ | exact ⟨'&', _, rfl, by decide⟩

/-- Escaping keeps a text plain. -/
theorem Plain.escape {chars : List Char} (hchars : Plain chars) :
    Plain (chars.flatMap Text.Escape.reference) := by
  induction hchars with
  | nil => exact .nil
  | char hc _ ih => exact (plain_reference hc).append ih
  | bracket hc _ ih =>
      obtain ⟨first, rest, hreference, hfirst⟩ := reference_head hc
      rw [List.flatMap_cons, hreference, List.cons_append] at ih
      rw [List.flatMap_cons, List.flatMap_cons, hreference, List.cons_append]
      exact .bracket hfirst ih

/-! ### Numbers -/

/-- A character that has no part in a handle but as one of its digits. -/
def IsInert (c : Char) : Prop :=
  c ≠ '[' ∧ c ≠ ' ' ∧ c ≠ '_'

instance (c : Char) : Decidable (IsInert c) :=
  inferInstanceAs (Decidable (_ ∧ _))

theorem isInert_digitChar (d : Nat) : IsInert (Nat.digitChar d) := by
  rcases Nat.lt_or_ge d 16 with hlt | hge
  · have hdigits : ∀ d < 16, IsInert (Nat.digitChar d) := by decide
    exact hdigits d hlt
  · have hstar : Nat.digitChar d = '*' := by
      unfold Nat.digitChar
      repeat rw [if_neg (by omega)]
    rw [hstar]
    decide

/-- A text of inert characters. -/
def Inert (s : String) : Prop :=
  ∀ c ∈ s.toList, IsInert c

instance (s : String) : Decidable (Inert s) :=
  List.decidableBAll IsInert s.toList

theorem Inert.append {first second : String} (hfirst : Inert first) (hsecond : Inert second) :
    Inert (first ++ second) := by
  intro c hc
  rw [String.toList_append, List.mem_append] at hc
  exact hc.elim (hfirst c) (hsecond c)

theorem inert_ofList {chars : List Char} (hchars : ∀ c ∈ chars, IsInert c) :
    Inert (String.ofList chars) := by
  intro c hc
  rw [String.toList_ofList] at hc
  exact hchars c hc

theorem isInert_of_mem_toDigits {base : Nat} (hbase : 1 < base) (n : Nat) :
    ∀ c ∈ Nat.toDigits base n, IsInert c := by
  induction n using Nat.strong_induction_on with
  | _ n ih =>
      rw [Nat.toDigits_eq_if hbase]
      split
      · intro c hc
        rw [List.mem_singleton.mp hc]
        exact isInert_digitChar n
      · intro c hc
        rcases List.mem_append.mp hc with hc | hc
        · exact ih (n / base) (Nat.div_lt_self (by omega) hbase) c hc
        · rw [List.mem_singleton.mp hc]
          exact isInert_digitChar (n % base)

theorem inert_repr (n : Nat) : Inert n.repr := by
  rw [Nat.repr_eq_ofList_toDigits]
  exact inert_ofList (isInert_of_mem_toDigits (by decide) n)

theorem inert_int (n : Int) : Inert (toString n) := by
  cases n with
  | ofNat m => exact inert_repr m
  | negSucc m => exact Inert.append (by decide) (inert_repr (m + 1))

theorem inert_zeros (n : Nat) : Inert (String.ofList (List.replicate n '0')) := by
  apply inert_ofList
  intro c hc
  rw [(List.mem_replicate.mp hc).2]
  decide

theorem inert_positional {digits : List Char} (hdigits : ∀ c ∈ digits, IsInert c) (whole : Int) :
    Inert (Decimal.positional digits whole) := by
  rw [Decimal.positional]
  split
  · exact Inert.append (Inert.append (by decide) (inert_zeros _)) (inert_ofList hdigits)
  · split
    · exact Inert.append (Inert.append (inert_ofList hdigits) (inert_zeros _)) (by decide)
    · refine Inert.append (Inert.append (inert_ofList ?_) (by decide)) (inert_ofList ?_)
      · exact fun c hc => hdigits c (List.mem_of_mem_take hc)
      · exact fun c hc => hdigits c (List.mem_of_mem_drop hc)

theorem inert_scientific {digits : List Char} (hdigits : ∀ c ∈ digits, IsInert c) (exponent : Int) :
    Inert (Decimal.scientific digits exponent) := by
  have hfirst : Inert (String.ofList (digits.take 1)) :=
    inert_ofList fun c hc => hdigits c (List.mem_of_mem_take hc)
  rw [Decimal.scientific]
  refine ((((hfirst.append ?_).append (by decide)).append ?_).append (inert_zeros _)).append
    (inert_repr _)
  · split
    · decide
    · exact Inert.append (by decide) (inert_ofList fun c hc => hdigits c (List.mem_of_mem_drop hc))
  · split <;> decide

theorem inert_decimal (x : Float) : Inert (Decimal.text x) := by
  have hlayout : ∀ d : Decimal.Digits, Inert d.layout := by
    intro d
    have hdigits := isInert_of_mem_toDigits (show 1 < 10 by decide) d.digits
    rw [Decimal.Digits.layout]
    split
    · exact inert_positional hdigits _
    · exact inert_scientific hdigits _
  have hsign : ∀ bits magnitude : UInt64, Inert (if bits == magnitude then "" else "-") := by
    intro bits magnitude
    split <;> decide
  rw [Decimal.text]
  split
  · decide
  · split
    · exact (hsign _ _).append (by decide)
    · split
      · exact (hsign _ _).append (by decide)
      · exact (hsign _ _).append (hlayout _)

end MiniTemplate.Handles

import MiniTemplate.Proofs.Forest
import MiniTemplate.Text.Blank
/-!
# Reading tags

A reader of markup that knows nothing of templates. It goes through the characters once and keeps what
it is in the middle of: a text, a tag, the name or the value of an attribute. A value stands between
double quotes, and every other character in it is part of it. Names may hold neither blanks nor any
character that has a meaning in a tag, attributes are set apart by blanks, and an element ends where
the tag that closes it is that of the element opened last.

A forest whose names and values can stand in tags is read back in its normal form (`read_spell`).
-/

namespace MiniTemplate.Forest

/-! ### Tokens -/

/-- The characters that have a meaning in tags. -/
def reserved : List Char := ['\x22', '\x27', '<', '>', '/', '=']

def isNameChar (c : Char) : Bool :=
  !Text.isBlank c && !reserved.contains c

/-- What the reader is in the middle of. -/
inductive Mode where
  | text (content : List Char)
  /-- behind the character that opens a tag -/
  | opened
  | closing (tag : List Char)
  | tag (tag : List Char)
  /-- behind a blank in a tag -/
  | gap (tag : String) (attributes : List Attr)
  | name (tag : String) (attributes : List Attr) (name : List Char)
  /-- behind the equals sign of an attribute -/
  | assigned (tag : String) (attributes : List Attr) (name : String)
  | value (tag : String) (attributes : List Attr) (name : String) (value : List Char)
  /-- behind the quote that ends a value -/
  | quoted (tag : String) (attributes : List Attr)
  /-- behind the slash of a tag that closes itself -/
  | slash (tag : String) (attributes : List Attr)

/-- What comes behind the name of a tag or behind an attribute. -/
def boundary (tag : String) (attributes : List Attr) (c : Char) : Option (List Token × Mode) :=
  if Text.isBlank c then some ([], .gap tag attributes)
  else if c = '/' then some ([], .slash tag attributes)
  else if c = '>' then some ([.opening tag attributes], .text [])
  else none

def step : Mode → Char → Option (List Token × Mode)
  | .text content, c =>
    if c = '<' then some (pending (String.ofList content), .opened)
    else some ([], .text (content ++ [c]))
  | .opened, c =>
    if c = '/' then some ([], .closing []) else if isNameChar c then some ([], .tag [c]) else none
  | .closing tag, c =>
    if isNameChar c then some ([], .closing (tag ++ [c]))
    else if c = '>' then some ([.closing (String.ofList tag)], .text []) else none
  | .tag tag, c =>
    if isNameChar c then some ([], .tag (tag ++ [c])) else boundary (String.ofList tag) [] c
  | .gap tag attributes, c =>
    if isNameChar c then some ([], .name tag attributes [c]) else boundary tag attributes c
  | .name tag attributes name, c =>
    if isNameChar c then some ([], .name tag attributes (name ++ [c]))
    else if c = '=' then some ([], .assigned tag attributes (String.ofList name))
    else boundary tag (attributes ++ [⟨String.ofList name, none⟩]) c
  | .assigned tag attributes name, c =>
    if c = '\x22' then some ([], .value tag attributes name []) else none
  | .value tag attributes name value, c =>
    if c = '\x22' then some ([], .quoted tag (attributes ++ [⟨name, some (String.ofList value)⟩]))
    else some ([], .value tag attributes name (value ++ [c]))
  | .quoted tag attributes, c => boundary tag attributes c
  | .slash tag attributes, c =>
    if c = '>' then some ([.leaf tag attributes], .text []) else none

/-- The tokens of a text that ends outside of a tag. -/
def scan : Mode → List Char → Option (List Token)
  | .text content, [] => some (pending (String.ofList content))
  | _, [] => none
  | mode, c :: rest => do
    let (found, next) ← step mode c
    return found ++ (← scan next rest)

/-! ### Elements -/

/-- An element that is still open, and what stands before it. -/
structure Frame where
  tag : String
  attributes : List Attr
  before : List Item

/-- The items that tokens stand for, given the open elements, the innermost first, and the items since
the last of them was opened. -/
def build : List Frame → List Item → List Token → Option (List Item)
  | [], items, [] => some items
  | _ :: _, _, [] => none
  | frames, items, .text content :: rest => build frames (items ++ [.text content]) rest
  | frames, items, .leaf tag attributes :: rest => build frames (items ++ [.leaf tag attributes]) rest
  | frames, items, .opening tag attributes :: rest => build (⟨tag, attributes, items⟩ :: frames) [] rest
  | [], _, .closing _ :: _ => none
  | frame :: frames, items, .closing tag :: rest =>
    if frame.tag = tag then
      build frames (frame.before ++ [.element tag frame.attributes items]) rest
    else none

/-- Reads markup, all of it. -/
def read (markup : String) : Option (List Item) := do
  build [] [] (← scan (.text []) markup.toList)

/-! ### What can stand in tags -/

def isName (name : String) : Bool :=
  !name.toList.isEmpty && name.toList.all isNameChar

/-- An attribute that can be read back. -/
def Attr.Legible (attr : Attr) : Prop :=
  isName attr.name = true ∧ ∀ value, attr.value = some value → '\x22' ∉ value.toList

def Token.Legible : Token → Prop
  | .text content => '<' ∉ content.toList
  | .leaf tag attributes => isName tag = true ∧ ∀ attr ∈ attributes, attr.Legible
  | .opening tag attributes => isName tag = true ∧ ∀ attr ∈ attributes, attr.Legible
  | .closing tag => isName tag = true

/-- A forest that can be read back. -/
def Legible (items : List Item) : Prop :=
  ∀ token ∈ tokens items, token.Legible

/-! ### Reading names, values and attributes -/

theorem scan_of_step {mode next : Mode} {c : Char} {found : List Token}
    (hstep : step mode c = some (found, next)) (rest : List Char) :
    scan mode (c :: rest) = (scan next rest).map (found ++ ·) := by
  rw [scan, hstep, Option.bind_eq_bind, Option.bind_some]
  cases hscan : scan next rest <;> simp [hscan]

theorem scan_of_silent_step {mode next : Mode} {c : Char} (hstep : step mode c = some ([], next))
    (rest : List Char) : scan mode (c :: rest) = scan next rest := by
  rw [scan_of_step hstep]
  exact Option.map_id'

/-- Characters that only make longer what the reader is in the middle of. -/
theorem scan_collect {mode : List Char → Mode} {accepted : Char → Prop}
    (hstep : ∀ content c, accepted c → step (mode content) c = some ([], mode (content ++ [c])))
    (content : List Char) {chars : List Char} (hchars : ∀ c ∈ chars, accepted c) (rest : List Char) :
    scan (mode content) (chars ++ rest) = scan (mode (content ++ chars)) rest := by
  induction chars generalizing content with
  | nil => rw [List.nil_append, List.append_nil]
  | cons c chars ih =>
      have hc : accepted c := hchars c List.mem_cons_self
      have hrest : ∀ d ∈ chars, accepted d := fun d hd => hchars d (List.mem_cons_of_mem c hd)
      rw [List.cons_append, scan_of_silent_step (hstep content c hc), ih _ hrest, List.append_assoc]
      rfl

theorem exists_of_isName {name : String} (hname : isName name = true) :
    ∃ c rest, name.toList = c :: rest ∧ isNameChar c = true ∧ ∀ d ∈ rest, isNameChar d = true := by
  rw [isName, Bool.and_eq_true] at hname
  obtain ⟨hnonempty, hall⟩ := hname
  cases hlist : name.toList with
  | nil =>
      rw [hlist] at hnonempty
      exact nomatch hnonempty
  | cons c rest =>
      rw [hlist, List.all_cons, Bool.and_eq_true] at hall
      exact ⟨c, rest, rfl, hall.1, List.all_eq_true.mp hall.2⟩

/-- The reader is behind the name of a tag and some attributes. -/
def AtBoundary (mode : Mode) (tag : String) (attributes : List Attr) : Prop :=
  ∀ c, isNameChar c = false → c ≠ '=' → step mode c = boundary tag attributes c

theorem scan_name {mode : Mode} {tag : String} {attributes : List Attr}
    (hmode : AtBoundary mode tag attributes) {name : String} (hname : isName name = true)
    (rest : List Char) :
    scan mode (' ' :: name.toList ++ rest) = scan (.name tag attributes name.toList) rest := by
  obtain ⟨c, chars, hlist, hc, hchars⟩ := exists_of_isName hname
  have hgap : step mode ' ' = some ([], .gap tag attributes) :=
    hmode ' ' (by decide) (by decide)
  have hfirst : step (.gap tag attributes) c = some ([], .name tag attributes [c]) := if_pos hc
  have hmore : ∀ content d, isNameChar d = true →
      step (.name tag attributes content) d = some ([], .name tag attributes (content ++ [d])) :=
    fun content d hd => if_pos hd
  rw [hlist, List.cons_append, scan_of_silent_step hgap, List.cons_append,
    scan_of_silent_step hfirst, scan_collect hmore [c] hchars]
  rfl

/-- A value goes on to the next quote, whatever else is in it. -/
theorem scan_value (tag : String) (attributes : List Attr) {name : List Char} {value : String}
    (hvalue : '\x22' ∉ value.toList) (rest : List Char) :
    scan (.name tag attributes name) ('=' :: '\x22' :: value.toList ++ '\x22' :: rest) =
      scan (.quoted tag (attributes ++ [⟨String.ofList name, some value⟩])) rest := by
  have hequals : step (.name tag attributes name) '=' =
      some ([], .assigned tag attributes (String.ofList name)) := by
    rw [step, if_neg (by decide), if_pos rfl]
  have hopen : step (.assigned tag attributes (String.ofList name)) '\x22' =
      some ([], .value tag attributes (String.ofList name) []) := by
    rw [step, if_pos rfl]
  have hmore : ∀ content d, d ≠ '\x22' →
      step (.value tag attributes (String.ofList name) content) d =
        some ([], .value tag attributes (String.ofList name) (content ++ [d])) :=
    fun content d hd => if_neg hd
  have hclose : step (.value tag attributes (String.ofList name) value.toList) '\x22' =
      some ([], .quoted tag (attributes ++ [⟨String.ofList name, some value⟩])) := by
    rw [step, if_pos rfl, String.ofList_toList]
  have hchars : ∀ d ∈ value.toList, d ≠ '\x22' := by
    intro d hd hquote
    exact hvalue (hquote ▸ hd)
  rw [List.cons_append, List.cons_append, scan_of_silent_step hequals, scan_of_silent_step hopen,
    scan_collect hmore [] hchars, List.nil_append, scan_of_silent_step hclose]

theorem scan_attr {mode : Mode} {tag : String} {attributes : List Attr}
    (hmode : AtBoundary mode tag attributes) {attr : Attr} (hlegible : attr.Legible) :
    ∃ next, AtBoundary next tag (attributes ++ [attr])
      ∧ ∀ rest, scan mode (attr.spell ++ rest) = scan next rest := by
  obtain ⟨name, value⟩ := attr
  obtain ⟨hname, hvalue⟩ := hlegible
  cases value with
  | none =>
      refine ⟨.name tag attributes name.toList, ?_, fun rest => scan_name hmode hname rest⟩
      intro c hc hequals
      rw [step, if_neg (by rw [hc]; decide), if_neg hequals, String.ofList_toList]
  | some value =>
      refine ⟨.quoted tag (attributes ++ [⟨name, some value⟩]), fun c _ _ => rfl, ?_⟩
      intro rest
      have hread : scan (.name tag attributes name.toList)
          ('=' :: '\x22' :: value.toList ++ '\x22' :: rest) = _ :=
        scan_value tag attributes (hvalue value rfl) rest
      rw [String.ofList_toList] at hread
      rw [← hread, ← scan_name hmode hname]
      simp [Attr.spell]

theorem scan_attrs {mode : Mode} {tag : String} {attributes : List Attr}
    (hmode : AtBoundary mode tag attributes) {more : List Attr}
    (hlegible : ∀ attr ∈ more, attr.Legible) :
    ∃ next, AtBoundary next tag (attributes ++ more)
      ∧ ∀ rest, scan mode (more.flatMap Attr.spell ++ rest) = scan next rest := by
  induction more generalizing mode attributes with
  | nil => exact ⟨mode, (List.append_nil attributes).symm ▸ hmode, fun rest => rfl⟩
  | cons attr more ih =>
      obtain ⟨mid, hmid, hfirst⟩ := scan_attr hmode (hlegible attr List.mem_cons_self)
      obtain ⟨next, hnext, hrest⟩ := ih hmid fun b hb => hlegible b (List.mem_cons_of_mem attr hb)
      refine ⟨next, by rwa [List.append_assoc] at hnext, ?_⟩
      intro rest
      rw [List.flatMap_cons, List.append_assoc, hfirst, hrest]

/-! ### Reading tokens -/

theorem step_text_open (content : List Char) :
    step (.text content) '<' = some (pending (String.ofList content), .opened) := by
  rw [step, if_pos rfl]

/-- A tag is read up to the end of its attributes, and the text before it ends. -/
theorem scan_spellTag (content : List Char) {tag : String} {attributes : List Attr}
    (htag : isName tag = true) (hlegible : ∀ attr ∈ attributes, attr.Legible) :
    ∃ next, AtBoundary next tag attributes
      ∧ ∀ rest, scan (.text content) (spellTag tag attributes ++ rest) =
        (scan next rest).map (pending (String.ofList content) ++ ·) := by
  obtain ⟨c, chars, hlist, hc, hchars⟩ := exists_of_isName htag
  have hbehind : AtBoundary (.tag tag.toList) tag [] := by
    intro d hd hequals
    rw [step, if_neg (by rw [hd]; decide), String.ofList_toList]
  obtain ⟨next, hnext, hread⟩ := scan_attrs hbehind hlegible
  refine ⟨next, hnext, ?_⟩
  intro rest
  have hslash : c ≠ '/' := by
    intro heq
    rw [heq] at hc
    exact absurd hc (by decide)
  have hfirst : step .opened c = some ([], .tag [c]) := by
    rw [step, if_neg hslash, if_pos hc]
  have hmore : ∀ content d, isNameChar d = true →
      step (.tag content) d = some ([], .tag (content ++ [d])) := fun content d hd => if_pos hd
  have hname : ∀ more, scan .opened (tag.toList ++ more) = scan (.tag tag.toList) more := by
    intro more
    rw [hlist, List.cons_append, scan_of_silent_step hfirst, scan_collect hmore [c] hchars]
    rfl
  rw [spellTag, List.append_assoc, List.cons_append, scan_of_step (step_text_open content), hname,
    hread]

/-- A tag is read as its token, behind the text that came before it. -/
theorem scan_token (content : List Char) {token : Token} (htoken : ∀ text, token ≠ .text text)
    (hlegible : token.Legible) (rest : List Char) :
    scan (.text content) (token.spell ++ rest) =
      (scan (.text []) rest).map (pending (String.ofList content) ++ token :: ·) := by
  cases token with
  | text text => exact absurd rfl (htoken text)
  | leaf tag attributes =>
      obtain ⟨next, hnext, hread⟩ := scan_spellTag content hlegible.1 hlegible.2
      have hslash : step next '/' = some ([], .slash tag attributes) :=
        hnext '/' (by decide) (by decide)
      have hend : step (.slash tag attributes) '>' = some ([.leaf tag attributes], .text []) := by
        rw [step, if_pos rfl]
      rw [Token.spell, List.append_assoc, hread, List.cons_append, List.cons_append,
        scan_of_silent_step hslash, scan_of_step hend, Option.map_map]
      rfl
  | opening tag attributes =>
      obtain ⟨next, hnext, hread⟩ := scan_spellTag content hlegible.1 hlegible.2
      have hend : step next '>' = some ([.opening tag attributes], .text []) :=
        hnext '>' (by decide) (by decide)
      rw [Token.spell, List.append_assoc, hread, List.cons_append, scan_of_step hend, Option.map_map]
      rfl
  | closing tag =>
      obtain ⟨c, chars, hlist, hc, hchars⟩ := exists_of_isName hlegible
      have hslash : step .opened '/' = some ([], .closing []) := by rw [step, if_pos rfl]
      have hmore : ∀ content d, isNameChar d = true →
          step (.closing content) d = some ([], .closing (content ++ [d])) :=
        fun content d hd => if_pos hd
      have hall : ∀ d ∈ tag.toList, isNameChar d = true := by
        rw [hlist]
        exact List.forall_mem_cons.mpr ⟨hc, hchars⟩
      have hend : step (.closing tag.toList) '>' = some ([.closing tag], .text []) := by
        rw [step, if_neg (by decide), if_pos rfl, String.ofList_toList]
      rw [Token.spell, List.append_assoc, List.cons_append, List.cons_append,
        scan_of_step (step_text_open content), scan_of_silent_step hslash, scan_collect hmore [] hall,
        List.nil_append, List.cons_append, scan_of_step hend, Option.map_map]
      rfl

/-- **The tokens that are read are those that were written, with neighbouring texts merged.** -/
theorem scan_spell (content : List Char) {written : List Token}
    (hlegible : ∀ token ∈ written, token.Legible) :
    scan (.text content) (written.flatMap Token.spell) =
      some (mergedFrom (String.ofList content) written) := by
  induction written generalizing content with
  | nil => rfl
  | cons token written ih =>
      have hfirst : token.Legible := hlegible token List.mem_cons_self
      have hrest : ∀ other ∈ written, other.Legible :=
        fun other hother => hlegible other (List.mem_cons_of_mem token hother)
      rw [List.flatMap_cons]
      cases token with
      | text text =>
          have hmore : ∀ before d, d ≠ '<' →
              step (.text before) d = some ([], .text (before ++ [d])) :=
            fun before d hd => if_neg hd
          have hchars : ∀ d ∈ text.toList, d ≠ '<' := by
            intro d hd heq
            exact hfirst (heq ▸ hd)
          rw [Token.spell, scan_collect hmore content hchars, ih _ hrest, mergedFrom,
            String.ofList_append, String.ofList_toList]
      | leaf tag attributes =>
          rw [scan_token content (by simp) hfirst, ih _ hrest]
          rfl
      | opening tag attributes =>
          rw [scan_token content (by simp) hfirst, ih _ hrest]
          rfl
      | closing tag =>
          rw [scan_token content (by simp) hfirst, ih _ hrest]
          rfl

/-! ### Putting elements together -/

mutual

theorem build_item (item : Item) (frames : List Frame) (items : List Item) (rest : List Token) :
    build frames items (item.tokens ++ rest) = build frames (items ++ [item]) rest := by
  cases item with
  | text content => cases frames <;> rfl
  | leaf tag attributes => cases frames <;> rfl
  | element tag attributes children =>
      have hopen : build frames items ((Item.element tag attributes children).tokens ++ rest) =
          build (⟨tag, attributes, items⟩ :: frames) []
            (tokens children ++ (.closing tag :: rest)) := by
        rw [Item.tokens, List.cons_append, List.append_assoc]
        cases frames <;> rfl
      have hclose : build (⟨tag, attributes, items⟩ :: frames) children (.closing tag :: rest) =
          build frames (items ++ [.element tag attributes children]) rest := if_pos rfl
      rw [hopen, build_tokens children, List.nil_append, hclose]

/-- The tokens of a forest stand for its items. -/
theorem build_tokens (more : List Item) (frames : List Frame) (items : List Item)
    (rest : List Token) :
    build frames items (tokens more ++ rest) = build frames (items ++ more) rest := by
  cases more with
  | nil => rw [tokens, List.nil_append, List.append_nil]
  | cons item more =>
      rw [tokens, List.append_assoc, build_item item, build_tokens more, List.append_assoc]
      rfl

end

/-- **What is written is read back, in its normal form.** -/
theorem read_spell {markup : String} {items : List Item} (hmarkup : markup.toList = spell items)
    (hlegible : Legible items) : read markup = some (normal items) := by
  have hscan : scan (.text []) markup.toList = some (tokens (normal items)) := by
    rw [hmarkup, spell, scan_spell [] hlegible]
    exact congrArg some (merged_tokens items)
  have hbuild := build_tokens (normal items) [] [] []
  rw [List.append_nil, List.nil_append] at hbuild
  rw [read, hscan]
  exact hbuild

end MiniTemplate.Forest

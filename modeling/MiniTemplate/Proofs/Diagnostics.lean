import Mathlib.Tactic.WLOG
import MiniTemplate.Proofs.Descent
import MiniTemplate.Proofs.Escaped
import MiniTemplate.Proofs.ReadBack
import MiniTemplate.Proofs.TextParts
/-!
# What a diagnostic document tells

A diagnostic document is an envelope around a text. Both the name and the text are escaped, which leaves
none of the characters that tags and quoted values are made of: those of the envelope are the only ones
in the document, the reader of tags finds the two parts, and each of them can be unescaped.

The text has the kind of the error and its message twice, the second time in the trace, where the blanks
at the end are cut off. The kind ends at the first colon. Where the message ends cannot be seen so
easily, for it may have any number of lines and look like a trace itself. But behind a longer message
there is a longer trace, so there is only one way to divide the text (`not_told_longer`), and the
document tells the report that it was made from.
-/

namespace MiniTemplate

open Forest

/-! ### Envelopes -/

/-- A template with the given name and content, as they are written. -/
def envelope (name content : String) : String :=
  "<template name=\"" ++ name ++ "\">" ++ content ++ "</template>"

theorem envelope_escape (name : Value) (content : String) :
    envelope (Text.escape name.text) content = envelopeStart name ++ content ++ envelopeEnd :=
  rfl

theorem count_envelope {c : Char} {name content : String} (hname : c ∉ name.toList)
    (hcontent : c ∉ content.toList) :
    (envelope name content).toList.count c =
      "<template name=\"".toList.count c + "\">".toList.count c + "</template>".toList.count c := by
  unfold envelope
  simp only [String.toList_append, List.count_append, List.count_eq_zero_of_not_mem hname,
    List.count_eq_zero_of_not_mem hcontent, Nat.add_zero]

theorem read_envelope (name : Value) {content : String} (hcontent : '<' ∉ content.toList)
    (hne : content ≠ "") :
    read (envelope (Text.escape name.text) content) =
      some [.element "template" [⟨"name", some (Text.escape name.text)⟩] [.text content]] := by
  -- a document without imports
  have hspell : (envelope (Text.escape name.text) content).toList =
      spell (Tree.documentItems { name } [.text content]) := by
    have hcontents : content.toList = spell [.text content] := by
      simp [spell, tokens, Item.tokens, Token.spell]
    rw [← Tree.spell_document hcontents, envelope_escape]
    simp [Markup.importsOf]
  have hnormal : normal [.text content] = [.text content] := by
    simp [normal, Item.onto, addText, hne]
  have hoptions : Options.Writable { name } := fun entry hentry => absurd hentry List.not_mem_nil
  rw [read_spell hspell (Tree.legible_documentItems hoptions (legible_text hcontent)),
    Tree.normal_documentItems, hnormal]
  rfl

/-- A document that is one envelope with nothing around it: the only quotes are those of its name, and
the only brackets those of its two tags. -/
structure IsEnvelope (document name content : String) : Prop where
  spelled : document = envelope name content
  opening : document.toList.count '<' = 2
  closing : document.toList.count '>' = 2
  quotes : document.toList.count '\x22' = 2
  reads : read document = some [.element "template" [⟨"name", some name⟩] [.text content]]

theorem isEnvelope_escape (name : Value) {content : String} (hne : content ≠ "") :
    IsEnvelope (envelope (Text.escape name.text) (Text.escape content)) (Text.escape name.text)
      (Text.escape content) := by
  refine ⟨rfl, ?_, ?_, ?_, ?_⟩
  · exact count_envelope (Text.not_mem_escape (by decide) _) (Text.not_mem_escape (by decide) _)
  · exact count_envelope (Text.not_mem_escape (by decide) _) (Text.not_mem_escape (by decide) _)
  · exact count_envelope (Text.not_mem_escape (by decide) _) (Text.not_mem_escape (by decide) _)
  · exact read_envelope name (Text.not_mem_escape (by decide) _) (Text.escape_ne_empty hne)

namespace Report

/-! ### Wording -/

/-- What a diagnostic document says, before it is escaped. -/
def wording (report : Report) : String :=
  "compile error: " ++ report.summary ++ "\n" ++ report.trace

theorem document_eq (report : Report) (name : Value) :
    report.document name = envelope (Text.escape name.text) (Text.escape report.wording) := by
  have hintro : Text.escape "compile error: " = "compile error: " :=
    Text.escape_of_unreplaced (by decide)
  have hbreak : Text.escape "\n" = "\n" := Text.escape_of_unreplaced (by decide)
  unfold document wording
  rw [envelope_escape, Text.escape_append, Text.escape_append, Text.escape_append,
    hintro, hbreak]
  simp only [String.append_assoc]

theorem wording_ne_empty (report : Report) : report.wording ≠ "" := by
  unfold wording
  rw [ne_eq, String.append_eq_empty_iff, String.append_eq_empty_iff]
  exact fun hempty => absurd hempty.1.2 (by decide)

/-! ### Traces -/

/-- A report of an error that was not raised. Its kind is the name of a class, which has no colon and
no line break in it. -/
structure Plain (report : Report) : Prop where
  kind : ':' ∉ report.kind.toList ∧ '\n' ∉ report.kind.toList
  unraised : report.raised = false

theorem trace_of_unraised {report : Report} (hraised : report.raised = false) :
    report.trace = Text.trimEnd report.traceLine := by
  rw [trace, hraised]
  exact congrArg Text.trimEnd (String.empty_append)

theorem toList_traceLine {report : Report} (hne : report.text ≠ "") :
    report.traceLine.toList = (report.qualifiedKind.toList ++ [':', ' ']) ++ report.text.toList := by
  rw [traceLine, if_neg (by simpa using hne)]
  simp

theorem newline_not_mem_qualifiedKind {report : Report} (hreport : report.Plain) :
    '\n' ∉ report.qualifiedKind.toList := by
  have hown : '\n' ∉ "wxmlgen.compiler.exceptions.".toList := by decide
  rw [qualifiedKind]
  split
  · rw [String.toList_append, List.mem_append]
    exact fun hmem => hmem.elim hown hreport.kind.2
  · exact hreport.kind.2

/-- The message of a report does not go on where the trace of the report begins. -/
theorem not_told_longer {report second : Report} (hreport : report.Plain)
    (hsecond : second.raised = false) {rest : List Char}
    (htext : second.text.toList = report.text.toList ++ '\n' :: rest) :
    report.trace.toList ≠ rest ++ '\n' :: second.trace.toList := by
  intro htrace
  have hstart : rest ++ '\n' :: second.trace.toList <+: report.traceLine.toList := by
    rw [← htrace, trace_of_unraised hreport.unraised]
    exact Text.trimEnd_prefix report.traceLine
  have hne : report.text ≠ "" := by
    intro hempty
    have hmem : '\n' ∈ report.traceLine.toList := hstart.subset (by simp)
    rw [traceLine, if_pos (by simpa using hempty)] at hmem
    exact newline_not_mem_qualifiedKind hreport hmem
  have hsecondne : second.text ≠ "" := by
    intro hempty
    rw [hempty] at htext
    simp at htext
  -- the line break stands behind the kind, so the message holds all of the second trace
  obtain ⟨after, hafter⟩ := hstart
  rw [toList_traceLine hne, List.append_assoc, List.cons_append] at hafter
  have hkind : '\n' ∉ report.qualifiedKind.toList ++ [':', ' '] := by
    simpa using newline_not_mem_qualifiedKind hreport
  obtain ⟨between, hrest, hmessage⟩ := Text.exists_between_of_append hkind hafter
  have hshort : second.trace.toList.length < report.text.toList.length := by
    rw [hmessage, List.length_append, List.length_cons, List.length_append]
    omega
  -- but the second message has the first one in it, and the kind behind it is not blank
  have hlong : report.text.toList.length < second.trace.toList.length := by
    have hline : second.traceLine.toList =
        (second.qualifiedKind.toList ++ [':', ' '] ++ report.text.toList ++ '\n'
          :: report.qualifiedKind.toList) ++ ':' :: (' ' :: between) := by
      rw [toList_traceLine hsecondne, htext, hrest]
      simp
    rw [trace_of_unraised hsecond, Text.toList_trimEnd, hline,
      Text.rdropWhile_append_cons (by decide)]
    simp only [List.length_append, List.length_cons]
    omega
  omega

theorem text_eq_of_told {report second : Report} (hreport : report.Plain) (hsecond : second.Plain)
    (htold : report.text.toList ++ '\n' :: report.trace.toList =
      second.text.toList ++ '\n' :: second.trace.toList) :
    report.text = second.text ∧ report.trace = second.trace := by
  wlog hle : report.text.toList.length ≤ second.text.toList.length generalizing report second
  · obtain ⟨htext, htrace⟩ := this hsecond hreport htold.symm (Nat.le_of_not_le hle)
    exact ⟨htext.symm, htrace.symm⟩
  have hstart : second.text.toList <+: report.text.toList ++ '\n' :: report.trace.toList := by
    rw [htold]
    exact List.prefix_append _ _
  obtain ⟨rest, htext⟩ := List.prefix_of_prefix_length_le (List.prefix_append _ _) hstart hle
  rw [← htext, List.append_assoc, List.append_cancel_left_eq] at htold
  cases rest with
  | nil =>
      rw [List.append_nil, String.toList_inj] at htext
      exact ⟨htext, String.toList_inj.mp (List.cons.inj htold).2⟩
  | cons c rest =>
      obtain ⟨rfl, hbehind⟩ := List.cons.inj htold
      exact absurd hbehind (not_told_longer hreport hsecond.unraised htext.symm)

/-- The trace tells whether the kind is one of the program's own. -/
theorem trace_own_ne (kind text : String) :
    (Report.mk kind true text false).trace ≠ (Report.mk kind false text false).trace := by
  have hline : (Report.mk kind true text false).traceLine =
      "wxmlgen.compiler.exceptions." ++ (Report.mk kind false text false).traceLine := by
    have hown : (Report.mk kind true text false).qualifiedKind =
        "wxmlgen.compiler.exceptions." ++ (Report.mk kind false text false).qualifiedKind := rfl
    unfold traceLine
    rw [hown]
    dsimp only
    split
    · rfl
    · rw [String.append_assoc, String.append_assoc, String.append_assoc]
  have hparts : "wxmlgen.compiler.exceptions.".toList =
      "wxmlgen.compiler.exceptions".toList ++ ['.'] := by decide
  intro htrace
  have hlengths := congrArg (fun trace => trace.toList.length) htrace
  rw [trace_of_unraised rfl, trace_of_unraised rfl] at hlengths
  simp only [Text.toList_trimEnd] at hlengths
  rw [hline, String.toList_append, hparts, List.append_assoc, List.singleton_append,
    Text.rdropWhile_append_cons (by decide), List.length_append, List.length_cons] at hlengths
  omega

theorem toList_wording (report : Report) :
    report.wording.toList = "compile error: ".toList
      ++ (report.kind.toList ++ ':' :: (' ' :: (report.text.toList ++ '\n' :: report.trace.toList))) := by
  have hcolon : ": ".toList = [':', ' '] := by decide
  have hbreak : "\n".toList = ['\n'] := by decide
  unfold wording summary
  simp only [String.toList_append, hcolon, hbreak, List.append_assoc, List.cons_append, List.nil_append]

theorem eq_of_wording {report second : Report} (hreport : report.Plain) (hsecond : second.Plain)
    (hwording : report.wording = second.wording) : report = second := by
  have hlists := congrArg String.toList hwording
  rw [toList_wording, toList_wording, List.append_cancel_left_eq] at hlists
  obtain ⟨hkind, htold⟩ := Text.eq_of_append_separator hreport.kind.1 hsecond.kind.1 hlists
  obtain ⟨htext, htrace⟩ := text_eq_of_told hreport hsecond (List.cons.inj htold).2
  obtain ⟨kind, own, text, raised⟩ := report
  obtain ⟨kind', own', text', raised'⟩ := second
  obtain rfl : raised = false := hreport.unraised
  obtain rfl : raised' = false := hsecond.unraised
  obtain rfl : kind = kind' := String.toList_inj.mp hkind
  obtain rfl : text = text' := htext
  cases own <;> cases own'
  · rfl
  · exact absurd htrace.symm (trace_own_ne kind text)
  · exact absurd htrace (trace_own_ne kind text)
  · rfl

/-! ### Documents -/

theorem document_eq_iff {report second : Report} (hreport : report.Plain) (hsecond : second.Plain)
    (name other : Value) :
    report.document name = second.document other ↔ name.text = other.text ∧ report = second := by
  rw [document_eq, document_eq]
  constructor
  · intro heq
    have hread := (isEnvelope_escape name report.wording_ne_empty).reads
    rw [heq, (isEnvelope_escape other second.wording_ne_empty).reads] at hread
    obtain ⟨hname, hwording⟩ : Text.escape other.text = Text.escape name.text
        ∧ Text.escape second.wording = Text.escape report.wording := by
      simpa using hread
    exact ⟨(Text.escape_inj.mp hname).symm,
      eq_of_wording hreport hsecond (Text.escape_inj.mp hwording).symm⟩
  · rintro ⟨hname, rfl⟩
    rw [hname]

/-- The reports of errors that were not raised: of the program's own three kinds, or of any other kind
with some arguments. The name of a kind has no colon and no line break in it. -/
inductive OfError : Report → Prop where
  | generation (message : String) (template : Value) : OfError (ofGeneration message template)
  | loading (message file path : String) : OfError (ofLoading message file path)
  | own (arguments : List Value) : OfError (ofArguments "WxmlgenError" true arguments)
  | general {kind : String} (hkind : ':' ∉ kind.toList ∧ '\n' ∉ kind.toList)
    (arguments : List Value) : OfError (ofArguments kind false arguments)

theorem OfError.plain {report : Report} (hreport : report.OfError) : report.Plain := by
  have hown : ∀ kind ∈ ["TemplateGenerationError", "AstLoadError", "WxmlgenError"],
      ':' ∉ kind.toList ∧ '\n' ∉ kind.toList := by decide
  cases hreport with
  | generation message template => exact ⟨hown "TemplateGenerationError" (by decide), rfl⟩
  | loading message file path => exact ⟨hown "AstLoadError" (by decide), rfl⟩
  | own arguments => exact ⟨hown "WxmlgenError" (by decide), rfl⟩
  | general hkind arguments => exact ⟨hkind, rfl⟩

/-- **A diagnostic document is one envelope, and it tells the name and the report.** The two parts of
the envelope are unescaped to the name of the template and to the kind and the message of the error with
the trimmed trace below them. The name is written as in every document that is generated under this name.
Two errors have the same document only if they are reported alike, and for the same name. -/
theorem diagnostic_tells_report (name : Value) (report : Report) :
    (∃ quoted content trace, IsEnvelope (report.document name) quoted content
      ∧ Text.unescape quoted = name.text
      ∧ Text.unescape content =
        "compile error: " ++ (report.kind ++ ": " ++ report.text) ++ "\n" ++ trace
      ∧ Text.IsTrimmed ((if report.raised then traceHeading else "") ++ report.traceLine) trace
      ∧ ∀ {ι : Type} [DecidableEq ι] (graph : Graph ι) (options : Options) (depth : Nat) (root : ι),
        options.name = name → (generate graph options depth root).failed = false →
        ∃ inner, (generate graph options depth root).document =
          Markup.importsOf options ++ envelope quoted inner)
    ∧ ∀ (other : Value) (second : Report), report.OfError → second.OfError →
      (report.document name = second.document other ↔ name.text = other.text ∧ report = second) := by
  constructor
  · refine ⟨Text.escape name.text, Text.escape report.wording, report.trace, ?_,
      Text.unescape_escape _, Text.unescape_escape _, Text.isTrimmed_trimEnd _, ?_⟩
    · rw [document_eq]
      exact isEnvelope_escape name report.wording_ne_empty
    · intro ι _ graph options depth root hname hsuccess
      obtain ⟨inner, -, -, hdocument⟩ := Generation.visit_of_generate hsuccess
      refine ⟨inner.text, ?_⟩
      rw [hdocument, ← hname, envelope_escape, String.append_assoc, String.append_assoc,
        String.append_assoc]
  · exact fun other second hreport hsecond => document_eq_iff hreport.plain hsecond.plain name other

/-- An error whose message is the given text. -/
def saying (text : String) : Report :=
  ofArguments "ValueError" false [.str text]

/-- A template with nothing but a text. -/
def plainText : Graph Unit :=
  fun _ => { label := { kind := .text, text := .str "x", static := true } }

/-- The second message has the trace of the first one in it. -/
theorem diagnostic_tells_report_saying :
    (saying "a").OfError ∧ (saying "a\nValueError: a").OfError
      ∧ (saying "a").document (.str "b") ≠ (saying "a\nValueError: a").document (.str "b")
      ∧ (generate plainText { name := .str "<\"&amp;" } 1 ()).failed = false
      ∧ ∃ quoted content trace inner,
        IsEnvelope ((saying "a ").document (.str "<\"&amp;")) quoted content
        ∧ Text.unescape quoted = "<\"&amp;"
        ∧ Text.unescape content = "compile error: ValueError: a \n" ++ trace
        ∧ Text.IsTrimmed "ValueError: a " trace
        ∧ (generate plainText { name := .str "<\"&amp;" } 1 ()).document = envelope quoted inner := by
  have herror : ∀ text, (saying text).OfError := fun text => .general (by decide) [.str text]
  have hsuccess : (generate plainText { name := .str "<\"&amp;" } 1 ()).failed = false := by rfl
  have happart := (diagnostic_tells_report (.str "b") (saying "a")).2 (.str "b") _ (herror _)
    (herror "a\nValueError: a")
  refine ⟨herror _, herror _, fun hsame => ?_, hsuccess, ?_⟩
  · exact absurd (congrArg Report.text (happart.mp hsame).2) (by decide)
  · obtain ⟨quoted, content, trace, henvelope, hname, hcontent, htrace, hdocument⟩ :=
      (diagnostic_tells_report (.str "<\"&amp;") (saying "a ")).1
    obtain ⟨inner, hinner⟩ := hdocument plainText _ 1 () rfl hsuccess
    exact ⟨quoted, content, trace, inner, henvelope, hname, hcontent, htrace, hinner⟩

end Report

end MiniTemplate

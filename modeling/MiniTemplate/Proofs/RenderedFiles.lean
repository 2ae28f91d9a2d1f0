import MiniTemplate.Command.Request
import MiniTemplate.Command.Run
import MiniTemplate.Proofs.CleanBuild
import MiniTemplate.Proofs.WithinLimits
/-!
# Rendered files and built files

The two commands come to a document on different ways. `build` finds it below a directory, while
`render` follows a path that the user wrote, from the root or from the directory that the program works
in. On both ways the document is named after the last name on the way, and that is the name of the
file: a path to a file does not end in dots. So both read the same document, and fail for the same
ones, unless one of them is stopped by a limit of its own.

What they write is not the same text. A target holds the document, and `render` leaves the printing to
the console, which may take control sequences out of it (`render_agrees_with_build`).
-/

namespace MiniTemplate

open Disk (Path Entry Route)

/-! ### Written paths -/

namespace Disk

/-- How names are followed from a directory. -/
inductive Walks (disk : Disk) : Path → List String → Path → Prop where
  | stop (path : Path) : Walks disk path [] path
  | stay {path place : Path} {name : String} {names : List String}
      (hpath : disk.get? path = some .directory) (hname : name = "" ∨ name = ".")
      (hrest : Walks disk path names place) : Walks disk path (name :: names) place
  | up {path place : Path} {names : List String} (hpath : disk.get? path = some .directory)
      (hrest : Walks disk path.dropLast names place) : Walks disk path (".." :: names) place
  | down {path place : Path} {name : String} {names : List String}
      (hpath : disk.get? path = some .directory) (hname : name ≠ "" ∧ name ≠ "." ∧ name ≠ "..")
      (hrest : Walks disk (path ++ [name]) names place) : Walks disk path (name :: names) place

variable {disk : Disk} {path place workPlace : Path} {names : List String} {content : ByteArray}

theorem walk_eq_ok_iff (shown : String) :
    disk.walk shown path names = .ok place ↔ Walks disk path names place := by
  constructor
  · intro hwalk
    induction names generalizing path with
    | nil =>
        cases hwalk
        exact .stop _
    | cons name names ih =>
        rw [walk] at hwalk
        split at hwalk
        next => cases hwalk
        next => cases hwalk
        next hpath =>
          split at hwalk
          next hname => exact .stay hpath (by simpa using hname) (ih hwalk)
          next hname =>
            split at hwalk
            next hup =>
              rw [beq_iff_eq.mp hup]
              exact .up hpath (ih hwalk)
            next hup =>
              refine .down hpath ?_ (ih hwalk)
              simpa [and_assoc] using And.intro hname hup
  · intro hwalks
    induction hwalks with
    | stop => rfl
    | stay hpath hname _ ih => simpa [walk, hpath, hname] using ih
    | up hpath _ ih => simpa [walk, hpath] using ih
    | down hpath hname _ ih => simpa [walk, hpath, hname] using ih

/-- Whether a name leads anywhere. -/
abbrev leadsOn (name : String) : Bool :=
  name != "" && name != "."

theorem name_cons {name : String} (hnames : names ≠ []) :
    Path.name (name :: names) = Path.name names := by
  rw [Path.name, Path.name, List.getLast?_cons_of_ne_nil hnames]

theorem name_append (path : Path) (hnames : names ≠ []) :
    Path.name (path ++ names) = Path.name names := by
  rw [Path.name, Path.name, List.getLast?_append_of_ne_nil path hnames]

theorem Sound.isDirectory_parent (hsound : disk.Sound) (hpath : disk.get? path = some .directory) :
    disk.isDirectory path.dropLast = true := by
  by_cases hroot : path = []
  · rw [hroot]
    rfl
  · exact hsound.isDirectory_dropLast hroot (hpath ▸ rfl)

/-- The last name on the way to a file is the name of the file. -/
theorem Walks.name_eq (hsound : disk.Sound) (hwalks : Walks disk path names place)
    (hfile : disk.get? place = some (.file content)) :
    names.filter leadsOn = [] ∧ path = place
      ∨ names.filter leadsOn ≠ [] ∧ Path.name (names.filter leadsOn) = Path.name place := by
  induction hwalks with
  | stop path => exact .inl ⟨rfl, rfl⟩
  | stay hpath hname _ ih =>
      rcases hname with rfl | rfl
      · exact ih hfile
      · exact ih hfile
  | up hpath _ ih =>
      refine .inr ⟨List.cons_ne_nil _ _, ?_⟩
      rcases ih hfile with ⟨-, rfl⟩ | ⟨hnames, hname⟩
      · -- the parent of a directory is no file
        rw [isDirectory_iff.mp (hsound.isDirectory_parent hpath)] at hfile
        cases hfile
      · exact (name_cons hnames).trans hname
  | down hpath hname _ ih =>
      rw [List.filter_cons_of_pos (by simp [hname])]
      refine .inr ⟨List.cons_ne_nil _ _, ?_⟩
      rcases ih hfile with ⟨hnames, rfl⟩ | ⟨hnames, hname⟩
      · rw [hnames, name_append _ (List.cons_ne_nil _ _)]
      · exact (name_cons hnames).trans hname

/-- The text is a path to the given place. -/
structure Leads (disk : Disk) (workPlace : Path) (text : String) (place : Path) : Prop where
  start : disk.get? ((Route.ofText text).start workPlace) = some .directory
  walks : Walks disk ((Route.ofText text).start workPlace) (Route.ofText text).names place

namespace Leads

variable {text : String} (hleads : Leads disk workPlace text place)
  (hfile : disk.get? place = some (.file content))
include hleads hfile

theorem read_eq : disk.read workPlace (.ofText text) = .ok content := by
  rw [read, (walk_eq_ok_iff _).mpr hleads.walks]
  change disk.readAt _ place = .ok content
  rw [readAt, hfile]

theorem name_eq (hsound : disk.Sound) : Path.name (Route.ofText text).names = Path.name place := by
  have hnames : (Route.ofText text).names.filter leadsOn = (Route.ofText text).names := by
    rw [Route.ofText, List.filter_filter]
    simp only [Bool.and_self]
  rcases hleads.walks.name_eq hsound hfile with ⟨-, hstart⟩ | ⟨-, hname⟩
  · rw [← hstart, hleads.start] at hfile
    cases hfile
  · rwa [hnames] at hname

end Leads

/-- A name that a file can have. -/
structure IsFileName (name : String) : Prop where
  leads : name ≠ "" ∧ name ≠ "." ∧ name ≠ ".."
  slashFree : '/' ∉ name.toList

theorem pieces_of_not_mem {separator : Char} {chars : List Char} (hchars : separator ∉ chars) :
    pieces separator chars = [chars] := by
  induction chars with
  | nil => rfl
  | cons c chars ih =>
      rw [List.mem_cons, not_or] at hchars
      rw [pieces, if_neg (by simpa using Ne.symm hchars.1), ih hchars.2]

theorem pieces_append {separator : Char} {chars : List Char} (hchars : separator ∉ chars)
    (rest : List Char) :
    pieces separator (chars ++ separator :: rest) = chars :: pieces separator rest := by
  induction chars with
  | nil => rw [List.nil_append, pieces, if_pos (beq_self_eq_true separator)]
  | cons c chars ih =>
      rw [List.mem_cons, not_or] at hchars
      rw [List.cons_append, pieces, if_neg (by simpa using Ne.symm hchars.1), ih hchars.2]

theorem toList_joined_cons (name next : String) (names : List String) :
    (Path.joined (name :: next :: names)).toList =
      name.toList ++ '/' :: (Path.joined (next :: names)).toList := by
  rw [Path.joined, String.intercalate_cons_cons, String.toList_append, String.toList_append,
    List.append_assoc]
  rfl

theorem rawNames_joined {names : List String} (hne : names ≠ [])
    (hnames : ∀ name ∈ names, '/' ∉ name.toList) : Route.rawNames (Path.joined names) = names := by
  induction names with
  | nil => exact absurd rfl hne
  | cons name names ih =>
      obtain ⟨hname, hrest⟩ := List.forall_mem_cons.mp hnames
      cases names with
      | nil =>
          rw [Path.joined, String.intercalate_singleton, Route.rawNames, pieces_of_not_mem hname]
          simp
      | cons next names =>
          rw [Route.rawNames, toList_joined_cons, pieces_append hname, List.map_cons,
            String.ofList_toList, ← Route.rawNames, ih (List.cons_ne_nil _ _) hrest]

theorem Sound.walks_down (hsound : disk.Sound) (hthere : (disk.get? place).isSome = true)
    (hnames : ∀ name ∈ place, IsFileName name) (done : Path) (hplace : done ++ names = place) :
    Walks disk done names place := by
  induction names generalizing done with
  | nil =>
      rw [List.append_nil] at hplace
      rw [hplace]
      exact .stop place
  | cons name names ih =>
      have hdone : disk.isDirectory done = true := by
        refine hsound.isDirectory_of_prefix hthere ⟨name :: names, hplace⟩ ?_
        intro hsame
        rw [← hsame] at hplace
        simp at hplace
      have hname : name ∈ place := by
        rw [← hplace]
        exact List.mem_append_right done List.mem_cons_self
      refine .down (isDirectory_iff.mp hdone) (hnames name hname).leads (ih (done ++ [name]) ?_)
      rw [List.append_assoc]
      exact hplace

/-- The absolute path leads to its place. -/
theorem Sound.leads_text (hsound : disk.Sound) (hthere : (disk.get? place).isSome = true)
    (hplace : place ≠ []) (hnames : ∀ name ∈ place, IsFileName name) (workPlace : Path) :
    disk.Leads workPlace (Path.text place) place := by
  have htext : (Path.text place).toList = '/' :: (Path.joined place).toList := String.toList_append
  have hraw : Route.rawNames (Path.text place) = "" :: place := by
    rw [Route.rawNames, htext, pieces, if_pos (beq_self_eq_true '/'), List.map_cons, ← Route.rawNames,
      rawNames_joined hplace fun name hname => (hnames name hname).slashFree]
  have hleadsOn : place.filter leadsOn = place :=
    List.filter_eq_self.mpr fun name hname => by simp [(hnames name hname).leads]
  have hroute : Route.ofText (Path.text place) = ⟨true, place⟩ := by
    rw [Route.ofText, htext, hraw, List.filter_cons_of_neg (by decide), hleadsOn]
    rfl
  constructor
  · rw [hroute]
    rfl
  · rw [hroute]
    exact hsound.walks_down hthere hnames [] rfl

end Disk

theorem Document.ofFile_fst (limits : Limits) (file name : String) (content : ByteArray) :
    (Document.ofFile limits file name (.ok content)).1 =
      (Document.inFile limits name content).mapError (.ofFailure file) :=
  rfl

/-! ### The command -/

namespace Command

variable {setting : Setting} {place : Path} {text : String} {content : ByteArray} {level : Level}
  {arguments : List String}

theorem Setting.render_of_ok {route : Route} {document : Document} {shown : String}
    (hload : (Document.load setting.rendering setting.disk setting.workPlace route).1 = .ok document)
    (hshown : setting.console.echo (document.generate setting.rendering).document = .ok shown) :
    (setting.render route none).exitCode =
        (if (document.generate setting.rendering).failed then 1 else 0)
      ∧ (setting.render route none).output = shown := by
  rw [render]
  generalize Document.load setting.rendering setting.disk setting.workPlace route = loaded at hload ⊢
  obtain ⟨result, log⟩ := loaded
  dsimp only at hload
  subst hload
  dsimp only [Option.filter_none, Option.elim_none]
  rw [hshown]
  exact ⟨rfl, rfl⟩

theorem Setting.render_of_error {route : Route} {failure : Document.FileFailure}
    (hload : (Document.load setting.rendering setting.disk setting.workPlace route).1 =
      .error failure) :
    (setting.render route none).exitCode = 1 ∧ (setting.render route none).output = "" := by
  rw [render]
  generalize Document.load setting.rendering setting.disk setting.workPlace route = loaded at hload ⊢
  obtain ⟨result, log⟩ := loaded
  dsimp only at hload
  subst hload
  cases failure <;> exact ⟨rfl, rfl⟩

section

variable (hsound : setting.disk.Sound)
  (hask : setting.console.take setting.disk setting.workPlace arguments =
    (level, .render (.ofText text) none))
  (hleads : setting.disk.Leads setting.workPlace text place)
  (hfile : setting.disk.get? place = some (.file content))

include hask in
theorem run_render : run setting arguments = { setting.render (.ofText text) none with level } := by
  rw [run, hask]
  rfl

include hsound hleads hfile

theorem load_fst_eq :
    (Document.load setting.rendering setting.disk setting.workPlace (.ofText text)).1 =
      (Document.inFile setting.rendering (Path.name place) content).mapError
        (.ofFailure (Route.ofText text).text) := by
  rw [Document.load, hleads.read_eq hfile, hleads.name_eq hfile hsound, Document.ofFile_fst]

include hask

theorem run_render_of_ok {document : Document} {shown : String}
    (hdocument : Document.inFile setting.rendering (Path.name place) content = .ok document)
    (hshown : setting.console.echo (document.generate setting.rendering).document = .ok shown) :
    (run setting arguments).exitCode =
        (if (document.generate setting.rendering).failed then 1 else 0)
      ∧ (run setting arguments).output = shown := by
  have hload := load_fst_eq hsound hleads hfile
  rw [hdocument] at hload
  rw [run_render hask]
  exact Setting.render_of_ok hload hshown

theorem run_render_of_error {failure : Document.Failure}
    (hdocument : Document.inFile setting.rendering (Path.name place) content = .error failure) :
    (run setting arguments).exitCode = 1 ∧ (run setting arguments).output = "" := by
  have hload := load_fst_eq hsound hleads hfile
  rw [hdocument] at hload
  rw [run_render hask]
  exact Setting.render_of_error hload

end

/-! ### The usual console -/

theorem dropSequences_eq_self {chars : List Char} (hchars : '\x1b' ∉ chars) :
    Terminal.dropSequences 0 chars = chars := by
  induction chars with
  | nil => rfl
  | cons c chars ih =>
      rw [List.mem_cons, not_or] at hchars
      have hlength : Terminal.sequenceLength (c :: chars) = 0 := by
        rw [Terminal.sequenceLength]
        rintro rest ⟨⟩
        exact hchars.1 rfl
      rw [Terminal.dropSequences.eq_def]
      simp only [hlength, ih hchars.2]

theorem Console.prints_usual : Console.usual.Prints := by
  constructor
  · intro text bytes hbytes
    simp only [Console.usual, hbytes]
    exact ⟨_, rfl⟩
  · intro text shown hplain hshown
    have hline : '\x1b' ∉ (text ++ "\n").toList := by
      simp [String.toList_append, hplain]
    cases hbytes : Text.Utf8.encode text with
    | error fault =>
        simp only [Console.usual, hbytes] at hshown
        cases hshown
    | ok bytes =>
        simp only [Console.usual, hbytes] at hshown
        cases hshown
        rw [Terminal.withoutSequences, dropSequences_eq_self hline, String.ofList_toList]

theorem take_plain {specs : List OptionSpec} {mixed : Bool} {text : String}
    (htext : isOption text = false) (given : Given) (rest : List String) :
    takeArguments specs mixed given (text :: rest) =
      if mixed then takeArguments specs mixed { given with arguments := given.arguments ++ [text] } rest
      else .ok { given with arguments := given.arguments ++ text :: rest } := by
  have hdashes : ¬ (text == "--") = true := by
    rw [beq_iff_eq]
    rintro rfl
    cases htext
  rw [takeArguments, if_neg hdashes, if_neg (by simp [htext])]

theorem Console.take_usual {disk : Disk} {workPlace : Path} {text : String} {content : ByteArray}
    (htext : isOption text = false)
    (hfind : (Lookup.mk disk workPlace).find text = .ok (some (.file content))) :
    Console.usual.take disk workPlace ["render", text] = (.info, .render (.ofText text) none) := by
  have hfile : (Lookup.mk disk workPlace).existingFile "FILE" text = .ok (.ofText text) := by
    rw [Lookup.existingFile, hfind]
    rfl
  have hrender : Request.ofRender ⟨disk, workPlace⟩ [text] = .ok (.render (.ofText text) none) := by
    rw [Request.ofRender, take_plain htext, if_pos rfl, takeArguments]
    change (soleArgument "FILE" _ [text] >>= _) = _
    rw [soleArgument, hfile]
    rfl
  have htaken : takeArguments Request.globalOptions false {} ["render", text] =
      .ok { arguments := ["render", text] } := by
    rw [take_plain rfl, if_neg Bool.false_ne_true]
    rfl
  have hnone : Request.requestedText? { arguments := ["render", text] } = none := rfl
  simp only [Console.usual, Request.ofArguments, htaken, hnone, hrender]
  rfl

end Command

/-! ### The two commands -/

namespace Build

open Command

variable {limits : Limits} {disk : Disk} {source output path : Path} {log : Log} {content : ByteArray}

theorem loaded?_of_file (hfile : disk.get? (source ++ path) = some (.file content)) :
    loaded? limits disk source path = (Document.inFile limits (Path.name path) content).toOption := by
  rw [loaded?, reading, Disk.readAt, hfile, Document.ofFile_fst]
  cases Document.inFile limits (Path.name path) content <;> rfl

section

variable (hsound : disk.Sound) {summary : Summary} {state : State}
  (hbuild : perform limits source output true ⟨disk, log⟩ = .ok summary state)
  (hapart : ¬ source <+: output) (hdoc : IsDocument disk source path)
  (hfile : disk.get? (source ++ path) = some (.file content))
include hsound hbuild hapart

theorem not_within_output (path : Path) : ¬ output <+: source ++ path := by
  obtain ⟨hout, -⟩ := free_of_perform_clean hsound hbuild
  intro hunder
  rcases List.prefix_or_prefix_of_prefix hunder (List.prefix_append source path) with habove | hbelow
  · exact Disk.Path.within_eq_false_iff.mp hout habove
  · exact hapart hbelow

include hfile

theorem get?_source_of_build : state.disk.get? (source ++ path) = some (.file content) := by
  obtain ⟨hout, -⟩ := free_of_perform_clean hsound hbuild
  obtain ⟨-, -, hprogress⟩ := progress_of_perform_clean hsound hbuild
  rw [file_outside_iff (ne_nil_of_apart hout) hprogress
    (not_within_output hsound hbuild hapart path)]
  exact hfile

include hdoc

/-- What the build finds at the place of the document. -/
theorem document_found :
    IsDocument (emptied disk output) source path
      ∧ loaded? limits (emptied disk output) source path =
        (Document.inFile limits (Path.name path) content).toOption := by
  obtain ⟨hout, -⟩ := free_of_perform_clean hsound hbuild
  have hfound := (file_emptied_iff disk (ne_nil_of_apart hout)
    (not_within_output hsound hbuild hapart path) content).mpr hfile
  exact ⟨⟨hfound ▸ rfl, hdoc.named, hdoc.visible⟩, loaded?_of_file hfound⟩

theorem built_of_ok {document : Document}
    (hdocument : Document.inFile limits (Path.name path) content = .ok document) :
    (path ∈ summary.failed ↔ (document.generate limits).failed = true)
      ∧ ∃ bytes, CompilesTo limits document bytes
        ∧ state.disk.get? (target output path) = some (.file bytes) := by
  obtain ⟨hfound, hloaded⟩ := document_found hsound hbuild hapart hdoc hfile
  obtain ⟨hsummary, -, hprogress⟩ := progress_of_perform_clean hsound hbuild
  rw [hdocument] at hloaded
  refine ⟨?_, hprogress.written path (mem_sources.mpr hfound) document hloaded⟩
  rw [hsummary]
  change path ∈ List.filter _ _ ↔ _
  rw [List.mem_filter, and_iff_right (mem_sources.mpr hfound), fails, hloaded]
  rfl

theorem built_of_error {failure : Document.Failure}
    (hdocument : Document.inFile limits (Path.name path) content = .error failure) :
    path ∈ summary.failed
      ∧ ∀ other, state.disk.get? (target output path) ≠ some (.file other) := by
  obtain ⟨hout, hfree⟩ := free_of_perform_clean hsound hbuild
  obtain ⟨hfound, hloaded⟩ := document_found hsound hbuild hapart hdoc hfile
  obtain ⟨hsummary, -, hprogress⟩ := progress_of_perform_clean hsound hbuild
  rw [hdocument] at hloaded
  constructor
  · rw [hsummary]
    change path ∈ List.filter _ _
    rw [List.mem_filter, fails, hloaded]
    exact ⟨mem_sources.mpr hfound, rfl⟩
  · intro other hwritten
    have hbase := emptied_spec hsound (ne_nil_of_apart hout) hfree
    rw [file_within_iff hbase hprogress (prefix_target output path)] at hwritten
    obtain ⟨origin, document, horigin, hother, htarget, -⟩ := hwritten
    -- no other document has this target
    rw [← hfound.eq_of_target_eq horigin htarget, hloaded] at hother
    cases hother

end

/-- **Rendering a file agrees with building its directory.** Let a clean build of a directory end well,
whose output directory is apart from it, and let a file be a document of that directory that neither
command's limits stop. Before and after the build, and by any path that leads to the file:

* `render` exits with zero exactly if the build does not list the document as failed;
* if the document can be loaded, then its target holds a text, and `render` prints what the console
  makes of that text. That is the text itself and a line break if there is no escape character in it;
* if not, then `render` prints nothing, and there is no file at the target.

One such path is the absolute one. -/
theorem render_agrees_with_build {setting : Setting} (hprints : setting.console.Prints)
    (hsound : disk.Sound) {summary : Summary} {state : State}
    (hbuild : perform setting.building source output true ⟨disk, log⟩ = .ok summary state)
    (hapart : ¬ source <+: output) (hdoc : IsDocument disk source path)
    (hfile : disk.get? (source ++ path) = some (.file content))
    (hrendering : Document.Fits setting.rendering (Path.name path) content)
    (hbuilding : Document.Fits setting.building (Path.name path) content)
    (hnow : setting.disk = disk ∨ setting.disk = state.disk) :
    (∀ text arguments level, setting.disk.Leads setting.workPlace text (source ++ path) →
      setting.console.take setting.disk setting.workPlace arguments =
        (level, .render (.ofText text) none) →
      ((run setting arguments).exitCode = 0 ↔ path ∉ summary.failed)
      ∧ (∀ document, Document.inFile setting.rendering (Path.name path) content = .ok document →
        ∃ written bytes, Text.Utf8.encode written = .ok bytes
        ∧ state.disk.get? (target output path) = some (.file bytes)
        ∧ setting.console.echo written = .ok (run setting arguments).output
        ∧ ('\x1b' ∉ written.toList → (run setting arguments).output = written ++ "\n"))
      ∧ ∀ failure, Document.inFile setting.rendering (Path.name path) content = .error failure →
        (run setting arguments).output = ""
        ∧ ∀ other, state.disk.get? (target output path) ≠ some (.file other))
    ∧ ((∀ name ∈ source ++ path, Disk.IsFileName name) →
      setting.disk.Leads setting.workPlace (Path.text (source ++ path)) (source ++ path)) := by
  obtain ⟨hsound', hfile'⟩ : setting.disk.Sound
      ∧ setting.disk.get? (source ++ path) = some (.file content) := by
    rcases hnow with hnow | hnow
    · rw [hnow]
      exact ⟨hsound, hfile⟩
    · rw [hnow]
      exact ⟨(progress_of_perform_clean hsound hbuild).2.2.sound,
        get?_source_of_build hsound hbuild hapart hfile⟩
  have hpath : path ≠ [] := by
    rintro rfl
    cases hdoc.named
  have hname : Path.name (source ++ path) = Path.name path := Disk.name_append source hpath
  refine ⟨?_, ?_⟩
  · intro text arguments level hleads hask
    have hsame := hrendering.inFile_eq hbuilding
    cases hdocument : Document.inFile setting.rendering (Path.name path) content with
    | ok document =>
        obtain ⟨hfailed, bytes, hbytes, hwritten⟩ :=
          built_of_ok hsound hbuild hapart hdoc hfile (hsame ▸ hdocument)
        rw [CompilesTo, ← hrendering.generate_eq hbuilding hdocument] at hbytes
        rw [← hrendering.generate_eq hbuilding hdocument] at hfailed
        obtain ⟨shown, hshown⟩ := hprints.encoded _ _ hbytes
        obtain ⟨hcode, hprinted⟩ :=
          run_render_of_ok hsound' hask hleads hfile' (hname ▸ hdocument) hshown
        refine ⟨?_, ?_, ?_⟩
        · rw [hcode, hfailed]
          cases (document.generate setting.rendering).failed <;> simp
        · rintro _ ⟨⟩
          rw [hprinted]
          exact ⟨_, bytes, hbytes, hwritten, hshown, fun hplain => hprints.plain _ _ hplain hshown⟩
        · rintro _ ⟨⟩
    | error failure =>
        obtain ⟨hcode, hprinted⟩ := run_render_of_error hsound' hask hleads hfile' (hname ▸ hdocument)
        obtain ⟨hfailed, hmissing⟩ :=
          built_of_error hsound hbuild hapart hdoc hfile (hsame ▸ hdocument)
        refine ⟨?_, ?_, ?_⟩
        · rw [hcode]
          exact iff_of_false (by decide) (not_not_intro hfailed)
        · rintro _ ⟨⟩
        · rintro _ -
          exact ⟨hprinted, hmissing⟩
  · intro hnames
    have hplace : source ++ path ≠ [] := List.append_ne_nil_of_right_ne_nil source hpath
    exact hsound'.leads_text (hfile' ▸ rfl) hplace hnames setting.workPlace

/-- A text with a control sequence that makes it red. -/
def red : ByteArray :=
  "\x7b\"ast\": \x7b\"type\": 3, \"text\": \"\\u001b[31mred\"\x7d\x7d".toUTF8

def broken : ByteArray :=
  "\x7b".toUTF8

def coloured : Disk where
  entries := [(["s"], .directory), (["s", "a.json"], .file red), (["s", "b.json"], .file broken)]

/-- More room than `little` leaves. -/
def roomier : Limits where
  brackets := 5
  nodes := 3
  visits := 5

/-- The usual console in a directory of a disk, where rendering may nest deeper than building. -/
def atHand (disk : Disk) (workPlace : Path) : Setting where
  console := .usual
  rendering := roomier
  building := little
  disk := disk
  workPlace := workPlace

theorem prints_atHand (disk : Disk) (workPlace : Path) : (atHand disk workPlace).console.Prints :=
  Console.prints_usual

theorem little_within_roomier : little.Within roomier :=
  ⟨by decide, by decide, by decide⟩

theorem generated_red : ∃ document, Document.inFile little "a.json" red = .ok document
    ∧ (document.generate little).failed = false
    ∧ (document.generate little).document = "<template name=\"a\">\x1b[31mred</template>" :=
  ⟨_, rfl, rfl, rfl⟩

theorem fits_red : Document.Fits little "a.json" red := by
  obtain ⟨document, hdocument, hgenerated, -⟩ := generated_red
  exact Document.fits_of_generated hdocument hgenerated

theorem fits_broken : Document.Fits little "b.json" broken :=
  Document.fits_of_error rfl nofun

theorem render_agrees_with_build_coloured :
    coloured.Sound ∧ IsDocument coloured ["s"] ["a.json"] ∧ IsDocument coloured ["s"] ["b.json"]
      ∧ ∃ state, perform little ["s"] ["o"] true ⟨coloured, []⟩ = .ok ⟨2, 1, [["b.json"]], ["o"]⟩ state
      ∧ (run (atHand coloured ["s"]) ["render", "../s/a.json"]).exitCode = 0
      ∧ (run (atHand state.disk []) ["render", "/s/b.json"]).exitCode ≠ 0
      ∧ (run (atHand state.disk []) ["render", "/s/b.json"]).output = "" := by
  have hsound : coloured.Sound := by decide
  have hfirst : IsDocument coloured ["s"] ["a.json"] := ⟨rfl, by decide, by decide⟩
  have hsecond : IsDocument coloured ["s"] ["b.json"] := ⟨rfl, by decide, by decide⟩
  obtain ⟨state, hbuild, hwalk, hfind⟩ : ∃ state,
      perform little ["s"] ["o"] true ⟨coloured, []⟩ = .ok ⟨2, 1, [["b.json"]], ["o"]⟩ state
      ∧ state.disk.walk "" [] ["s", "b.json"] = .ok ["s", "b.json"]
      ∧ (Lookup.mk state.disk []).find "/s/b.json" = .ok (some (.file broken)) := ⟨_, rfl, rfl, rfl⟩
  have hleads : coloured.Leads ["s"] "../s/a.json" ["s", "a.json"] :=
    ⟨rfl, (Disk.walk_eq_ok_iff "").mp rfl⟩
  have hleads' : state.disk.Leads [] "/s/b.json" ["s", "b.json"] :=
    ⟨rfl, (Disk.walk_eq_ok_iff "").mp hwalk⟩
  obtain ⟨hok, -⟩ := render_agrees_with_build (prints_atHand coloured ["s"]) hsound hbuild
    (by decide) hfirst rfl (fits_red.mono little_within_roomier) fits_red (.inl rfl)
  obtain ⟨hcode, -⟩ := hok _ _ _ hleads (Console.take_usual rfl rfl)
  obtain ⟨herror, -⟩ := render_agrees_with_build (prints_atHand state.disk []) hsound hbuild
    (by decide) hsecond rfl (fits_broken.mono little_within_roomier) fits_broken (.inr rfl)
  obtain ⟨hcode', -, hprinted⟩ := herror _ _ _ hleads' (Console.take_usual rfl hfind)
  refine ⟨hsound, hfirst, hsecond, state, hbuild, hcode.mpr (by decide), ?_, (hprinted _ rfl).1⟩
  rw [ne_eq, hcode', not_not]
  decide

/-- The target keeps its colour, and the rendered file does not. -/
theorem colour_lost_in_rendering :
    ∃ state, perform little ["s"] ["o"] true ⟨coloured, []⟩ = .ok ⟨2, 1, [["b.json"]], ["o"]⟩ state
      ∧ state.disk.get? ["o", "a.wxml"] =
        some (.file "<template name=\"a\">\x1b[31mred</template>".toUTF8)
      ∧ (run (atHand state.disk []) ["render", "s/a.json"]).exitCode = 0
      ∧ (run (atHand state.disk []) ["render", "s/a.json"]).output =
        "<template name=\"a\">red</template>\n" := by
  have hsound : coloured.Sound := by decide
  obtain ⟨state, hbuild, hfile, hwritten, hwalk, hfind⟩ : ∃ state,
      perform little ["s"] ["o"] true ⟨coloured, []⟩ = .ok ⟨2, 1, [["b.json"]], ["o"]⟩ state
      ∧ state.disk.get? ["s", "a.json"] = some (.file red)
      ∧ state.disk.get? ["o", "a.wxml"] =
        some (.file "<template name=\"a\">\x1b[31mred</template>".toUTF8)
      ∧ state.disk.walk "" [] ["s", "a.json"] = .ok ["s", "a.json"]
      ∧ (Lookup.mk state.disk []).find "s/a.json" = .ok (some (.file red)) :=
    ⟨_, rfl, rfl, rfl, rfl, rfl⟩
  have hsound' := (progress_of_perform_clean hsound hbuild).2.2.sound
  have hleads : state.disk.Leads [] "s/a.json" ["s", "a.json"] :=
    ⟨rfl, (Disk.walk_eq_ok_iff "").mp hwalk⟩
  obtain ⟨document, hdocument, hgenerated, htext⟩ := generated_red
  have hfits : Document.Fits roomier "a.json" red := fits_red.mono little_within_roomier
  rw [fits_red.generate_eq hfits hdocument] at hgenerated htext
  have hload : Document.inFile roomier "a.json" red = .ok document :=
    (fits_red.inFile_eq hfits).symm.trans hdocument
  have hshown : Console.usual.echo (document.generate roomier).document =
      .ok "<template name=\"a\">red</template>\n" := by
    rw [htext]
    rfl
  have hask : (atHand state.disk []).console.take state.disk [] ["render", "s/a.json"] =
      (.info, .render (.ofText "s/a.json") none) := Console.take_usual rfl hfind
  obtain ⟨hcode, hprinted⟩ := run_render_of_ok hsound' hask hleads hfile hload hshown
  refine ⟨state, hbuild, hwritten, ?_, hprinted⟩
  rw [hcode]
  exact if_neg (hgenerated ▸ Bool.false_ne_true)

end Build

end MiniTemplate

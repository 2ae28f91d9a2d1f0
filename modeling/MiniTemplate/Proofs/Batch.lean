import MiniTemplate.Proofs.CodePoints
import MiniTemplate.Proofs.DocumentPaths
/-!
# Compiling a batch of documents

Compiling one document either skips it, or puts its file into the output directory together with the
directories on the way, or ends the build; `compile_cases` says which, and everything about batches
comes from there. Of a batch that goes well so far, the disk is known exactly (`Progress`): it holds
what it held before, the files of the documents that were loaded, and the directories above them. In
particular the documents themselves are still what they were, so each is read as it was at the
beginning, whatever was written in between.
-/

namespace MiniTemplate.Build

open Disk (Path Entry)

theorem bind_apply {α β : Type} (x : Build α) (f : α → Build β) (state : State) :
    (x >>= f) state =
      match x state with
      | .ok a next => f a next
      | .error failure next => .error failure next := by
  change EStateM.bind x f state = _
  rw [EStateM.bind]
  cases x state <;> rfl

/-! ### One document -/

/-- What comes of reading the document at a path. -/
def reading (limits : Limits) (disk : Disk) (source path : Path) :
    Except Document.FileFailure Document :=
  (Document.ofFile limits (Path.text (source ++ path)) (Path.name path)
    (disk.readAt (Path.text (source ++ path)) (source ++ path))).1

def loaded? (limits : Limits) (disk : Disk) (source path : Path) : Option Document :=
  (reading limits disk source path).toOption

/-- Some failures to read a document end the whole build: an integer that is too long, and nodes or
brackets that nest too deep. -/
def halting (limits : Limits) (disk : Disk) (source path : Path) : Bool :=
  match reading limits disk source path with
  | .error (.longInteger _) => true
  | .error .tooDeep => true
  | _ => false

/-- A document fails if it cannot be loaded, or if its template cannot be generated. -/
def fails (limits : Limits) (disk : Disk) (source path : Path) : Bool :=
  match loaded? limits disk source path with
  | none => true
  | some document => (document.generate limits).failed

/-- The content of the file that a document is compiled to. -/
def CompilesTo (limits : Limits) (document : Document) (content : ByteArray) : Prop :=
  Text.Utf8.encode (document.generate limits).document = .ok content

theorem CompilesTo.unique {limits : Limits} {document : Document} {content other : ByteArray}
    (hcontent : CompilesTo limits document content) (hother : CompilesTo limits document other) :
    content = other :=
  Except.ok.inj (hcontent.symm.trans hother)

theorem load_cases (limits : Limits) (source path : Path) (disk : Disk) (log : Log) :
    ∃ later,
      (∃ document, loaded? limits disk source path = some document
        ∧ load limits source path ⟨disk, log⟩ = .ok (some document) ⟨disk, later⟩)
      ∨ (loaded? limits disk source path = none ∧ halting limits disk source path = false
        ∧ load limits source path ⟨disk, log⟩ = .ok none ⟨disk, later⟩)
      ∨ (halting limits disk source path = true
        ∧ ∃ failure, load limits source path ⟨disk, log⟩ = .error failure ⟨disk, later⟩) := by
  have hget : (get : Build State) ⟨disk, log⟩ = .ok ⟨disk, log⟩ ⟨disk, log⟩ := rfl
  rw [loaded?, halting, reading]
  simp only [load, bind_apply, hget]
  rcases Document.ofFile limits (Path.text (source ++ path)) (Path.name path)
    (disk.readAt (Path.text (source ++ path)) (source ++ path)) with ⟨failure | document, events⟩
  · cases failure with
    | malformed error => exact ⟨_, .inr (.inl ⟨rfl, rfl, rfl⟩)⟩
    | unreadable fault => exact ⟨_, .inr (.inl ⟨rfl, rfl, rfl⟩)⟩
    | longInteger digits => exact ⟨_, .inr (.inr ⟨rfl, _, rfl⟩)⟩
    | tooDeep => exact ⟨_, .inr (.inr ⟨rfl, _, rfl⟩)⟩
  · exact ⟨_, .inl ⟨document, rfl, rfl⟩⟩

/-- Everything that compiling a document can come to. -/
inductive Compilation (limits : Limits) (source output path : Path) (disk : Disk) :
    EStateM.Result Failure State Bool → Prop where
  /-- the document ends the build before anything is written -/
  | halted (failure : Failure) (log : Log) (hhalting : halting limits disk source path = true) :
      Compilation limits source output path disk (.error failure ⟨disk, log⟩)
  | skipped (log : Log) (hloaded : loaded? limits disk source path = none)
      (hhalting : halting limits disk source path = false) :
      Compilation limits source output path disk (.ok false ⟨disk, log⟩)
  /-- a file stands on the way to the target -/
  | obstructed (failure : Failure) (log : Log) (document : Document)
      (hloaded : loaded? limits disk source path = some document)
      (hfree : ¬ disk.Free (target output path).dropLast) :
      Compilation limits source output path disk (.error failure ⟨disk, log⟩)
  /-- a directory stands at the target -/
  | occupied (failure : Failure) (log : Log) (document : Document)
      (hloaded : loaded? limits disk source path = some document)
      (hfree : disk.Free (target output path).dropLast)
      (htaken : (disk.makeFrom [] (target output path).dropLast).isDirectory (target output path) = true) :
      Compilation limits source output path disk
        (.error failure ⟨disk.makeFrom [] (target output path).dropLast, log⟩)
  /-- the text of the document cannot be encoded, and its file stays empty -/
  | unwritable (failure : Failure) (log : Log) (document : Document)
      (hloaded : loaded? limits disk source path = some document)
      (hcontent : ¬ ∃ content, CompilesTo limits document content)
      (hfree : disk.Free (target output path).dropLast)
      (htaken : (disk.makeFrom [] (target output path).dropLast).isDirectory (target output path) = false) :
      Compilation limits source output path disk
        (.error failure
          ⟨(disk.makeFrom [] (target output path).dropLast).put (target output path) (.file .empty), log⟩)
  | completed (log : Log) (document : Document) (content : ByteArray)
      (hloaded : loaded? limits disk source path = some document)
      (hcontent : CompilesTo limits document content)
      (hfree : disk.Free (target output path).dropLast)
      (htaken : (disk.makeFrom [] (target output path).dropLast).isDirectory (target output path) = false) :
      Compilation limits source output path disk
        (.ok (!(document.generate limits).failed)
          ⟨(disk.makeFrom [] (target output path).dropLast).put (target output path) (.file content), log⟩)

theorem ofDisk_of_ok {action : Disk → Except Disk.Fault Disk} {disk after : Disk} {log : Log}
    (haction : action disk = .ok after) : ofDisk action ⟨disk, log⟩ = .ok ⟨⟩ ⟨after, log⟩ := by
  have hget : (get : Build State) ⟨disk, log⟩ = .ok ⟨disk, log⟩ ⟨disk, log⟩ := rfl
  simp only [ofDisk, bind_apply, hget, haction]
  rfl

theorem ofDisk_of_error {action : Disk → Except Disk.Fault Disk} {disk : Disk} {fault : Disk.Fault}
    {log : Log} (haction : action disk = .error fault) :
    ofDisk action ⟨disk, log⟩ = .error (.system fault) ⟨disk, log⟩ := by
  have hget : (get : Build State) ⟨disk, log⟩ = .ok ⟨disk, log⟩ ⟨disk, log⟩ := rfl
  simp only [ofDisk, bind_apply, hget, haction]
  rfl

theorem writeText_of_directory {file : Path} {disk : Disk} (htaken : disk.isDirectory file = true)
    (text : String) (log : Log) :
    ∃ failure, writeText file text ⟨disk, log⟩ = .error failure ⟨disk, log⟩ := by
  rw [writeText]
  cases Text.Utf8.encode text with
  | ok content => exact ⟨_, ofDisk_of_error (if_pos htaken)⟩
  | error fault =>
      dsimp only
      rw [bind_apply, ofDisk_of_error (if_pos htaken)]
      exact ⟨_, rfl⟩

/-- What writing a text comes to where no directory is in its place. -/
theorem writeText_of_free {file : Path} {disk : Disk} (htaken : disk.isDirectory file = false)
    (text : String) (log : Log) :
    writeText file text ⟨disk, log⟩ =
      match Text.Utf8.encode text with
      | .ok content => .ok ⟨⟩ ⟨disk.put file (.file content), log⟩
      | .error fault => .error (.unwritable fault) ⟨disk.put file (.file .empty), log⟩ := by
  have hwrite : ∀ content, disk.write file content = .ok (disk.put file (.file content)) :=
    fun content => if_neg (Bool.not_eq_true _ ▸ htaken)
  rw [writeText]
  cases Text.Utf8.encode text with
  | ok content => exact ofDisk_of_ok (hwrite content)
  | error fault =>
      dsimp only
      rw [bind_apply, ofDisk_of_ok (hwrite .empty)]
      rfl

/-- **Compiling a document comes to one of six things.** -/
theorem compile_cases (limits : Limits) (source output path : Path) (disk : Disk) (log : Log) :
    Compilation limits source output path disk (compile limits source output path ⟨disk, log⟩) := by
  rw [compile, bind_apply]
  obtain ⟨later, ⟨document, hloaded, hload⟩ | ⟨hloaded, hhalting, hload⟩ | ⟨hhalting, failure, hload⟩⟩ :=
    load_cases limits source path disk log
  · rw [hload]
    have hreport : report (document.generate limits).pass.log ⟨disk, later⟩ =
        .ok ⟨⟩ ⟨disk, later ++ (document.generate limits).pass.log⟩ := rfl
    simp only [bind_apply, hreport]
    by_cases hfree : disk.Free (target output path).dropLast
    · rw [ofDisk_of_ok (Disk.makeDirectory_of_free hfree)]
      dsimp only
      cases htaken : (disk.makeFrom [] (target output path).dropLast).isDirectory
          (target output path) with
      | true =>
          obtain ⟨failure, hwrite⟩ := writeText_of_directory htaken (document.generate limits).document
            (later ++ (document.generate limits).pass.log)
          rw [hwrite]
          exact .occupied _ _ document hloaded hfree htaken
      | false =>
          rw [writeText_of_free htaken]
          cases hcontent : Text.Utf8.encode (document.generate limits).document with
          | ok content => exact .completed _ document content hloaded hcontent hfree htaken
          | error fault =>
              refine .unwritable _ _ document hloaded ?_ hfree htaken
              rintro ⟨content, hother⟩
              rw [CompilesTo, hcontent] at hother
              cases hother
    · obtain ⟨fault, hfault⟩ := Disk.makeDirectory_of_not_free hfree
      rw [ofDisk_of_error hfault]
      exact .obstructed _ _ document hloaded hfree
  · rw [hload]
    exact .skipped later hloaded hhalting
  · rw [hload]
    exact .halted failure later hhalting

/-! ### A batch that goes well so far -/

/-- The output directory is there and holds nothing. -/
structure Emptied (disk : Disk) (output : Path) : Prop where
  sound : disk.Sound
  directory : disk.get? output = some .directory
  empty : ∀ path, output <+: path → path ≠ output → disk.get? path = none

/-- What the disk holds after the documents in `done`, when all of them were compiled or skipped. -/
structure Progress (limits : Limits) (base : Disk) (source output : Path) (done : List Path)
    (disk : Disk) : Prop where
  sound : disk.Sound
  documents : ∀ path ∈ done, IsDocument base source path
  kept : ∀ path entry, base.get? path = some entry → disk.get? path = some entry
  written : ∀ path ∈ done, ∀ document, loaded? limits base source path = some document →
    ∃ content, CompilesTo limits document content
      ∧ disk.get? (target output path) = some (.file content)
  only : ∀ path entry, disk.get? path = some entry →
    base.get? path = some entry
    ∨ ∃ other ∈ done, ∃ document, loaded? limits base source other = some document
      ∧ ((path = target output other ∧ ∃ content, CompilesTo limits document content
          ∧ entry = .file content)
        ∨ (path <+: target output other ∧ path ≠ target output other ∧ entry = .directory))

theorem Progress.start {base : Disk} {output : Path} (hbase : Emptied base output) (limits : Limits)
    (source : Path) :
    Progress limits base source output [] base where
  sound := hbase.sound
  documents := nofun
  kept _ _ hget := hget
  written := nofun
  only _ _ hget := .inl hget

theorem target_not_prefix_dropLast (output path : Path) :
    ¬ target output path <+: (target output path).dropLast := by
  intro hunder
  have hlength := hunder.length_le
  have hpos := List.length_pos_iff.mpr (target_ne_nil output path)
  rw [List.length_dropLast] at hlength
  omega

variable {limits : Limits} {base disk after : Disk} {source output path : Path} {done paths : List Path}
  {log later : Log}

namespace Emptied

theorem isFile_of_prefix_target (hbase : Emptied base output) {other : Path}
    (hunder : other <+: target output path) : base.isFile other = false := by
  rw [← Bool.not_eq_true, Disk.isFile_iff]
  rintro ⟨content, hfile⟩
  rcases List.prefix_or_prefix_of_prefix hunder (prefix_target output path) with habove | hbelow
  · by_cases hsame : other = output
    · rw [hsame, hbase.directory] at hfile
      exact nomatch hfile
    · have hthere : (base.get? output).isSome = true := by
        rw [hbase.directory]
        rfl
      have hdirectory := hbase.sound.isDirectory_of_prefix hthere habove hsame
      rw [Disk.isDirectory_iff, hfile] at hdirectory
      exact nomatch hdirectory
  · by_cases hsame : other = output
    · rw [hsame, hbase.directory] at hfile
      exact nomatch hfile
    · rw [hbase.empty other hbelow hsame] at hfile
      exact nomatch hfile

theorem get?_target (hbase : Emptied base output) (path : Path) :
    base.get? (target output path) = none :=
  hbase.empty _ (prefix_target output path) (target_ne_output output path)

end Emptied

namespace Progress

/-- A document is read as it was at the beginning. -/
theorem reading_eq (hprogress : Progress limits base source output done disk)
    (hdoc : IsDocument base source path) :
    reading limits disk source path = reading limits base source path := by
  obtain ⟨entry, hget⟩ := Option.isSome_iff_exists.mp hdoc.there
  have hsame : disk.get? (source ++ path) = base.get? (source ++ path) := by
    rw [hget, hprogress.kept _ _ hget]
  rw [reading, reading, Disk.readAt, Disk.readAt, hsame]

theorem loaded?_eq (hprogress : Progress limits base source output done disk)
    (hdoc : IsDocument base source path) :
    loaded? limits disk source path = loaded? limits base source path := by
  rw [loaded?, loaded?, hprogress.reading_eq hdoc]

theorem halting_eq (hprogress : Progress limits base source output done disk)
    (hdoc : IsDocument base source path) :
    halting limits disk source path = halting limits base source path := by
  rw [halting, halting, hprogress.reading_eq hdoc]

theorem documents_snoc (hprogress : Progress limits base source output done disk)
    (hdoc : IsDocument base source path) :
    ∀ other ∈ done ++ [path], IsDocument base source other := by
  intro other hmem
  rcases List.mem_append.mp hmem with hmem | hmem
  · exact hprogress.documents other hmem
  · exact List.mem_singleton.mp hmem ▸ hdoc

theorem skip (hprogress : Progress limits base source output done disk)
    (hdoc : IsDocument base source path) (hloaded : loaded? limits base source path = none) :
    Progress limits base source output (done ++ [path]) disk where
  sound := hprogress.sound
  documents := hprogress.documents_snoc hdoc
  kept := hprogress.kept
  written := by
    intro other hmem document hother
    rcases List.mem_append.mp hmem with hmem | hmem
    · exact hprogress.written other hmem document hother
    · rw [List.mem_singleton.mp hmem, hloaded] at hother
      exact nomatch hother
  only := by
    intro other entry hget
    rcases hprogress.only other entry hget with hbase | ⟨maker, hmem, hmade⟩
    · exact .inl hbase
    · exact .inr ⟨maker, List.mem_append_left _ hmem, hmade⟩

/-- What stands on the disk once the file of one more document was put there. -/
theorem get?_put_target (disk : Disk) (output path : Path) (entry : Entry) (other : Path) :
    ((disk.makeFrom [] (target output path).dropLast).put (target output path) entry).get? other =
      if other = target output path then some entry
      else (disk.get? other).or
        (if other <+: (target output path).dropLast then some .directory else none) := by
  rw [Disk.get?_put _ (target_ne_nil output path), Disk.get?_makeFrom_root]

theorem put (hbase : Emptied base output) (hprogress : Progress limits base source output done disk)
    (hdoc : IsDocument base source path) {document : Document}
    (hloaded : loaded? limits base source path = some document) {content : ByteArray}
    (hcontent : CompilesTo limits document content)
    (hfree : disk.Free (target output path).dropLast)
    (htaken : (disk.makeFrom [] (target output path).dropLast).isDirectory (target output path) = false) :
    Progress limits base source output (done ++ [path])
      ((disk.makeFrom [] (target output path).dropLast).put (target output path)
        (.file content)) where
  sound := by
    have hmade : (disk.makeFrom [] (target output path).dropLast).Sound :=
      hprogress.sound.makeFrom rfl hfree
    apply hmade.put (target_ne_nil output path)
    · rw [Disk.isDirectory_iff, Disk.get?_makeFrom_root, if_pos (List.prefix_refl _)]
      have hfile := hfree _ (List.prefix_refl _)
      cases hget : disk.get? (target output path).dropLast with
      | none => rfl
      | some entry =>
          cases entry with
          | directory => rfl
          | file content =>
              rw [Disk.isFile, hget] at hfile
              cases hfile
    · intro htrue
      cases htaken.symm.trans htrue
  documents := hprogress.documents_snoc hdoc
  kept := by
    intro other entry hget
    have hother : other ≠ target output path := by
      rintro rfl
      rw [hbase.get?_target] at hget
      cases hget
    rw [get?_put_target, if_neg hother, hprogress.kept other entry hget, Option.some_or]
  written := by
    intro other hmem found hfound
    have hdocument := hprogress.documents_snoc hdoc other hmem
    rw [get?_put_target]
    by_cases hsame : target output other = target output path
    · obtain rfl := hdocument.eq_of_target_eq hdoc hsame
      rw [hloaded] at hfound
      exact ⟨content, Option.some.inj hfound ▸ hcontent, if_pos hsame⟩
    · have hdone : other ∈ done := by
        refine (List.mem_append.mp hmem).resolve_right fun hlast => hsame ?_
        rw [List.mem_singleton.mp hlast]
      obtain ⟨content, hother, hget⟩ := hprogress.written other hdone found hfound
      exact ⟨content, hother, by rw [if_neg hsame, hget, Option.some_or]⟩
  only := by
    intro other entry hget
    rw [get?_put_target] at hget
    have hlast : path ∈ done ++ [path] := List.mem_append_right done List.mem_cons_self
    by_cases hsame : other = target output path
    · rw [if_pos hsame] at hget
      refine .inr ⟨path, hlast, document, hloaded, .inl ⟨hsame, content, hcontent, ?_⟩⟩
      exact (Option.some.inj hget).symm
    · rw [if_neg hsame, Option.or_eq_some_iff] at hget
      rcases hget with hget | ⟨-, hget⟩
      · rcases hprogress.only other entry hget with hold | ⟨maker, hmem, hmade⟩
        · exact .inl hold
        · exact .inr ⟨maker, List.mem_append_left _ hmem, hmade⟩
      · obtain ⟨habove, hentry⟩ := Option.ite_none_right_eq_some.mp hget
        refine .inr ⟨path, hlast, document, hloaded, .inr ⟨?_, hsame, (Option.some.inj hentry).symm⟩⟩
        exact habove.trans (List.dropLast_prefix _)

/-- One more document that does not end the build. -/
theorem compile_ok (hbase : Emptied base output)
    (hprogress : Progress limits base source output done disk) (hdoc : IsDocument base source path)
    {succeeded : Bool}
    (hrun : compile limits source output path ⟨disk, log⟩ = .ok succeeded ⟨after, later⟩) :
    succeeded = !fails limits base source path ∧ halting limits base source path = false
      ∧ Progress limits base source output (done ++ [path]) after := by
  have hcases := compile_cases limits source output path disk log
  rw [hrun] at hcases
  rw [fails, ← hprogress.loaded?_eq hdoc, ← hprogress.halting_eq hdoc]
  cases hcases with
  | skipped _ hloaded hhalting =>
      rw [hloaded]
      rw [hprogress.loaded?_eq hdoc] at hloaded
      exact ⟨rfl, hhalting, hprogress.skip hdoc hloaded⟩
  | completed _ document content hloaded hcontent hfree htaken =>
      have hhalting : halting limits disk source path = false := by
        rw [loaded?] at hloaded
        rw [halting]
        cases hreading : reading limits disk source path with
        | ok found => rfl
        | error failure =>
            rw [hreading] at hloaded
            exact nomatch hloaded
      rw [hloaded]
      rw [hprogress.loaded?_eq hdoc] at hloaded
      exact ⟨rfl, hhalting, hprogress.put hbase hdoc hloaded hcontent hfree htaken⟩

end Progress

/-- No document ends the build: none goes beyond what can be read, and of those that are loaded the text
of each can be encoded, and no target stands on the way to another. -/
structure Compilable (limits : Limits) (disk : Disk) (source output : Path) : Prop where
  readable : ∀ path, IsDocument disk source path → halting limits disk source path = false
  writable : ∀ path document, IsDocument disk source path →
    loaded? limits disk source path = some document →
    ¬ Text.HoldsSurrogate (document.generate limits).document
  apart : ∀ first second, IsDocument disk source first → IsDocument disk source second →
    (loaded? limits disk source first).isSome = true → (loaded? limits disk source second).isSome = true →
    target output first <+: target output second → first = second

namespace Progress

/-- A file on the way to a target is that of an earlier document. -/
theorem exists_of_not_free (hbase : Emptied base output)
    (hprogress : Progress limits base source output done disk)
    (hfree : ¬ disk.Free (target output path).dropLast) :
    ∃ other ∈ done, (loaded? limits base source other).isSome = true
      ∧ target output other <+: target output path ∧ target output other ≠ target output path := by
  rw [Disk.Free] at hfree
  push Not at hfree
  obtain ⟨file, hunder, hfile⟩ := hfree
  rw [ne_eq, Bool.not_eq_false, Disk.isFile_iff] at hfile
  obtain ⟨content, hget⟩ := hfile
  have hway : file <+: target output path := hunder.trans (List.dropLast_prefix _)
  rcases hprogress.only file _ hget with hold | ⟨other, hmem, document, hloaded, hmade⟩
  · have hnone := hbase.isFile_of_prefix_target hway
    rw [Disk.isFile, hold] at hnone
    cases hnone
  · rcases hmade with ⟨rfl, -⟩ | ⟨-, -, hentry⟩
    · refine ⟨other, hmem, hloaded ▸ rfl, hway, ?_⟩
      intro hsame
      exact target_not_prefix_dropLast output path (hsame ▸ hunder)
    · cases hentry

/-- A directory at a target was made on the way to that of an earlier document. -/
theorem exists_of_taken (hbase : Emptied base output)
    (hprogress : Progress limits base source output done disk)
    (htaken : (disk.makeFrom [] (target output path).dropLast).isDirectory (target output path) = true) :
    ∃ other ∈ done, (loaded? limits base source other).isSome = true
      ∧ target output path <+: target output other ∧ target output path ≠ target output other := by
  rw [Disk.isDirectory_iff, Disk.get?_makeFrom_root,
    if_neg (target_not_prefix_dropLast output path), Option.or_none] at htaken
  rcases hprogress.only _ _ htaken with hold | ⟨other, hmem, document, hloaded, hmade⟩
  · rw [hbase.get?_target] at hold
    exact nomatch hold
  · rcases hmade with ⟨-, content, -, hentry⟩ | ⟨hunder, hother, -⟩
    · exact nomatch hentry
    · exact ⟨other, hmem, hloaded ▸ rfl, hunder, hother⟩

theorem compile_completes (hbase : Emptied base output)
    (hprogress : Progress limits base source output done disk) (hdoc : IsDocument base source path)
    (hcompilable : Compilable limits base source output) (log : Log) :
    ∃ succeeded after later,
      compile limits source output path ⟨disk, log⟩ = .ok succeeded ⟨after, later⟩ := by
  have hreadable := hcompilable.readable path hdoc
  rw [← hprogress.halting_eq hdoc] at hreadable
  have hcases := compile_cases limits source output path disk log
  generalize compile limits source output path ⟨disk, log⟩ = result at hcases ⊢
  cases hcases with
  | halted failure log hhalting =>
      rw [hreadable] at hhalting
      exact nomatch hhalting
  | skipped log hloaded hhalting => exact ⟨_, _, _, rfl⟩
  | completed log document content hloaded hcontent hfree htaken => exact ⟨_, _, _, rfl⟩
  | unwritable failure log document hloaded hcontent hfree htaken =>
      rw [hprogress.loaded?_eq hdoc] at hloaded
      have hwritable := hcompilable.writable path document hdoc hloaded
      exact absurd (Text.Utf8.exists_encode_iff.mpr hwritable) hcontent
  | obstructed failure log document hloaded hfree =>
      obtain ⟨other, hmem, hother, hunder, hdiffer⟩ := hprogress.exists_of_not_free hbase hfree
      rw [hprogress.loaded?_eq hdoc] at hloaded
      have hsame := hcompilable.apart other path (hprogress.documents other hmem) hdoc hother
        (hloaded ▸ rfl) hunder
      exact absurd (congrArg (target output) hsame) hdiffer
  | occupied failure log document hloaded hfree htaken =>
      obtain ⟨other, hmem, hother, hunder, hdiffer⟩ := hprogress.exists_of_taken hbase htaken
      rw [hprogress.loaded?_eq hdoc] at hloaded
      have hsame := hcompilable.apart path other hdoc (hprogress.documents other hmem)
        (hloaded ▸ rfl) hother hunder
      exact absurd (congrArg (target output) hsame) hdiffer

/-! ### Whole batches -/

/-- Of a batch that is completed, the documents that fail are listed in their order. -/
theorem compileAll_ok (hbase : Emptied base output)
    (hprogress : Progress limits base source output done disk)
    (hdocs : ∀ path ∈ paths, IsDocument base source path) {failed : List Path} {state : State}
    (hrun : compileAll limits source output paths ⟨disk, log⟩ = .ok failed state) :
    failed = paths.filter (fails limits base source)
      ∧ (∀ path ∈ paths, halting limits base source path = false)
      ∧ Progress limits base source output (done ++ paths) state.disk := by
  induction paths generalizing disk done log failed with
  | nil =>
      cases hrun
      rw [List.append_nil]
      exact ⟨rfl, nofun, hprogress⟩
  | cons path paths ih =>
      obtain ⟨hdoc, hdocs⟩ := List.forall_mem_cons.mp hdocs
      rw [compileAll, bind_apply] at hrun
      cases hfirst : compile limits source output path ⟨disk, log⟩ with
      | error failure next =>
          rw [hfirst] at hrun
          exact nomatch hrun
      | ok succeeded next =>
          obtain ⟨hsucceeded, hhalting, hnext⟩ := hprogress.compile_ok hbase hdoc hfirst
          simp only [hfirst, bind_apply] at hrun
          cases hrest : compileAll limits source output paths next with
          | error failure last =>
              rw [hrest] at hrun
              exact nomatch hrun
          | ok others last =>
              rw [hrest] at hrun
              cases hrun
              obtain ⟨hothers, hreadable, hlast⟩ := ih hnext hdocs hrest
              rw [List.append_assoc] at hlast
              refine ⟨?_, List.forall_mem_cons.mpr ⟨hhalting, hreadable⟩, hlast⟩
              rw [List.filter_cons, hsucceeded, hothers]
              cases fails limits base source path <;> rfl

theorem compileAll_completes (hbase : Emptied base output)
    (hprogress : Progress limits base source output done disk)
    (hdocs : ∀ path ∈ paths, IsDocument base source path)
    (hcompilable : Compilable limits base source output) (log : Log) :
    ∃ failed state, compileAll limits source output paths ⟨disk, log⟩ = .ok failed state := by
  induction paths generalizing disk done log with
  | nil => exact ⟨_, _, rfl⟩
  | cons path paths ih =>
      obtain ⟨hdoc, hdocs⟩ := List.forall_mem_cons.mp hdocs
      obtain ⟨succeeded, next, later, hfirst⟩ :=
        hprogress.compile_completes hbase hdoc hcompilable log
      obtain ⟨-, -, hnext⟩ := hprogress.compile_ok hbase hdoc hfirst
      obtain ⟨others, state, hrest⟩ := ih hnext hdocs later
      simp only [compileAll, bind_apply, hfirst, hrest]
      exact ⟨_, _, rfl⟩

/-- Two targets that were both written are not one above the other. -/
theorem apart (hprogress : Progress limits base source output done disk) {first second : Path}
    (hfirst : first ∈ done) (hsecond : second ∈ done)
    (hloaded : (loaded? limits base source first).isSome = true)
    (hloaded' : (loaded? limits base source second).isSome = true)
    (hunder : target output first <+: target output second) : first = second := by
  obtain ⟨document, hdocument⟩ := Option.isSome_iff_exists.mp hloaded
  obtain ⟨document', hdocument'⟩ := Option.isSome_iff_exists.mp hloaded'
  obtain ⟨content, -, hwritten⟩ := hprogress.written first hfirst document hdocument
  obtain ⟨content', -, hwritten'⟩ := hprogress.written second hsecond document' hdocument'
  apply (hprogress.documents first hfirst).eq_of_target_eq (hprogress.documents second hsecond)
  refine Decidable.byContradiction fun hother => ?_
  have hdirectory :=
    hprogress.sound.isDirectory_of_prefix (Option.isSome_iff_exists.mpr ⟨_, hwritten'⟩) hunder hother
  rw [Disk.isDirectory_iff, hwritten] at hdirectory
  exact nomatch hdirectory

end Progress

end MiniTemplate.Build

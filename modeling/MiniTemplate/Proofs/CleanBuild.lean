import MiniTemplate.Proofs.Batch
/-!
# Clean builds

A clean build removes the output directory, makes it anew and compiles the documents that it then
finds. What it leaves is known in full: the files in the output directory are those of the documents
that could be loaded, and every other file of the disk is what it was (`clean_build_exact`). A build
can also end early because of a document. That happens in three ways, which `clean_build_completes_iff`
names: a document goes beyond what can be read at all, its text holds a surrogate and cannot be encoded,
or its target stands where another one needs a directory.

All of this holds whatever the limits are.
-/

namespace MiniTemplate.Build

open Disk (Path Entry)

variable {limits : Limits} {disk other : Disk} {source output path : Path} {log : Log}

/-- The batch of a build, from the disk on which its output directory is there. -/
def batch (limits : Limits) (source output : Path) (log : Log) (made : Disk) :
    EStateM.Result Failure State Summary :=
  match compileAll limits source output (sources made source) ⟨made, log⟩ with
  | .error failure state => .error failure state
  | .ok failed state =>
    .ok { templates := (sources made source).length, failures := failed.length, failed, output } state

/-- A build from the disk on which its output directory was cleared, if it was to be. -/
def buildFrom (limits : Limits) (source output : Path) (log : Log) (cleared : Disk) :
    EStateM.Result Failure State Summary :=
  match cleared.makeDirectory output with
  | .error fault => .error (.system fault) ⟨cleared, log⟩
  | .ok made => batch limits source output log made

/-- What a build does, operation by operation. -/
theorem perform_of_apart (hout : output.within source = false) (clean : Bool) (disk : Disk)
    (log : Log) :
    perform limits source output clean ⟨disk, log⟩ =
      match (if clean then disk.clear output else .ok disk) with
      | .error fault => .error (.system fault) ⟨disk, log⟩
      | .ok cleared => buildFrom limits source output log cleared := by
  have hmake : ∀ cleared : Disk,
      (do
        ofDisk fun disk => disk.makeDirectory output
        let paths := sources (← get).disk source
        let failed ← compileAll limits source output paths
        return { templates := paths.length, failures := failed.length, failed, output } :
          Build Summary) ⟨cleared, log⟩ = buildFrom limits source output log cleared := by
    intro cleared
    rw [bind_apply, buildFrom]
    cases hmade : cleared.makeDirectory output with
    | error fault => rw [ofDisk_of_error hmade]
    | ok made =>
        rw [ofDisk_of_ok hmade]
        change (compileAll limits source output (sources made source) >>= _) (⟨made, log⟩ : State) =
          batch limits source output log made
        rw [bind_apply, batch]
        cases compileAll limits source output (sources made source) ⟨made, log⟩ <;> rfl
  simp only [perform, hout, Bool.false_eq_true, if_false]
  cases clean with
  | false => exact hmake disk
  | true =>
      rw [if_pos rfl, if_pos rfl, bind_apply]
      cases hclear : disk.clear output with
      | error fault => rw [ofDisk_of_error hclear]
      | ok cleared =>
          rw [ofDisk_of_ok hclear]
          exact hmake cleared

theorem perform_of_within (hout : output.within source = true) (clean : Bool) (disk : Disk)
    (log : Log) :
    perform limits source output clean ⟨disk, log⟩ = .error .outputHoldsSources ⟨disk, log⟩ := by
  simp only [perform, hout, if_true]
  rfl

/-! ### The disk when the documents are looked for -/

/-- The disk on which the output directory was removed and made anew. -/
def emptied (disk : Disk) (output : Path) : Disk :=
  (disk.remove output).makeFrom [] output

theorem ne_nil_of_apart (hout : output.within source = false) : output ≠ [] := by
  rintro rfl
  exact absurd hout (by simp [Path.within])

theorem get?_emptied (disk : Disk) (houtput : output ≠ []) (path : Path) :
    (emptied disk output).get? path =
      (if output <+: path then none else disk.get? path).or
        (if path <+: output then some .directory else none) := by
  rw [emptied, Disk.get?_makeFrom_root, Disk.get?_remove _ houtput]

theorem get?_emptied_of_within (disk : Disk) (houtput : output ≠ []) (hunder : output <+: path)
    (hother : path ≠ output) : (emptied disk output).get? path = none := by
  have hnot : ¬ path <+: output := fun habove =>
    hother (habove.eq_of_length (Nat.le_antisymm habove.length_le hunder.length_le))
  rw [get?_emptied disk houtput, if_pos hunder, if_neg hnot]
  rfl

/-- Outside of the output directory the files are what they were. -/
theorem file_emptied_iff (disk : Disk) (houtput : output ≠ []) (hout : ¬ output <+: path)
    (content : ByteArray) :
    (emptied disk output).get? path = some (.file content) ↔
      disk.get? path = some (.file content) := by
  rw [get?_emptied disk houtput, if_neg hout]
  cases disk.get? path with
  | some entry => rw [Option.some_or]
  | none =>
      rw [Option.none_or]
      split <;> simp

theorem free_remove_iff (houtput : output ≠ []) (hfile : disk.isFile output = false) :
    (disk.remove output).Free output ↔ disk.Free output := by
  refine forall₂_congr fun path habove => ?_
  by_cases hsame : path = output
  · have hgone : (disk.remove output).isFile output = false := by
      rw [Disk.isFile, Disk.get?_remove disk houtput, if_pos (List.prefix_refl output)]
    rw [hsame, hfile, hgone]
  · have hnot : ¬ output <+: path := fun hunder =>
      hsame (habove.eq_of_length (Nat.le_antisymm habove.length_le hunder.length_le))
    rw [Disk.isFile, Disk.isFile, Disk.get?_remove disk houtput, if_neg hnot]

theorem emptied_spec (hsound : disk.Sound) (houtput : output ≠ []) (hfree : disk.Free output) :
    Emptied (emptied disk output) output where
  sound := by
    have hfile : disk.isFile output = false := hfree output (List.prefix_refl output)
    exact (hsound.remove houtput).makeFrom rfl ((free_remove_iff houtput hfile).mpr hfree)
  directory := by
    rw [get?_emptied disk houtput, if_pos (List.prefix_refl output), if_pos (List.prefix_refl output)]
    rfl
  empty path hunder hother := get?_emptied_of_within disk houtput hunder hother

/-- A clean build compiles the documents that are left when the output directory was made anew. -/
theorem perform_clean (hsound : disk.Sound) (hout : output.within source = false)
    (hfree : disk.Free output) (log : Log) :
    perform limits source output true ⟨disk, log⟩ =
      batch limits source output log (emptied disk output) := by
  have hfile : disk.isFile output = false := hfree output (List.prefix_refl output)
  have hmade : (disk.remove output).makeDirectory output = .ok (emptied disk output) :=
    Disk.makeDirectory_of_free ((free_remove_iff (ne_nil_of_apart hout) hfile).mpr hfree)
  rw [perform_of_apart hout, if_pos rfl, hsound.clear hfile]
  dsimp only
  rw [buildFrom, hmade]

/-- A clean build that ends well was not refused, and no file stood in the way of its output
directory. -/
theorem free_of_perform_clean (hsound : disk.Sound) {summary : Summary} {state : State}
    (hbuild : perform limits source output true ⟨disk, log⟩ = .ok summary state) :
    output.within source = false ∧ disk.Free output := by
  cases hout : output.within source with
  | true =>
      rw [perform_of_within hout] at hbuild
      cases hbuild
  | false =>
      refine ⟨rfl, ?_⟩
      rw [perform_of_apart hout, if_pos rfl] at hbuild
      cases hfile : disk.isFile output with
      | true =>
          obtain ⟨content, hget⟩ := Disk.isFile_iff.mp hfile
          rw [Disk.clear, hget] at hbuild
          cases hbuild
      | false =>
          rw [hsound.clear hfile] at hbuild
          refine Decidable.byContradiction fun hfree => ?_
          rw [← free_remove_iff (ne_nil_of_apart hout) hfile] at hfree
          obtain ⟨fault, hfault⟩ := Disk.makeDirectory_of_not_free hfree
          dsimp only at hbuild
          rw [buildFrom, hfault] at hbuild
          cases hbuild

/-! ### What a clean build leaves -/

/-- A clean build that ends well: what it found, what it reports, and what is on the disk. -/
theorem progress_of_perform_clean (hsound : disk.Sound) {summary : Summary} {state : State}
    (hbuild : perform limits source output true ⟨disk, log⟩ = .ok summary state) :
    summary =
        { templates := (sources (emptied disk output) source).length
          failures := ((sources (emptied disk output) source).filter
            (fails limits (emptied disk output) source)).length
          failed := (sources (emptied disk output) source).filter
            (fails limits (emptied disk output) source)
          output }
      ∧ (∀ path ∈ sources (emptied disk output) source,
        halting limits (emptied disk output) source path = false)
      ∧ Progress limits (emptied disk output) source output (sources (emptied disk output) source)
        state.disk := by
  obtain ⟨hout, hfree⟩ := free_of_perform_clean hsound hbuild
  have hbase := emptied_spec hsound (ne_nil_of_apart hout) hfree
  rw [perform_clean hsound hout hfree, batch] at hbuild
  cases hrun : compileAll limits source output (sources (emptied disk output) source)
      ⟨emptied disk output, log⟩ with
  | error failure state =>
      rw [hrun] at hbuild
      exact nomatch hbuild
  | ok failed last =>
      rw [hrun] at hbuild
      cases hbuild
      obtain ⟨hfailed, hreadable, hprogress⟩ :=
        (Progress.start hbase limits source).compileAll_ok hbase (fun path => mem_sources.mp) hrun
      rw [← hfailed]
      exact ⟨rfl, hreadable, hprogress⟩

theorem compilable_of_perform_clean (hsound : disk.Sound) {summary : Summary} {state : State}
    (hbuild : perform limits source output true ⟨disk, log⟩ = .ok summary state) :
    Compilable limits (emptied disk output) source output := by
  obtain ⟨-, hreadable, hprogress⟩ := progress_of_perform_clean hsound hbuild
  constructor
  · intro path hdoc
    exact hreadable path (mem_sources.mpr hdoc)
  · intro path document hdoc hloaded
    obtain ⟨content, hcontent, -⟩ := hprogress.written path (mem_sources.mpr hdoc) document hloaded
    exact Text.Utf8.exists_encode_iff.mp ⟨content, hcontent⟩
  · intro first second hfirst hsecond
    exact hprogress.apart (mem_sources.mpr hfirst) (mem_sources.mpr hsecond)

theorem perform_clean_of_compilable (hsound : disk.Sound) (hout : output.within source = false)
    (hfree : disk.Free output) (hcompilable : Compilable limits (emptied disk output) source output)
    (log : Log) :
    ∃ summary state, perform limits source output true ⟨disk, log⟩ = .ok summary state := by
  have hbase := emptied_spec hsound (ne_nil_of_apart hout) hfree
  obtain ⟨failed, state, hrun⟩ := (Progress.start hbase limits source).compileAll_completes hbase
    (fun path => mem_sources.mp) hcompilable log
  rw [perform_clean hsound hout hfree, batch, hrun]
  exact ⟨_, _, rfl⟩

/-! ### The order of the entries makes no difference -/

section SameContents

variable (hsame : ∀ path, other.get? path = disk.get? path)
include hsame

theorem isDocument_congr : IsDocument other source path ↔ IsDocument disk source path := by
  constructor
  · rintro ⟨hthere, hnamed, hvisible⟩
    exact ⟨hsame _ ▸ hthere, hnamed, hvisible⟩
  · rintro ⟨hthere, hnamed, hvisible⟩
    exact ⟨(hsame _).symm ▸ hthere, hnamed, hvisible⟩

theorem reading_congr : reading limits other source path = reading limits disk source path := by
  rw [reading, reading, Disk.readAt, Disk.readAt, hsame]

theorem loaded?_congr : loaded? limits other source path = loaded? limits disk source path := by
  rw [loaded?, loaded?, reading_congr hsame]

theorem compilable_congr :
    Compilable limits other source output ↔ Compilable limits disk source output := by
  have hhalting : ∀ path, halting limits other source path = halting limits disk source path := by
    intro path
    rw [halting, halting, reading_congr hsame]
  constructor
  · rintro ⟨hreadable, hwritable, hapart⟩
    simp only [isDocument_congr hsame, hhalting, loaded?_congr hsame] at hreadable hwritable hapart
    exact ⟨hreadable, hwritable, hapart⟩
  · rintro ⟨hreadable, hwritable, hapart⟩
    simp only [← isDocument_congr hsame, ← hhalting, ← loaded?_congr hsame]
      at hreadable hwritable hapart
    exact ⟨hreadable, hwritable, hapart⟩

/-- Sorted listings of the same documents are the same list. -/
theorem sources_congr (hsound : disk.Sound) (hsound' : other.Sound) :
    sources other source = sources disk source := by
  have hsorted := sources_increasing hsound source
  have hsorted' := sources_increasing hsound' source
  have hperm : (sources other source).Perm (sources disk source) := by
    rw [List.perm_ext_iff_of_nodup (nodup_of_increasing hsorted') (nodup_of_increasing hsorted)]
    intro path
    rw [mem_sources, mem_sources, isDocument_congr hsame]
  refine hperm.eq_of_pairwise ?_ hsorted' hsorted
  intro first second _ _ hlt hgt
  exact absurd (List.lt_trans hlt hgt) (List.lt_irrefl first)

end SameContents

/-- What stands on the disk after some documents, stands there after the same documents on a disk with
the same contents. -/
theorem Progress.get?_eq_some (hsame : ∀ path, other.get? path = disk.get? path) {done : List Path}
    {after last : Disk} (hprogress : Progress limits disk source output done after)
    (hprogress' : Progress limits other source output done last) {entry : Entry}
    (hget : after.get? path = some entry) : last.get? path = some entry := by
  rcases hprogress.only path entry hget with hold | ⟨origin, hmem, document, hloaded, hmade⟩
  · exact hprogress'.kept path entry ((hsame path).trans hold)
  · rw [← loaded?_congr hsame] at hloaded
    obtain ⟨content, hcontent, hwritten⟩ := hprogress'.written origin hmem document hloaded
    rcases hmade with ⟨rfl, other, hother, rfl⟩ | ⟨habove, hother, rfl⟩
    · rw [hwritten, hcontent.unique hother]
    · rw [← Disk.isDirectory_iff]
      exact hprogress'.sound.isDirectory_of_prefix (hwritten ▸ rfl) habove hother

theorem Progress.get?_eq (hsame : ∀ path, other.get? path = disk.get? path) {done : List Path}
    {after last : Disk} (hprogress : Progress limits disk source output done after)
    (hprogress' : Progress limits other source output done last) (path : Path) :
    last.get? path = after.get? path := by
  apply Option.ext
  intro entry
  exact ⟨hprogress'.get?_eq_some (fun path => (hsame path).symm) hprogress,
    hprogress.get?_eq_some hsame hprogress'⟩

/-- All that a clean build depends on is what stands on the disk once its output directory was made
anew. -/
theorem perform_clean_of_emptied (hsound : disk.Sound) (hsound' : other.Sound)
    (hfree' : other.Free output)
    (hbase : ∀ path, (emptied other output).get? path = (emptied disk output).get? path)
    {summary : Summary} {state : State}
    (hbuild : perform limits source output true ⟨disk, log⟩ = .ok summary state) (later : Log) :
    ∃ last, perform limits source output true ⟨other, later⟩ = .ok summary last
      ∧ ∀ path, last.disk.get? path = state.disk.get? path := by
  obtain ⟨hout, hfree⟩ := free_of_perform_clean hsound hbuild
  have houtput := ne_nil_of_apart hout
  have hcompilable := (compilable_congr hbase).mpr (compilable_of_perform_clean hsound hbuild)
  obtain ⟨summary', last, hbuild'⟩ :=
    perform_clean_of_compilable hsound' hout hfree' hcompilable later
  have hsources : sources (emptied other output) source = sources (emptied disk output) source :=
    sources_congr hbase (emptied_spec hsound houtput hfree).sound
      (emptied_spec hsound' houtput hfree').sound
  have hfails :
      fails limits (emptied other output) source = fails limits (emptied disk output) source := by
    funext path
    rw [fails, fails, loaded?_congr hbase]
  obtain ⟨hsummary, -, hprogress⟩ := progress_of_perform_clean hsound hbuild
  obtain ⟨hsummary', -, hprogress'⟩ := progress_of_perform_clean hsound' hbuild'
  rw [hsources] at hprogress'
  rw [hsources, hfails, ← hsummary] at hsummary'
  exact ⟨last, hsummary' ▸ hbuild', hprogress.get?_eq hbase hprogress'⟩

/-- A disk that lists the same contents in another order is built with the same result. -/
theorem perform_clean_congr (hsame : ∀ path, other.get? path = disk.get? path) (hsound : disk.Sound)
    (hsound' : other.Sound) {summary : Summary} {state : State}
    (hbuild : perform limits source output true ⟨disk, log⟩ = .ok summary state) :
    ∃ last, perform limits source output true ⟨other, log⟩ = .ok summary last := by
  obtain ⟨hout, hfree⟩ := free_of_perform_clean hsound hbuild
  have houtput := ne_nil_of_apart hout
  have hfree' : other.Free output := by
    intro path habove
    rw [Disk.isFile, hsame]
    exact hfree path habove
  have hbase : ∀ path, (emptied other output).get? path = (emptied disk output).get? path := by
    intro path
    rw [get?_emptied other houtput, get?_emptied disk houtput, hsame]
  obtain ⟨last, hbuild', -⟩ := perform_clean_of_emptied hsound hsound' hfree' hbase hbuild log
  exact ⟨last, hbuild'⟩

/-! ### Clean builds in full -/

/-- The files in the output directory. -/
theorem file_within_iff (hbase : Emptied (emptied disk output) output) {after : Disk}
    (hprogress : Progress limits (emptied disk output) source output
      (sources (emptied disk output) source) after)
    (hunder : output <+: path) (content : ByteArray) :
    after.get? path = some (.file content) ↔
      ∃ origin document, IsDocument (emptied disk output) source origin
        ∧ loaded? limits (emptied disk output) source origin = some document
        ∧ path = target output origin ∧ CompilesTo limits document content := by
  constructor
  · intro hfile
    rcases hprogress.only path _ hfile with hold | ⟨origin, hmem, document, hloaded, hmade⟩
    · by_cases hsame : path = output
      · rw [hsame, hbase.directory] at hold
        exact nomatch hold
      · rw [hbase.empty path hunder hsame] at hold
        exact nomatch hold
    · rcases hmade with ⟨htarget, other, hcontent, hentry⟩ | ⟨-, -, hentry⟩
      · cases hentry
        exact ⟨origin, document, mem_sources.mp hmem, hloaded, htarget, hcontent⟩
      · exact nomatch hentry
  · rintro ⟨origin, document, hdoc, hloaded, rfl, hcontent⟩
    obtain ⟨other, hother, hwritten⟩ :=
      hprogress.written origin (mem_sources.mpr hdoc) document hloaded
    rw [hwritten, hcontent.unique hother]

/-- The files outside of the output directory. -/
theorem file_outside_iff (houtput : output ≠ []) {after : Disk}
    (hprogress : Progress limits (emptied disk output) source output
      (sources (emptied disk output) source) after)
    (hout : ¬ output <+: path) (content : ByteArray) :
    after.get? path = some (.file content) ↔ disk.get? path = some (.file content) := by
  rw [← file_emptied_iff disk houtput hout]
  constructor
  · intro hfile
    rcases hprogress.only path _ hfile with hold | ⟨origin, -, document, -, hmade⟩
    · exact hold
    · rcases hmade with ⟨rfl, -⟩ | ⟨-, -, hentry⟩
      · exact absurd (prefix_target output origin) hout
      · exact nomatch hentry
  · exact hprogress.kept path _

/-- **What a clean build does, exactly.** Let the documents be those that are found when the output
directory was removed and made anew. A build that ends well counts them, and lists those that fail in
increasing order, none twice. Each document has a target of its own, at its own place in the output
directory and with the other ending. The files in the output directory are the targets of the
documents that could be loaded, each with what generating its template gives, and no file elsewhere is
made, changed or removed. The order in which directories list their entries makes no difference. -/
theorem clean_build_exact (hsound : disk.Sound) {summary : Summary} {state : State}
    (hbuild : perform limits source output true ⟨disk, log⟩ = .ok summary state) :
    (∃ paths : List Path, paths.Nodup
      ∧ (∀ path, path ∈ paths ↔ IsDocument (emptied disk output) source path)
      ∧ summary.templates = paths.length)
    ∧ summary.failures = summary.failed.length
    ∧ summary.failed.Pairwise (· < ·)
    ∧ (∀ path, path ∈ summary.failed ↔ IsDocument (emptied disk output) source path
      ∧ fails limits (emptied disk output) source path = true)
    ∧ (∀ first second, IsDocument (emptied disk output) source first →
      IsDocument (emptied disk output) source second →
      target output first = target output second → first = second)
    ∧ (∀ path, IsDocument (emptied disk output) source path →
      ∃ (folder : Path) (stem : String), path = folder ++ [stem ++ ".json"]
        ∧ target output path = output ++ folder ++ [stem ++ ".wxml"])
    ∧ (∀ path content, output <+: path →
      (state.disk.get? path = some (.file content) ↔
        ∃ origin document, IsDocument (emptied disk output) source origin
          ∧ loaded? limits (emptied disk output) source origin = some document
          ∧ path = target output origin
          ∧ Text.Utf8.encode (document.generate limits).document = .ok content))
    ∧ (∀ path content, ¬ output <+: path →
      (state.disk.get? path = some (.file content) ↔ disk.get? path = some (.file content)))
    ∧ ∀ other : Disk, other.Sound → (∀ path, other.get? path = disk.get? path) →
      ∃ last, perform limits source output true ⟨other, log⟩ = .ok summary last := by
  obtain ⟨hout, hfree⟩ := free_of_perform_clean hsound hbuild
  have houtput := ne_nil_of_apart hout
  have hbase := emptied_spec hsound houtput hfree
  have hsorted := sources_increasing hbase.sound source
  obtain ⟨hsummary, -, hprogress⟩ := progress_of_perform_clean hsound hbuild
  refine ⟨⟨_, nodup_of_increasing hsorted, fun path => mem_sources, by rw [hsummary]⟩, by rw [hsummary],
    ?_, ?_, ?_, ?_, ?_, ?_, ?_⟩
  · rw [hsummary]
    exact hsorted.filter _
  · intro path
    rw [hsummary, List.mem_filter, mem_sources]
  · exact fun first second hfirst hsecond => hfirst.eq_of_target_eq hsecond
  · intro path hdoc
    obtain ⟨folder, stem, -, hpath, htarget⟩ := hdoc.exists_stem
    exact ⟨folder, stem, hpath, htarget output⟩
  · exact fun path content hunder => file_within_iff hbase hprogress hunder content
  · exact fun path content hout => file_outside_iff houtput hprogress hout content
  · exact fun other hsound' hsame => perform_clean_congr hsame hsound hsound' hbuild

/-- Room for small documents. -/
def little : Limits where
  brackets := 4
  nodes := 2
  visits := 4

/-- A source directory that holds the output directory, a document that is a directory with one below
it, one that is no JSON, and a private one. -/
def shelf : Disk where
  entries :=
    [(["s"], .directory),
      (["s", "x.json"], .file "\x7b".toUTF8),
      (["s", "a.json"], .file "\x7b\"ast\": \x7b\"type\": 3, \"text\": \"A\"\x7d\x7d".toUTF8),
      (["s", "_p.json"], .file "\x7b".toUTF8),
      (["s", "d.json"], .directory),
      (["s", "d.json", "b.json"], .file "\x7b\"ast\": \x7b\"type\": 2\x7d\x7d".toUTF8),
      (["s", "o"], .directory),
      (["s", "o", "old.json"], .file "\x7b".toUTF8)]

theorem isDocument_shelf_iff (path : Path) :
    IsDocument (emptied shelf ["s", "o"]) ["s"] path ↔
      path ∈ [["a.json"], ["d.json"], ["d.json", "b.json"], ["x.json"]] := by
  have hsources : sources (emptied shelf ["s", "o"]) ["s"] =
      [["a.json"], ["d.json"], ["d.json", "b.json"], ["x.json"]] := by rfl
  rw [← hsources, mem_sources]

/-- One document of `shelf` becomes a diagnostic document. The others that are documents at all hold no
more than a letter. -/
theorem compilable_shelf : Compilable little (emptied shelf ["s", "o"]) ["s"] ["s", "o"] := by
  have hreadable : ∀ path ∈ [["a.json"], ["d.json"], ["d.json", "b.json"], ["x.json"]],
      halting little (emptied shelf ["s", "o"]) ["s"] path = false := by decide
  have hapart : ∀ first ∈ [["a.json"], ["d.json"], ["d.json", "b.json"], ["x.json"]],
      ∀ second ∈ [["a.json"], ["d.json"], ["d.json", "b.json"], ["x.json"]],
      target ["s", "o"] first <+: target ["s", "o"] second → first = second := by decide
  have hfirst : ∃ document, loaded? little (emptied shelf ["s", "o"]) ["s"] ["a.json"] = some document
      ∧ (document.generate little).document = "<template name=\"a\">A</template>" := ⟨_, rfl, rfl⟩
  have hthird : ∃ document,
      loaded? little (emptied shelf ["s", "o"]) ["s"] ["d.json", "b.json"] = some document
      ∧ (document.generate little).document =
        (Failure.noHandle .null).report.document (.str "b") := ⟨_, rfl, rfl⟩
  simp only [← isDocument_shelf_iff] at hreadable hapart
  refine ⟨hreadable, ?_, fun first second hfirst hsecond _ _ => hapart first hfirst second hsecond⟩
  intro path document hdoc hloaded
  rw [isDocument_shelf_iff] at hdoc
  simp only [List.mem_cons, List.not_mem_nil, or_false] at hdoc
  rcases hdoc with rfl | rfl | rfl | rfl
  · obtain ⟨found, hfound, htext⟩ := hfirst
    rw [Option.some.inj (hloaded.symm.trans hfound), htext]
    exact Text.not_holdsSurrogate_of_unmarked (by decide)
  · cases hloaded
  · obtain ⟨found, hfound, htext⟩ := hthird
    rw [Option.some.inj (hloaded.symm.trans hfound), htext]
    exact Text.not_holdsSurrogate_of_unmarked
      (Report.unmarked_document (by decide) (by decide) (by decide))
  · cases hloaded

theorem build_shelf (log : Log) : ∃ state, perform little ["s"] ["s", "o"] true ⟨shelf, log⟩ =
    .ok ⟨4, 3, [["d.json"], ["d.json", "b.json"], ["x.json"]], ["s", "o"]⟩ state := by
  have hsound : shelf.Sound := by decide
  obtain ⟨summary, state, hbuild⟩ :=
    perform_clean_of_compilable hsound rfl (by decide) compilable_shelf log
  obtain ⟨hsummary, -, -⟩ := progress_of_perform_clean hsound hbuild
  exact ⟨state, hbuild.trans (congrArg (EStateM.Result.ok · state) (hsummary.trans rfl))⟩

theorem clean_build_exact_shelf :
    shelf.Sound ∧ ∃ state, perform little ["s"] ["s", "o"] true ⟨shelf, []⟩ =
        .ok ⟨4, 3, [["d.json"], ["d.json", "b.json"], ["x.json"]], ["s", "o"]⟩ state
      ∧ state.disk.get? ["s", "o", "a.wxml"] = some (.file "<template name=\"a\">A</template>".toUTF8)
      ∧ state.disk.get? ["s", "x.json"] = some (.file "\x7b".toUTF8) := by
  have hsound : shelf.Sound := by decide
  obtain ⟨state, hbuild⟩ := build_shelf []
  obtain ⟨-, -, -, -, -, -, hwithin, houtside, -⟩ := clean_build_exact hsound hbuild
  refine ⟨hsound, state, hbuild, ?_, ?_⟩
  · rw [hwithin _ _ (by decide)]
    exact ⟨["a.json"], _, (isDocument_shelf_iff _).mpr (by decide), rfl, rfl,
      Text.Utf8.encode_of_unmarked (by decide)⟩
  · rw [houtside _ _ (by decide)]
    rfl

/-- **When a clean build gets through all documents.** No file stands in the way of the output
directory, which neither is the source directory nor holds it. Then the build counts all documents,
lists each that fails and writes the file of each other one, exactly if no document goes beyond what
can be read, no text that is generated holds a surrogate, and no target of a loaded document stands on
the way to another. -/
theorem clean_build_completes_iff (hsound : disk.Sound) (hout : output.within source = false)
    (hfree : disk.Free output) (log : Log) :
    (∃ summary state, perform limits source output true ⟨disk, log⟩ = .ok summary state
      ∧ (∃ paths : List Path, paths.Nodup
        ∧ (∀ path, path ∈ paths ↔ IsDocument (emptied disk output) source path)
        ∧ summary.templates = paths.length)
      ∧ ∀ path, IsDocument (emptied disk output) source path →
        (fails limits (emptied disk output) source path = true → path ∈ summary.failed)
        ∧ (fails limits (emptied disk output) source path = false → ∃ document content,
          loaded? limits (emptied disk output) source path = some document
            ∧ Text.Utf8.encode (document.generate limits).document = .ok content
            ∧ state.disk.get? (target output path) = some (.file content)))
    ↔ (∀ path, IsDocument (emptied disk output) source path →
        halting limits (emptied disk output) source path = false)
      ∧ (∀ path document, IsDocument (emptied disk output) source path →
        loaded? limits (emptied disk output) source path = some document →
        ¬ Text.HoldsSurrogate (document.generate limits).document)
      ∧ ∀ first second, IsDocument (emptied disk output) source first →
        IsDocument (emptied disk output) source second →
        (loaded? limits (emptied disk output) source first).isSome = true →
        (loaded? limits (emptied disk output) source second).isSome = true →
        target output first <+: target output second → first = second := by
  constructor
  · rintro ⟨summary, state, hbuild, -⟩
    obtain ⟨hreadable, hwritable, hapart⟩ := compilable_of_perform_clean hsound hbuild
    exact ⟨hreadable, hwritable, hapart⟩
  · rintro ⟨hreadable, hwritable, hapart⟩
    obtain ⟨summary, state, hbuild⟩ :=
      perform_clean_of_compilable hsound hout hfree ⟨hreadable, hwritable, hapart⟩ log
    have hbase := emptied_spec hsound (ne_nil_of_apart hout) hfree
    obtain ⟨hsummary, -, hprogress⟩ := progress_of_perform_clean hsound hbuild
    refine ⟨summary, state, hbuild, ⟨_, nodup_of_increasing (sources_increasing hbase.sound source),
      fun path => mem_sources, by rw [hsummary]⟩, ?_⟩
    intro path hdoc
    constructor
    · intro hfails
      rw [hsummary, List.mem_filter, mem_sources]
      exact ⟨hdoc, hfails⟩
    · intro hfails
      rw [fails] at hfails
      cases hloaded : loaded? limits (emptied disk output) source path with
      | none =>
          rw [hloaded] at hfails
          cases hfails
      | some document =>
          obtain ⟨content, hcontent, hwritten⟩ :=
            hprogress.written path (mem_sources.mpr hdoc) document hloaded
          exact ⟨document, content, rfl, hcontent, hwritten⟩

theorem clean_build_completes_iff_shelf :
    shelf.Sound ∧ Path.within ["s", "o"] ["s"] = false ∧ shelf.Free ["s", "o"]
      ∧ ∃ summary state, perform little ["s"] ["s", "o"] true ⟨shelf, []⟩ = .ok summary state
        ∧ ["x.json"] ∈ summary.failed
        ∧ (state.disk.get? ["s", "o", "a.wxml"]).isSome = true := by
  have hsound : shelf.Sound := by decide
  have hfree : shelf.Free ["s", "o"] := by decide
  obtain ⟨hreadable, hwritable, hapart⟩ := compilable_shelf
  obtain ⟨summary, state, hbuild, -, hreport⟩ :=
    (clean_build_completes_iff hsound rfl hfree []).mpr ⟨hreadable, hwritable, hapart⟩
  refine ⟨hsound, rfl, hfree, summary, state, hbuild, ?_, ?_⟩
  · exact (hreport ["x.json"] ((isDocument_shelf_iff _).mpr (by decide))).1 rfl
  · obtain ⟨document, content, -, -, hwritten⟩ :=
      (hreport ["a.json"] ((isDocument_shelf_iff _).mpr (by decide))).2 rfl
    rw [show (["s", "o", "a.wxml"] : Path) = target ["s", "o"] ["a.json"] by rfl, hwritten]
    rfl

/-- The target of the first document is on the way to that of the second. -/
def clashing : Disk where
  entries :=
    [(["ast"], .directory),
      (["ast", "a.json"], .file "\x7b\"ast\": \x7b\"type\": 3, \"text\": \"A\"\x7d\x7d".toUTF8),
      (["ast", "a.wxml"], .directory),
      (["ast", "a.wxml", "b.json"],
        .file "\x7b\"ast\": \x7b\"type\": 3, \"text\": \"B\"\x7d\x7d".toUTF8),
      (["ast", "c.json"], .file "\x7b\"ast\": \x7b\"type\": 3, \"text\": \"A\"\x7d\x7d".toUTF8)]

/-- No document of `clashing` fails by itself, but the build ends at the second, and the third is not
compiled. -/
theorem build_ended_by_names :
    (∀ path ∈ [["a.json"], ["a.wxml", "b.json"], ["c.json"]], fails little clashing ["ast"] path = false)
      ∧ ∃ state, perform little ["ast"] ["out"] true ⟨clashing, []⟩ =
          .error (.system (.alreadyThere "/out/a.wxml")) state
        ∧ state.disk.get? ["out", "c.wxml"] = none :=
  ⟨by decide, _, rfl, rfl⟩

end MiniTemplate.Build

import MiniTemplate.Proofs.CleanBuild
/-!
# Which sources a build keeps

Compiling writes targets and makes directories, and neither touches a file with the name of a document,
however the build ends (`SameDocuments`). So a source can only be lost when the output directory is
cleared. The check at the beginning of a build rules out an output directory at or above the sources.
It does not rule out one among them: a source inside of the output directory is removed
(`document_survives_iff`).
-/

namespace MiniTemplate.Build

open Disk (Path Entry)

/-- The disk at the end of a part of a build, whether it failed or not. -/
def finalDisk {α : Type} : EStateM.Result Failure State α → Disk
  | .ok _ state => state.disk
  | .error _ state => state.disk

/-- The files with the name of a document are the same. -/
def SameDocuments (disk after : Disk) : Prop :=
  ∀ path content, isDocumentName (Path.name path) = true →
    (after.get? path = some (.file content) ↔ disk.get? path = some (.file content))

namespace SameDocuments

theorem refl (disk : Disk) : SameDocuments disk disk :=
  fun _ _ _ => Iff.rfl

theorem trans {disk middle after : Disk} (hfirst : SameDocuments disk middle)
    (hsecond : SameDocuments middle after) : SameDocuments disk after :=
  fun path content hnamed => (hsecond path content hnamed).trans (hfirst path content hnamed)

theorem makeFrom (disk : Disk) (directory : Path) :
    SameDocuments disk (disk.makeFrom [] directory) := by
  intro path content _
  rw [Disk.get?_makeFrom_root]
  cases disk.get? path with
  | some entry => rw [Option.some_or]
  | none =>
      rw [Option.none_or]
      split <;> simp

theorem put_target (disk : Disk) (output path : Path) (entry : Entry) :
    SameDocuments disk (disk.put (target output path) entry) := by
  intro other content hnamed
  have hother : other ≠ target output path := by
    rintro rfl
    rw [isDocumentName_target] at hnamed
    exact nomatch hnamed
  rw [Disk.get?_put _ (target_ne_nil output path), if_neg hother]

theorem compile (limits : Limits) (source output path : Path) (disk : Disk) (log : Log) :
    SameDocuments disk (finalDisk (compile limits source output path ⟨disk, log⟩)) := by
  have hcases := compile_cases limits source output path disk log
  generalize Build.compile limits source output path ⟨disk, log⟩ = result at hcases ⊢
  cases hcases with
  | halted => exact refl disk
  | skipped => exact refl disk
  | obstructed => exact refl disk
  | occupied => exact makeFrom disk _
  | unwritable => exact (makeFrom disk _).trans (put_target _ output path _)
  | completed => exact (makeFrom disk _).trans (put_target _ output path _)

theorem compileAll (limits : Limits) (source output : Path) (paths : List Path) (disk : Disk)
    (log : Log) :
    SameDocuments disk (finalDisk (compileAll limits source output paths ⟨disk, log⟩)) := by
  induction paths generalizing disk log with
  | nil => exact refl disk
  | cons path paths ih =>
      have hfirst := compile limits source output path disk log
      rw [Build.compileAll, bind_apply]
      cases hrun : Build.compile limits source output path ⟨disk, log⟩ with
      | error failure next =>
          rw [hrun] at hfirst
          exact hfirst
      | ok succeeded next =>
          rw [hrun] at hfirst
          have hrest := ih next.disk next.log
          dsimp only
          rw [bind_apply]
          cases hlast : Build.compileAll limits source output paths next with
          | error failure last =>
              rw [hlast] at hrest
              exact hfirst.trans hrest
          | ok failed last =>
              rw [hlast] at hrest
              exact hfirst.trans hrest

/-- Once the output directory is cleared, nothing happens to documents any more. -/
theorem buildFrom (limits : Limits) (source output : Path) (log : Log) (cleared : Disk) :
    SameDocuments cleared (finalDisk (buildFrom limits source output log cleared)) := by
  rw [Build.buildFrom]
  by_cases hfree : cleared.Free output
  · rw [Disk.makeDirectory_of_free hfree]
    dsimp only
    have hbatch := compileAll limits source output
      (sources (cleared.makeFrom [] output) source) (cleared.makeFrom [] output) log
    rw [batch]
    cases hrun : Build.compileAll limits source output (sources (cleared.makeFrom [] output) source)
        ⟨cleared.makeFrom [] output, log⟩ with
    | error failure state =>
        rw [hrun] at hbatch
        exact (makeFrom cleared output).trans hbatch
    | ok failed state =>
        rw [hrun] at hbatch
        exact (makeFrom cleared output).trans hbatch
  · obtain ⟨fault, hfault⟩ := Disk.makeDirectory_of_not_free hfree
    rw [hfault]
    exact refl cleared

end SameDocuments

/-- **Which sources a build keeps.** However a build ends, a document that is a file is still there
with its content, unless the output directory is to be cleared, the build is not refused, and the
document lies inside of the output directory. -/
theorem document_survives_iff {disk : Disk} (hsound : disk.Sound) {source path : Path}
    (hdoc : IsDocument disk source path) {content : ByteArray}
    (hfile : disk.get? (source ++ path) = some (.file content)) (limits : Limits) (output : Path)
    (clean : Bool) (log : Log) :
    (finalDisk (perform limits source output clean ⟨disk, log⟩)).get? (source ++ path) =
        some (.file content) ↔
      ¬ (clean = true ∧ output.within source = false
        ∧ output <+: source ++ path ∧ output ≠ source ++ path) := by
  have hnamed : isDocumentName (Path.name (source ++ path)) = true := by
    obtain ⟨folder, stem, -, hpath, -⟩ := hdoc.exists_stem
    have hname := hdoc.named
    rw [hpath, Path.name, List.getLast?_concat] at hname
    rw [hpath, ← List.append_assoc, Path.name, List.getLast?_concat]
    exact hname
  cases hout : output.within source with
  | true =>
      rw [perform_of_within hout]
      simpa [finalDisk] using hfile
  | false =>
      rw [perform_of_apart hout]
      cases clean with
      | false =>
          rw [if_neg Bool.false_ne_true]
          dsimp only
          rw [SameDocuments.buildFrom limits source output log disk _ content hnamed]
          simpa using hfile
      | true =>
          rw [if_pos rfl]
          cases hblocked : disk.isFile output with
          | true =>
              -- a file is never above another, so it is the document itself if anything
              obtain ⟨other, hother⟩ := Disk.isFile_iff.mp hblocked
              have hsame : output <+: source ++ path → output = source ++ path := by
                intro hunder
                refine Decidable.byContradiction fun hdiffer => ?_
                have hdirectory := hsound.isDirectory_of_prefix
                  (Option.isSome_iff_exists.mpr ⟨_, hfile⟩) hunder hdiffer
                rw [Disk.isDirectory_iff, hother] at hdirectory
                cases hdirectory
              rw [Disk.clear, hother]
              refine iff_of_true hfile ?_
              rintro ⟨-, -, hunder, hdiffer⟩
              exact hdiffer (hsame hunder)
          | false =>
              have hdiffer : output ≠ source ++ path := by
                rintro rfl
                rw [Disk.isFile, hfile] at hblocked
                cases hblocked
              rw [hsound.clear hblocked]
              dsimp only
              rw [SameDocuments.buildFrom limits source output log (disk.remove output) _ content hnamed,
                Disk.get?_remove _ (ne_nil_of_apart hout)]
              by_cases hunder : output <+: source ++ path
              · simp [hunder, hdiffer]
              · simp [hunder, hfile]

/-- A source directory with one document inside of the output directory and one beside it. -/
def nested : Disk where
  entries :=
    [(["a"], .directory),
      (["a", "b"], .directory),
      (["a", "b", "c.json"], .file "\x7b\"ast\": \x7b\"type\": 3\x7d\x7d".toUTF8),
      (["a", "d.json"], .file "\x7b\"ast\": \x7b\"type\": 3\x7d\x7d".toUTF8)]

theorem document_survives_iff_nested :
    nested.Sound ∧ IsDocument nested ["a"] ["d.json"]
      ∧ (finalDisk (perform little ["a"] ["a", "b"] true ⟨nested, []⟩)).get? ["a", "d.json"] =
        nested.get? ["a", "d.json"] := by
  have hsound : nested.Sound := by decide
  have hdoc : IsDocument nested ["a"] ["d.json"] := ⟨rfl, by decide, by decide⟩
  refine ⟨hsound, hdoc, ?_⟩
  exact (document_survives_iff hsound hdoc rfl little ["a", "b"] true []).mpr (by decide)

/-- The document inside of the output directory is gone. -/
theorem nested_document_removed :
    IsDocument nested ["a"] ["b", "c.json"] ∧ nested.isFile ["a", "b", "c.json"] = true
      ∧ Path.within ["a", "b"] ["a"] = false
      ∧ (finalDisk (perform little ["a"] ["a", "b"] true ⟨nested, []⟩)).get? ["a", "b", "c.json"] = none :=
  ⟨⟨rfl, by decide, by decide⟩, rfl, rfl, rfl⟩

end MiniTemplate.Build

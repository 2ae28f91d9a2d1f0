import MiniTemplate.Proofs.CleanBuild
/-!
# Building again

The output directory may lie among the sources, and what a build puts there need not look like output:
below a directory `d.json` of documents it makes another directory `d.json`. None of this is there any
more when the next build looks for documents, for that build has cleared the directory first. So the
second build finds the disk that the first one found, and all that a clean build does is fixed by that
disk (`perform_clean_of_emptied`).
-/

namespace MiniTemplate.Build

open Disk (Path Entry)

variable {limits : Limits} {disk after : Disk} {source output path : Path} {log : Log}

/-- Outside of the output directory a build leaves what it found when that directory was made anew. -/
theorem Progress.get?_of_outside {paths : List Path} (houtput : output ≠ [])
    (hprogress : Progress limits (emptied disk output) source output paths after)
    (hout : ¬ output <+: path) : after.get? path = (emptied disk output).get? path := by
  cases hbase : (emptied disk output).get? path with
  | some entry => exact hprogress.kept path entry hbase
  | none =>
      rw [Option.eq_none_iff_forall_ne_some]
      intro entry hget
      rcases hprogress.only path entry hget with hold | ⟨origin, -, document, -, hmade⟩
      · simp [hbase] at hold
      · rcases hmade with ⟨rfl, -⟩ | ⟨habove, -, -⟩
        · exact hout (prefix_target output origin)
        · -- what is above a target and not in the output directory is above that directory
          have habove : path <+: output :=
            (List.prefix_or_prefix_of_prefix habove (prefix_target output origin)).resolve_right hout
          simp [get?_emptied disk houtput, hout, habove] at hbase

theorem get?_emptied_of_progress {paths : List Path} (houtput : output ≠ [])
    (hprogress : Progress limits (emptied disk output) source output paths after) (path : Path) :
    (emptied after output).get? path = (emptied disk output).get? path := by
  rw [get?_emptied after houtput]
  by_cases hunder : output <+: path
  · rw [get?_emptied disk houtput, if_pos hunder, if_pos hunder]
  · rw [if_neg hunder, hprogress.get?_of_outside houtput hunder, get?_emptied disk houtput,
      if_neg hunder, Option.or_assoc, Option.or_self]

theorem Progress.free_output {paths : List Path} (hbase : Emptied (emptied disk output) output)
    (hprogress : Progress limits (emptied disk output) source output paths after) :
    after.Free output := by
  intro other habove
  have houtput : after.get? output = some .directory :=
    hprogress.kept output .directory hbase.directory
  have hdirectory : after.get? other = some .directory := by
    by_cases hsame : other = output
    · rw [hsame, houtput]
    · rw [← Disk.isDirectory_iff]
      exact hprogress.sound.isDirectory_of_prefix (houtput ▸ rfl) habove hsame
  rw [Disk.isFile, hdirectory]

/-- **A clean build changes nothing the second time.** If a clean build ends well, so does the next one
from the disk that it leaves, whatever was reported so far. Both give the same summary, and at every
path of the disk the second build leaves what the first one left. -/
theorem clean_build_idempotent (hsound : disk.Sound) {summary : Summary} {state : State}
    (hbuild : perform limits source output true ⟨disk, log⟩ = .ok summary state) (later : Log) :
    ∃ last, perform limits source output true ⟨state.disk, later⟩ = .ok summary last
      ∧ ∀ path, last.disk.get? path = state.disk.get? path := by
  obtain ⟨hout, hfree⟩ := free_of_perform_clean hsound hbuild
  have houtput := ne_nil_of_apart hout
  have hbase := emptied_spec hsound houtput hfree
  obtain ⟨-, -, hprogress⟩ := progress_of_perform_clean hsound hbuild
  exact perform_clean_of_emptied hsound hprogress.sound (hprogress.free_output hbase)
    (get?_emptied_of_progress houtput hprogress) hbuild later

/-- The first build of `shelf` leaves a directory with the name of a document among the sources. -/
theorem clean_build_idempotent_shelf :
    shelf.Sound ∧ ∃ state last,
      perform little ["s"] ["s", "o"] true ⟨shelf, []⟩ =
        .ok ⟨4, 3, [["d.json"], ["d.json", "b.json"], ["x.json"]], ["s", "o"]⟩ state
      ∧ IsDocument state.disk ["s"] ["o", "d.json"]
      ∧ perform little ["s"] ["s", "o"] true ⟨state.disk, []⟩ =
        .ok ⟨4, 3, [["d.json"], ["d.json", "b.json"], ["x.json"]], ["s", "o"]⟩ last
      ∧ ∀ path, last.disk.get? path = state.disk.get? path := by
  have hsound : shelf.Sound := by decide
  obtain ⟨state, hbuild⟩ := build_shelf []
  obtain ⟨-, -, hprogress⟩ := progress_of_perform_clean hsound hbuild
  have hdoc : ["d.json", "b.json"] ∈ sources (emptied shelf ["s", "o"]) ["s"] :=
    mem_sources.mpr ((isDocument_shelf_iff _).mpr (by decide))
  obtain ⟨content, -, hwritten⟩ := hprogress.written _ hdoc _ rfl
  have hleft : state.disk.isDirectory ["s", "o", "d.json"] = true :=
    hprogress.sound.isDirectory_of_prefix (Option.isSome_iff_exists.mpr ⟨_, hwritten⟩) (by decide)
      (by decide)
  obtain ⟨last, hagain, hsame⟩ := clean_build_idempotent hsound hbuild []
  refine ⟨hsound, state, last, hbuild, ⟨?_, by decide, by decide⟩, hagain, hsame⟩
  exact Option.isSome_iff_exists.mpr ⟨_, Disk.isDirectory_iff.mp hleft⟩

end MiniTemplate.Build

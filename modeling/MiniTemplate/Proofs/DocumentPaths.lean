import MiniTemplate.Build
import MiniTemplate.Proofs.DiskTree
/-!
# Documents and the files they are compiled to

Which entries of a disk are documents depends on what stands at each path, not on the order in which
a directory lists its entries: the listing is sorted, and a strictly increasing list is determined by
its members. The file that a document is compiled to keeps the directories and the name up to its
ending, so no two documents share one, and it is no document itself.
-/

namespace MiniTemplate.Build

open Disk (Path)

/-- A document: something stands at the path below the source directory, its name ends in `.json`, and
no name on the way makes it private. -/
structure IsDocument (disk : Disk) (source path : Path) : Prop where
  there : (disk.get? (source ++ path)).isSome = true
  named : isDocumentName (Path.name path) = true
  visible : path.any isPrivateName = false

/-! ### Sorted listings -/

theorem mem_insertSorted {path other : Path} {paths : List Path} :
    other ∈ insertSorted path paths ↔ other = path ∨ other ∈ paths := by
  induction paths with
  | nil => rw [insertSorted, List.mem_singleton, or_iff_left List.not_mem_nil]
  | cons first paths ih =>
      rw [insertSorted]
      split
      · rw [List.mem_cons, ih, List.mem_cons, or_left_comm]
      · rw [List.mem_cons]

theorem lt_of_not_lt {first second : Path} (hnot : ¬ first < second) (hother : second ≠ first) :
    second < first := by
  refine Decidable.byContradiction fun hreverse => hother ?_
  exact List.le_antisymm (List.not_lt.mp hnot) (List.not_lt.mp hreverse)

theorem insertSorted_increasing {path : Path} {paths : List Path}
    (hsorted : paths.Pairwise (· < ·)) (hnew : path ∉ paths) :
    (insertSorted path paths).Pairwise (· < ·) := by
  induction paths with
  | nil => exact List.pairwise_singleton _ path
  | cons first paths ih =>
      obtain ⟨hfirst, hrest⟩ := List.pairwise_cons.mp hsorted
      rw [List.mem_cons, not_or] at hnew
      obtain ⟨hother, hnew⟩ := hnew
      rw [insertSorted]
      split
      · rename_i hlt
        refine List.pairwise_cons.mpr ⟨?_, ih hrest hnew⟩
        intro later hlater
        rcases mem_insertSorted.mp hlater with rfl | hlater
        · exact hlt
        · exact hfirst later hlater
      · rename_i hlt
        have hbefore : path < first := lt_of_not_lt hlt hother
        refine List.pairwise_cons.mpr ⟨?_, hsorted⟩
        intro later hlater
        rcases List.mem_cons.mp hlater with rfl | hlater
        · exact hbefore
        · exact List.lt_trans hbefore (hfirst later hlater)

theorem nodup_of_increasing {paths : List Path} (hsorted : paths.Pairwise (· < ·)) : paths.Nodup := by
  apply hsorted.imp
  rintro first second hlt rfl
  exact List.lt_irrefl first hlt

theorem mem_sorted {path : Path} {paths : List Path} : path ∈ sorted paths ↔ path ∈ paths := by
  induction paths with
  | nil => exact Iff.rfl
  | cons first paths ih =>
      change path ∈ insertSorted first (sorted paths) ↔ _
      rw [mem_insertSorted, ih, List.mem_cons]

theorem sorted_increasing {paths : List Path} (hdistinct : paths.Nodup) :
    (sorted paths).Pairwise (· < ·) := by
  induction paths with
  | nil => exact List.Pairwise.nil
  | cons first paths ih =>
      obtain ⟨hnew, hdistinct⟩ := List.nodup_cons.mp hdistinct
      exact insertSorted_increasing (ih hdistinct) (fun hmem => hnew (mem_sorted.mp hmem))

theorem mem_sources {disk : Disk} {source path : Path} :
    path ∈ sources disk source ↔ IsDocument disk source path := by
  rw [sources, mem_sorted, List.mem_filter, Disk.mem_below, Bool.and_eq_true, Bool.not_eq_true']
  constructor
  · rintro ⟨⟨-, hthere⟩, hnamed, hvisible⟩
    exact ⟨hthere, hnamed, hvisible⟩
  · rintro ⟨hthere, hnamed, hvisible⟩
    refine ⟨⟨?_, hthere⟩, hnamed, hvisible⟩
    rintro rfl
    exact absurd hnamed (by decide)

theorem sources_increasing {disk : Disk} (hsound : disk.Sound) (source : Path) :
    (sources disk source).Pairwise (· < ·) :=
  sorted_increasing ((hsound.below_nodup source).filter _)

/-! ### Targets -/

theorem stemOf_json {stem : List Char} (hstem : stem ≠ []) :
    Path.stemOf (String.ofList (stem ++ ".json".toList)) = String.ofList stem := by
  have hextension : ((stem ++ ".json".toList).reverse.takeWhile (· != '.')).length = 4 := by
    rw [List.reverse_append]
    rfl
  have htake : (stem ++ ".json".toList).take ((stem ++ ".json".toList).length - 4 - 1) = stem := by
    rw [List.length_append]
    exact List.take_left
  have hnonempty : stem.isEmpty = false := by
    rwa [List.isEmpty_eq_false_iff]
  simp only [Path.stemOf, String.toList_ofList, hextension, htake, hnonempty]
  rfl

/-- A document has a name with something before its ending, and its target has the same name with the
other ending. -/
theorem IsDocument.exists_stem {disk : Disk} {source path : Path} (hdoc : IsDocument disk source path) :
    ∃ (folder : Path) (stem : String), stem ≠ "" ∧ path = folder ++ [stem ++ ".json"]
      ∧ ∀ output, target output path = output ++ folder ++ [stem ++ ".wxml"] := by
  have hpath : path ≠ [] := by
    rintro rfl
    exact absurd hdoc.named (by decide)
  obtain ⟨folder, name, rfl⟩ := (List.eq_nil_or_concat path).resolve_left hpath
  rw [List.concat_eq_append] at hdoc ⊢
  have hname : Path.name (folder ++ [name]) = name := by
    rw [Path.name, List.getLast?_concat]
    rfl
  have hnamed := hdoc.named
  rw [hname, isDocumentName, List.isSuffixOf_iff_suffix] at hnamed
  obtain ⟨stem, hchars⟩ := hnamed
  have hwhole : name = String.ofList (stem ++ ".json".toList) := by
    rw [hchars, String.ofList_toList]
  have hstem : stem ≠ [] := by
    -- a name that is nothing but the ending starts with a point
    rintro rfl
    have hvisible := hdoc.visible
    rw [List.any_append, hwhole] at hvisible
    have hprivate : ([String.ofList ([] ++ ".json".toList)] : Path).any isPrivateName = true := by
      decide
    rw [hprivate, Bool.or_true] at hvisible
    exact nomatch hvisible
  refine ⟨folder, String.ofList stem, ?_, ?_, ?_⟩
  · intro hempty
    exact hstem (by simpa using congrArg String.toList hempty)
  · rw [hwhole, String.ofList_append, String.ofList_toList]
  · intro output
    rw [target, hname, hwhole, stemOf_json hstem, List.dropLast_concat]

theorem IsDocument.eq_of_target_eq {disk : Disk} {source output first second : Path}
    (hfirst : IsDocument disk source first) (hsecond : IsDocument disk source second)
    (hsame : target output first = target output second) : first = second := by
  obtain ⟨folder, stem, -, rfl, htarget⟩ := hfirst.exists_stem
  obtain ⟨folder', stem', -, rfl, htarget'⟩ := hsecond.exists_stem
  rw [htarget, htarget', List.append_assoc, List.append_assoc, List.append_cancel_left_eq] at hsame
  obtain ⟨rfl, hname⟩ := List.append_inj' hsame rfl
  have hstem : stem ++ ".wxml" = stem' ++ ".wxml" := List.head_eq_of_cons_eq hname
  rw [String.append_left_inj] at hstem
  rw [hstem]

/-- A target lies below the output directory. -/
theorem prefix_target (output path : Path) : output <+: target output path := by
  rw [target, List.append_assoc]
  exact List.prefix_append output _

theorem target_ne_output (output path : Path) : target output path ≠ output := by
  intro hsame
  have hlength := congrArg List.length hsame
  rw [target, List.length_append, List.length_append, List.length_singleton] at hlength
  omega

theorem target_ne_nil (output path : Path) : target output path ≠ [] := by
  rw [target]
  exact List.append_ne_nil_of_right_ne_nil _ (by simp)

/-- No target is a document. -/
theorem isDocumentName_target (output path : Path) :
    isDocumentName (Path.name (target output path)) = false := by
  have hname : Path.name (target output path) = Path.stemOf (Path.name path) ++ ".wxml" := by
    rw [target, Path.name, List.getLast?_concat]
    rfl
  rw [hname, isDocumentName, ← Bool.not_eq_true, List.isSuffixOf_iff_suffix, String.toList_append]
  intro hsuffix
  have hending : ".wxml".toList <:+ (Path.stemOf (Path.name path)).toList ++ ".wxml".toList :=
    List.suffix_append _ _
  have hsame := (List.suffix_of_suffix_length_le hsuffix hending (by decide)).eq_of_length (by decide)
  exact absurd hsame (by decide)

end MiniTemplate.Build

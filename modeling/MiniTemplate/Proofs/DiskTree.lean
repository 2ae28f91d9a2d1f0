import Mathlib.Data.List.Nodup
import MiniTemplate.Disk.Basic
/-!
# What operations do to a disk

A disk is known by what stands at each path, and every operation is described by that alone: `put`
changes one path, `remove` a path and all below it, and making a directory adds directories where there
was nothing. The entries of a sound disk form a tree, which the operations keep: each entry has a path
of its own and stands in a directory.
-/

namespace MiniTemplate.Disk

namespace Path

theorem within_iff {directory path : Path} : directory.within path = true ↔ directory <+: path :=
  List.isPrefixOf_iff_prefix

theorem within_eq_false_iff {directory path : Path} :
    directory.within path = false ↔ ¬ directory <+: path := by
  rw [← within_iff, Bool.not_eq_true]

/-- A directory above a path, the path itself apart, is above its parent or is its parent. -/
theorem prefix_dropLast {directory path : Path} (hunder : directory <+: path)
    (hother : directory ≠ path) : directory <+: path.dropLast := by
  obtain ⟨rest, rfl⟩ := hunder
  have hrest : rest ≠ [] := by
    rintro rfl
    exact hother (List.append_nil directory).symm
  rw [List.dropLast_append_of_ne_nil hrest]
  exact List.prefix_append directory rest.dropLast

end Path

/-! ### What stands at a path -/

@[simp] theorem get?_nil (disk : Disk) : disk.get? [] = some .directory := rfl

theorem get?_of_ne_nil (disk : Disk) {path : Path} (hpath : path ≠ []) :
    disk.get? path = disk.entries.lookup path := by
  rw [get?, if_neg]
  rwa [List.isEmpty_iff]

theorem isDirectory_iff {disk : Disk} {path : Path} :
    disk.isDirectory path = true ↔ disk.get? path = some .directory := by
  rw [isDirectory]
  split <;> simp_all

theorem isFile_iff {disk : Disk} {path : Path} :
    disk.isFile path = true ↔ ∃ content, disk.get? path = some (.file content) := by
  rw [isFile]
  split <;> simp_all

theorem lookup_filter (keep : Path → Bool) (entries : List (Path × Entry)) (path : Path) :
    (entries.filter fun entry => keep entry.1).lookup path =
      if keep path then entries.lookup path else none := by
  induction entries with
  | nil => simp
  | cons entry entries ih =>
      obtain ⟨other, found⟩ := entry
      rw [List.filter_cons, List.lookup_cons]
      by_cases hsame : path = other
      · subst hsame
        by_cases hkeep : keep path = true
        · simp [hkeep]
        · simpa [hkeep] using ih
      · have hdiffer : (path == other) = false := beq_false_of_ne hsame
        by_cases hkeep : keep other = true
        · simpa [hkeep, List.lookup_cons, hdiffer] using ih
        · simpa [hkeep, hdiffer] using ih

theorem lookup_isSome_iff {entries : List (Path × Entry)} {path : Path} :
    (entries.lookup path).isSome = true ↔ path ∈ entries.map Prod.fst := by
  induction entries with
  | nil => simp
  | cons entry entries ih =>
      obtain ⟨other, found⟩ := entry
      rw [List.lookup_cons, List.map_cons, List.mem_cons, ← ih]
      by_cases hsame : path = other
      · simp [hsame]
      · simp [hsame, beq_false_of_ne hsame]

theorem get?_put (disk : Disk) {path : Path} (hpath : path ≠ []) (entry : Entry) (other : Path) :
    (disk.put path entry).get? other = if other = path then some entry else disk.get? other := by
  by_cases hroot : other = []
  · subst hroot
    rw [if_neg hpath.symm, get?_nil, get?_nil]
  · rw [get?_of_ne_nil _ hroot, get?_of_ne_nil _ hroot]
    by_cases hsame : other = path
    · simp [put, hsame]
    · have hdiffer : (other == path) = false := beq_false_of_ne hsame
      have hfilter := lookup_filter (fun key => key != path) disk.entries other
      rw [if_pos (bne_iff_ne.mpr hsame)] at hfilter
      rw [if_neg hsame, ← hfilter, put, List.lookup_cons, hdiffer]

theorem get?_remove (disk : Disk) {path : Path} (hpath : path ≠ []) (other : Path) :
    (disk.remove path).get? other = if path <+: other then none else disk.get? other := by
  by_cases hroot : other = []
  · subst hroot
    rw [if_neg (fun hunder => hpath (List.prefix_nil.mp hunder)), get?_nil, get?_nil]
  · have hfilter := lookup_filter (fun key => !path.within key) disk.entries other
    rw [get?_of_ne_nil _ hroot, get?_of_ne_nil _ hroot, remove, hfilter]
    simp only [Bool.not_eq_true', Path.within_eq_false_iff, ite_not]

/-- The paths seen from a directory are those at which anything stands. -/
theorem mem_below {disk : Disk} {directory path : Path} :
    path ∈ disk.below directory ↔ path ≠ [] ∧ (disk.get? (directory ++ path)).isSome = true := by
  have hlisted : path ∈ disk.below directory ↔
      ∃ other ∈ disk.entries.map Prod.fst, directory <+: other ∧ other ≠ directory
        ∧ other.drop directory.length = path := by
    simp only [below, List.mem_filterMap, List.mem_map, Option.ite_none_right_eq_some,
      Bool.and_eq_true, Path.within_iff, bne_iff_ne, Option.some.injEq]
    constructor
    · rintro ⟨entry, hmem, ⟨hunder, hother⟩, hdrop⟩
      exact ⟨entry.1, ⟨entry, hmem, rfl⟩, hunder, hother, hdrop⟩
    · rintro ⟨other, ⟨entry, hmem, rfl⟩, hunder, hother, hdrop⟩
      exact ⟨entry, hmem, ⟨hunder, hother⟩, hdrop⟩
  rw [hlisted]
  constructor
  · rintro ⟨other, hmem, ⟨rest, rfl⟩, hother, hdrop⟩
    rw [List.drop_left] at hdrop
    subst hdrop
    have hrest : rest ≠ [] := by
      rintro rfl
      exact hother (List.append_nil directory)
    refine ⟨hrest, ?_⟩
    rw [get?_of_ne_nil _ (List.append_ne_nil_of_right_ne_nil directory hrest)]
    exact lookup_isSome_iff.mpr hmem
  · rintro ⟨hpath, hget⟩
    rw [get?_of_ne_nil _ (List.append_ne_nil_of_right_ne_nil directory hpath)] at hget
    refine ⟨directory ++ path, lookup_isSome_iff.mp hget, List.prefix_append directory path, ?_,
      List.drop_left⟩
    intro hsame
    exact hpath (List.append_right_eq_self.mp hsame)

/-! ### Making directories -/

theorem prefix_snoc_cons_iff {done other : Path} {name : String} {names : List String} :
    (other = done ++ [name] ∨ (done ++ [name] <+: other ∧ other ≠ done ++ [name]
      ∧ other <+: done ++ [name] ++ names)) ↔
    (done <+: other ∧ other ≠ done ∧ other <+: done ++ name :: names) := by
  rw [← List.append_cons]
  constructor
  · rintro (rfl | ⟨hunder, -, hon⟩)
    · refine ⟨List.prefix_append done [name], by simp, ?_⟩
      exact List.append_cons done name names ▸ List.prefix_append (done ++ [name]) names
    · refine ⟨(List.prefix_append done [name]).trans hunder, ?_, hon⟩
      rintro rfl
      have hlength := hunder.length_le
      rw [List.length_append, List.length_singleton] at hlength
      omega
  · rintro ⟨hunder, hother, hon⟩
    by_cases hsame : other = done ++ [name]
    · exact .inl hsame
    · refine .inr ⟨?_, hsame, hon⟩
      obtain ⟨rest, rfl⟩ := hunder
      rw [List.prefix_append_right_inj] at hon ⊢
      cases rest with
      | nil => exact absurd (List.append_nil done) hother
      | cons first rest =>
          obtain ⟨rfl, -⟩ := List.cons_prefix_cons.mp hon
          exact List.cons_prefix_cons.mpr ⟨rfl, List.nil_prefix⟩

/-- Making directories along names leaves what stands there and puts directories where nothing does. -/
theorem get?_makeFrom (disk : Disk) (done : Path) (names : List String) (other : Path) :
    (disk.makeFrom done names).get? other =
      (disk.get? other).or
        (if done <+: other ∧ other ≠ done ∧ other <+: done ++ names then some .directory
          else none) := by
  induction names generalizing disk done with
  | nil =>
      have hnone : ¬ (done <+: other ∧ other ≠ done ∧ other <+: done ++ []) := by
        rintro ⟨hunder, hother, hon⟩
        rw [List.append_nil] at hon
        exact hother (hon.eq_of_length_le hunder.length_le)
      rw [makeFrom, if_neg hnone, Option.or_none]
  | cons name names ih =>
      have hpath : done ++ [name] ≠ [] := by simp
      have hstep : (if (disk.get? (done ++ [name])).isSome then disk
            else disk.put (done ++ [name]) .directory).get? other =
          (disk.get? other).or (if other = done ++ [name] then some .directory else none) := by
        by_cases hsame : other = done ++ [name]
        · subst hsame
          cases hget : disk.get? (done ++ [name]) <;> simp [hget, get?_put _ hpath]
        · split <;> simp [hsame, get?_put _ hpath]
      rw [makeFrom, ih, hstep, Option.or_assoc]
      congr 1
      have hcases := @prefix_snoc_cons_iff done other name names
      by_cases hsame : other = done ++ [name]
      · rw [if_pos hsame, if_pos (hcases.mp (.inl hsame)), Option.some_or]
      · rw [if_neg hsame, Option.none_or]
        simp only [← hcases, hsame, false_or]

theorem get?_makeFrom_root (disk : Disk) (path other : Path) :
    (disk.makeFrom [] path).get? other =
      (disk.get? other).or (if other <+: path then some .directory else none) := by
  rw [get?_makeFrom]
  by_cases hroot : other = []
  · subst hroot
    rfl
  · simp only [List.nil_prefix, hroot, ne_eq, not_false_eq_true, true_and, List.nil_append]

/-- No file stands at a path or on the way to it. -/
def Free (disk : Disk) (path : Path) : Prop :=
  ∀ other, other <+: path → disk.isFile other = false

theorem not_blocked_iff {disk : Disk} {path : Path} :
    disk.blocked path = false ↔ ∀ other, other <+: path → other ≠ path → disk.isFile other = false := by
  simp only [blocked, List.any_eq_false, List.mem_range, Bool.not_eq_true]
  constructor
  · intro hfree other hunder hother
    have hlength : other.length < path.length :=
      Nat.lt_of_le_of_ne hunder.length_le fun hsame => hother (hunder.eq_of_length hsame)
    have hfile := hfree other.length hlength
    rwa [← List.prefix_iff_eq_take.mp hunder] at hfile
  · intro hfree n hn
    apply hfree _ (List.take_prefix n path)
    intro hsame
    have hlength := congrArg List.length hsame
    rw [List.length_take] at hlength
    omega

theorem free_iff {disk : Disk} {path : Path} :
    disk.Free path ↔ disk.blocked path = false ∧ disk.isFile path = false := by
  rw [not_blocked_iff]
  constructor
  · intro hfree
    exact ⟨fun other hunder _ => hfree other hunder, hfree path (List.prefix_refl path)⟩
  · rintro ⟨hway, hfile⟩ other hunder
    by_cases hsame : other = path
    · exact hsame ▸ hfile
    · exact hway other hunder hsame

instance (disk : Disk) (path : Path) : Decidable (disk.Free path) :=
  decidable_of_iff _ free_iff.symm

theorem makeDirectory_of_free {disk : Disk} {path : Path} (hfree : disk.Free path) :
    disk.makeDirectory path = .ok (disk.makeFrom [] path) := by
  obtain ⟨hblocked, hfile⟩ := free_iff.mp hfree
  simp only [makeDirectory, hblocked, hfile, Bool.false_eq_true, if_false]

theorem makeDirectory_of_not_free {disk : Disk} {path : Path} (hfree : ¬ disk.Free path) :
    ∃ fault, disk.makeDirectory path = .error fault := by
  rw [makeDirectory]
  split
  · exact ⟨_, rfl⟩
  · rename_i hblocked
    split
    · exact ⟨_, rfl⟩
    · rename_i hfile
      exact absurd (free_iff.mpr ⟨Bool.eq_false_iff.mpr hblocked, Bool.eq_false_iff.mpr hfile⟩) hfree

/-! ### Sound disks -/

/-- The entries form a tree below the root: they have paths of their own, and each stands in a
directory. -/
structure Sound (disk : Disk) : Prop where
  distinct : (disk.entries.map Prod.fst).Nodup
  rooted : ∀ path ∈ disk.entries.map Prod.fst, path ≠ []
  housed : ∀ path ∈ disk.entries.map Prod.fst, disk.isDirectory path.dropLast = true

instance (disk : Disk) : Decidable disk.Sound :=
  decidable_of_iff
    ((disk.entries.map Prod.fst).Nodup ∧ (∀ path ∈ disk.entries.map Prod.fst, path ≠ [])
      ∧ ∀ path ∈ disk.entries.map Prod.fst, disk.isDirectory path.dropLast = true)
    ⟨fun ⟨distinct, rooted, housed⟩ => ⟨distinct, rooted, housed⟩,
      fun hsound => ⟨hsound.distinct, hsound.rooted, hsound.housed⟩⟩

namespace Sound

variable {disk : Disk} {path other : Path}

theorem isDirectory_dropLast (hsound : disk.Sound) (hpath : path ≠ [])
    (hget : (disk.get? path).isSome = true) : disk.isDirectory path.dropLast = true := by
  rw [get?_of_ne_nil _ hpath] at hget
  exact hsound.housed path (lookup_isSome_iff.mp hget)

/-- Everything above an entry is a directory. -/
theorem isDirectory_of_prefix (hsound : disk.Sound) (hget : (disk.get? path).isSome = true)
    (hunder : other <+: path) (hother : other ≠ path) : disk.isDirectory other = true := by
  induction hlength : path.length generalizing path with
  | zero =>
      rw [List.length_eq_zero_iff] at hlength
      subst hlength
      exact absurd (List.prefix_nil.mp hunder) hother
  | succ n ih =>
      have hpath : path ≠ [] := by
        rintro rfl
        simp at hlength
      have hparent := hsound.isDirectory_dropLast hpath hget
      by_cases hsame : other = path.dropLast
      · exact hsame ▸ hparent
      · apply ih _ (Path.prefix_dropLast hunder hother) hsame
        · rw [List.length_dropLast, hlength]
          rfl
        · rw [isDirectory_iff.mp hparent]
          rfl

theorem below_nodup (hsound : disk.Sound) (directory : Path) : (disk.below directory).Nodup := by
  have hentries : disk.below directory =
      (disk.entries.map Prod.fst).filterMap fun key =>
        if directory.within key && key != directory then some (key.drop directory.length) else none := by
    rw [List.filterMap_map]
    rfl
  rw [hentries]
  refine List.Nodup.filterMap ?_ hsound.distinct
  intro first second rest hfirst hsecond
  simp only [Option.mem_def, Option.ite_none_right_eq_some, Bool.and_eq_true, Path.within_iff,
    Option.some.injEq] at hfirst hsecond
  obtain ⟨⟨⟨first, rfl⟩, -⟩, hfirst⟩ := hfirst
  obtain ⟨⟨⟨second, rfl⟩, -⟩, hsecond⟩ := hsecond
  rw [List.drop_left] at hfirst hsecond
  rw [hfirst, hsecond]

/-- An entry may be put into a directory, over anything but a directory that it would not replace by
one. -/
theorem put (hsound : disk.Sound) (hpath : path ≠ [])
    (hparent : disk.isDirectory path.dropLast = true) {entry : Entry}
    (hover : disk.isDirectory path = true → entry = .directory) : (disk.put path entry).Sound := by
  have hkeys : (disk.put path entry).entries.map Prod.fst =
      path :: (disk.entries.map Prod.fst).filter (· != path) := by
    rw [Disk.put, List.map_cons, List.filter_map]
    rfl
  have hkept : ∀ key, disk.isDirectory key = true →
      (disk.put path entry).isDirectory key = true := by
    intro key hkey
    rw [isDirectory_iff, get?_put _ hpath]
    by_cases hsame : key = path
    · rw [if_pos hsame, hover (hsame ▸ hkey)]
    · rw [if_neg hsame, isDirectory_iff.mp hkey]
  constructor
  · rw [hkeys, List.nodup_cons]
    refine ⟨?_, hsound.distinct.filter _⟩
    simp
  · rw [hkeys]
    intro key hmem
    rcases List.mem_cons.mp hmem with rfl | hmem
    · exact hpath
    · exact hsound.rooted key (List.mem_filter.mp hmem).1
  · rw [hkeys]
    intro key hmem
    apply hkept
    rcases List.mem_cons.mp hmem with rfl | hmem
    · exact hparent
    · exact hsound.housed key (List.mem_filter.mp hmem).1

theorem remove (hsound : disk.Sound) (hpath : path ≠ []) : (disk.remove path).Sound := by
  have hkeys : (disk.remove path).entries.map Prod.fst =
      (disk.entries.map Prod.fst).filter fun key => !path.within key := by
    rw [Disk.remove, List.filter_map]
    rfl
  constructor
  · rw [hkeys]
    exact hsound.distinct.filter _
  · rw [hkeys]
    intro key hmem
    exact hsound.rooted key (List.mem_filter.mp hmem).1
  · rw [hkeys]
    intro key hmem
    obtain ⟨hmem, hout⟩ := List.mem_filter.mp hmem
    rw [Bool.not_eq_true', Path.within_eq_false_iff] at hout
    have hparent : ¬ path <+: key.dropLast := fun hunder => hout (hunder.trans key.dropLast_prefix)
    rw [isDirectory_iff, get?_remove _ hpath, if_neg hparent, ← isDirectory_iff]
    exact hsound.housed key hmem

theorem makeFrom (hsound : disk.Sound) {done : Path} {names : List String}
    (hdone : disk.isDirectory done = true) (hfree : disk.Free (done ++ names)) :
    (disk.makeFrom done names).Sound := by
  induction names generalizing disk done with
  | nil => exact hsound
  | cons name names ih =>
      have hpath : done ++ [name] ≠ [] := by simp
      rw [List.append_cons] at hfree
      rw [Disk.makeFrom]
      cases hget : disk.get? (done ++ [name]) with
      | some entry =>
          have hdirectory : disk.isDirectory (done ++ [name]) = true := by
            have hfile := hfree (done ++ [name]) (List.prefix_append _ names)
            cases entry with
            | directory => exact isDirectory_iff.mpr hget
            | file content => exact absurd (isFile_iff.mpr ⟨content, hget⟩) (by rw [hfile]; simp)
          exact ih hsound hdirectory hfree
      | none =>
          have hput : (disk.put (done ++ [name]) .directory).Sound := by
            apply hsound.put hpath
            · rwa [List.dropLast_concat]
            · exact fun _ => rfl
          refine ih hput (isDirectory_iff.mpr ?_) ?_
          · rw [get?_put _ hpath, if_pos rfl]
          · intro other hunder
            rw [isFile, get?_put _ hpath]
            by_cases hsame : other = done ++ [name]
            · rw [if_pos hsame]
            · rw [if_neg hsame]
              exact hfree other hunder

/-- Clearing a directory leaves nothing at its path and below, whether it was there or not. -/
theorem clear (hsound : disk.Sound) (hfile : disk.isFile path = false) :
    disk.clear path = .ok (disk.remove path) := by
  rw [Disk.clear]
  cases hget : disk.get? path with
  | some entry =>
      cases entry with
      | directory => rfl
      | file content =>
          rw [isFile, hget] at hfile
          exact nomatch hfile
  | none =>
      have hkeep : ∀ entry ∈ disk.entries, (!path.within entry.1) = true := by
        intro entry hmem
        rw [Bool.not_eq_true', Path.within_eq_false_iff]
        intro hunder
        have hkey : entry.1 ∈ disk.entries.map Prod.fst := List.mem_map_of_mem hmem
        have hthere : (disk.get? entry.1).isSome = true := by
          rw [get?_of_ne_nil _ (hsound.rooted _ hkey)]
          exact lookup_isSome_iff.mpr hkey
        by_cases hsame : path = entry.1
        · rw [← hsame, hget] at hthere
          exact nomatch hthere
        · have hdirectory := hsound.isDirectory_of_prefix hthere hunder hsame
          rw [isDirectory_iff, hget] at hdirectory
          exact nomatch hdirectory
      have hsame : (disk.entries.filter fun entry => !path.within entry.1) = disk.entries :=
        List.filter_eq_self.mpr hkeep
      have hremove : disk.remove path = disk := by
        rw [Disk.remove]
        exact congrArg Disk.mk hsame
      rw [hremove]

end Sound

end MiniTemplate.Disk

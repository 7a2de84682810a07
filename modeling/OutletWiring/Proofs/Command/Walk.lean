import OutletWiring.Command.Job
import OutletWiring.Proofs.FileTree

/-!
# The files that an argument names

An argument leads to a Swift file or to a directory with Swift files below it. A job runs over these
files, each once, whatever the order of the walk.
-/

namespace OutletWiring

open Command

def Located.sources (order : Path → Path → Bool) (argument : Text) : Located → List Source
  | missing => []
  | file path => if path.getLast?.any isSwift then [⟨path, argument⟩] else []
  | directory base files => (swiftFiles order files).map (Source.below argument base)

/-- The argument leads to the Swift file at `path`, or to a directory above it. -/
def FileTree.Names (tree : FileTree) (argument : Text) (path : Path) : Prop :=
  ∃ base, tree.resolve? argument = some base ∧ base <+: path ∧
    (path = base ∨ tree.file? base = none) ∧
    (tree.file? path).isSome = true ∧ path.getLast?.any isSwift = true

/-- Files that are in the order of a walk stay in it. -/
theorem Command.swiftFiles_of_sorted {order : Path → Path → Bool} {files walked : List Path}
    (hwalked : files.filter (fun path => path.getLast?.any isSwift) = walked)
    (hsorted : walked.Pairwise fun a b => order a b = true) :
    swiftFiles order files = walked := by
  rw [swiftFiles, hwalked, List.mergeSort_of_pairwise hsorted]

theorem Command.mem_swiftFiles_iff {order : Path → Path → Bool} {files : List Path} {path : Path} :
    path ∈ swiftFiles order files ↔ path ∈ files ∧ path.getLast?.any isSwift = true := by
  unfold swiftFiles
  rw [List.mem_mergeSort, List.mem_filter]

namespace FileTree

variable {tree : FileTree} {order : Path → Path → Bool} {argument : Text} {path : Path}
  {source : Source}

/-- What is below a directory has a last name of its own. -/
theorem getLast?_below {base : Path} (h : path.getLast?.any isSwift = true) :
    (base ++ path).getLast? = path.getLast? := by
  have hne : path ≠ [] := by
    rintro rfl
    cases h
  exact List.getLast?_append_of_ne_nil base hne

/-- Where there is a file below, there is a directory. -/
theorem isDirectory_of_mem_below {base : Path} (hbase : tree.file? base = none)
    (h : path ∈ tree.below base) : tree.isDirectory base = true := by
  have hfile : (tree.file? (base ++ path)).isSome = true := mem_below_iff.1 h
  have hne : path ≠ [] := by
    rintro rfl
    rw [List.append_nil, hbase] at hfile
    cases hfile
  obtain ⟨file, hmem, heq⟩ := List.mem_map.1 (isSome_file?_iff.1 hfile)
  have hany : (tree.files.any fun file =>
      base.isPrefixOf file.1 && base.length < file.1.length) = true := by
    refine List.any_eq_true.2 ⟨file, hmem, ?_⟩
    simpa [heq, List.length_pos_iff] using hne
  simp [isDirectory, hany]

/-- How the files are found that a job runs over. -/
inductive Walked (tree : FileTree) (order : Path → Path → Bool) (argument : Text) :
    List Source → Prop
  | nowhere (hresolve : tree.resolve? argument = none) : Walked tree order argument []
  | file {base : Path} (hresolve : tree.resolve? argument = some base)
      (hbase : (tree.file? base).isSome = true) (hswift : base.getLast?.any isSwift = true) :
      Walked tree order argument [⟨base, argument⟩]
  | otherFile {base : Path} (hresolve : tree.resolve? argument = some base)
      (hbase : (tree.file? base).isSome = true) (hswift : base.getLast?.any isSwift = false) :
      Walked tree order argument []
  | directory {base : Path} (hresolve : tree.resolve? argument = some base)
      (hbase : tree.file? base = none) :
      Walked tree order argument
        ((swiftFiles order (tree.below base)).map (Source.below argument base))

theorem walked_sources (tree : FileTree) (order : Path → Path → Bool) (argument : Text) :
    Walked tree order argument ((tree.locate argument).sources order argument) := by
  unfold locate
  cases hresolve : tree.resolve? argument with
  | none => exact .nowhere hresolve
  | some base =>
    simp only [lookAt]
    by_cases hbase : (tree.file? base).isSome = true
    · rw [if_pos hbase, Located.sources]
      cases hswift : base.getLast?.any isSwift with
      | true => exact .file hresolve hbase hswift
      | false => exact .otherFile hresolve hbase hswift
    · have hnone : tree.file? base = none := by simpa using hbase
      rw [if_neg hbase]
      by_cases hdirectory : tree.isDirectory base = true
      · rw [if_pos hdirectory]
        exact .directory hresolve hnone
      · have hnil : tree.below base = [] :=
          List.eq_nil_iff_forall_not_mem.2 fun _ hfile =>
            hdirectory (isDirectory_of_mem_below hnone hfile)
        have hwalked : Walked tree order argument _ := .directory hresolve hnone
        simpa [hdirectory, hnil, swiftFiles, Located.sources] using hwalked

namespace Walked

variable {sources : List Source}

/-- A job runs over the files that the argument names, and over no others. -/
theorem names_iff (h : Walked tree order argument sources) :
    tree.Names argument path ↔ path ∈ sources.map Source.path := by
  unfold Names
  cases h with
  | nowhere hresolve => simp [hresolve]
  | otherFile hresolve hbase hswift =>
    simp only [hresolve, Option.some.injEq, exists_eq_left', List.map_nil, List.not_mem_nil, iff_false]
    rintro ⟨-, rfl | hnone, -, hlast⟩
    · simp [hswift] at hlast
    · simp [hnone] at hbase
  | @file base hresolve hbase hswift =>
    simp only [hresolve, Option.some.injEq, exists_eq_left', List.map_singleton, List.mem_singleton]
    constructor
    · rintro ⟨-, heq | hnone, -⟩
      · exact heq
      · simp [hnone] at hbase
    · rintro rfl
      exact ⟨List.prefix_refl _, .inl rfl, hbase, hswift⟩
  | @directory base hresolve hbase =>
    simp only [hresolve, Option.some.injEq, exists_eq_left', List.map_map, List.mem_map]
    constructor
    · rintro ⟨⟨rest, rfl⟩, -, hfile, hswift⟩
      have hne : rest ≠ [] := by
        rintro rfl
        rw [List.append_nil, hbase] at hfile
        cases hfile
      rw [List.getLast?_append_of_ne_nil base hne] at hswift
      exact ⟨rest, mem_swiftFiles_iff.2 ⟨mem_below_iff.2 hfile, hswift⟩, rfl⟩
    · rintro ⟨rest, hmem, rfl⟩
      obtain ⟨hbelow, hswift⟩ := mem_swiftFiles_iff.1 hmem
      exact ⟨List.prefix_append .., .inr hbase, mem_below_iff.1 hbelow,
        getLast?_below hswift ▸ hswift⟩

theorem nodup (h : Walked tree order argument sources) : (sources.map Source.path).Nodup := by
  cases h with
  | nowhere | otherFile => exact List.nodup_nil
  | file => exact List.nodup_singleton _
  | @directory base =>
    have hperm : (swiftFiles order (tree.below base)).Perm
        ((tree.below base).filter fun path => path.getLast?.any isSwift) :=
      List.mergeSort_perm ..
    rw [List.map_map]
    exact (hperm.map _).nodup_iff.2 ((nodup_below tree base).sublist (List.filter_sublist.map _))

end Walked

end FileTree

end OutletWiring

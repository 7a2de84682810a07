import OutletWiring.FileTree
import Mathlib.Data.List.Nodup

/-!
# Reading a tree after writing to it

A write changes what is read at its own path and nothing else, and it makes no new files.
-/

namespace OutletWiring.FileTree

variable {tree : FileTree} {path : Path} {content : Content}

theorem file?_eq_some_iff : tree.file? path = some content ↔ (path, content) ∈ tree.files := by
  unfold file?
  constructor
  · intro h
    obtain ⟨front, back, hfiles, -⟩ := List.lookup_eq_some_iff.1 h
    simp [hfiles]
  · intro h
    obtain ⟨front, back, hfiles⟩ := List.append_of_mem h
    refine List.lookup_eq_some_iff.2 ⟨front, back, hfiles, ?_⟩
    have hnodup := tree.nodup
    rw [hfiles, List.map_append, List.map_cons, List.nodup_middle, List.nodup_cons] at hnodup
    intro file hfile
    rw [bne_iff_ne]
    exact fun heq => hnodup.1 (List.mem_append_left _ (List.mem_map.2 ⟨file, hfile, heq.symm⟩))

theorem isSome_file?_iff : (tree.file? path).isSome = true ↔ path ∈ tree.files.map Prod.fst := by
  rw [Option.isSome_iff_exists, List.mem_map]
  constructor
  · rintro ⟨content, h⟩
    exact ⟨(path, content), file?_eq_some_iff.1 h, rfl⟩
  · rintro ⟨file, hfile, rfl⟩
    exact ⟨file.2, file?_eq_some_iff.2 hfile⟩

theorem read_of_file? (h : tree.file? path = some content) : tree.read path = content.read := by
  rw [read, h]

/-! ## Writes -/

theorem lookup_map_replaced (files : List (Path × Content)) (path other : Path)
    (content : Content) :
    (files.map (replaced path content)).lookup other =
      if other = path then (files.lookup other).map fun _ => content else files.lookup other := by
  induction files with
  | nil => simp
  | cons file files ih =>
    obtain ⟨place, old⟩ := file
    by_cases hother : other = place
    · by_cases hpath : place = path <;> simp [replaced, hother, hpath]
    · have hbeq : (other == place) = false := by simpa using hother
      have hfst : (replaced path content (place, old)).1 = place := by
        unfold replaced
        split <;> rfl
      rw [List.map_cons, List.lookup_cons, List.lookup_cons, hfst, hbeq]
      exact ih

theorem file?_put (tree : FileTree) (path other : Path) (content : Content) :
    (tree.put path content).file? other =
      if other = path then (tree.file? other).map fun _ => content else tree.file? other :=
  lookup_map_replaced tree.files path other content

def putAll (tree : FileTree) (texts : List (Path × Text)) : FileTree :=
  texts.foldl (fun tree file => tree.put file.1 (.text file.2)) tree

variable {texts : List (Path × Text)} {text : Text}

theorem putAll_append (tree : FileTree) (texts texts' : List (Path × Text)) :
    tree.putAll (texts ++ texts') = (tree.putAll texts).putAll texts' :=
  List.foldl_append

theorem written_putAll (tree : FileTree) (texts : List (Path × Text)) :
    (tree.putAll texts).written = tree.written ++ texts.map Prod.fst := by
  induction texts generalizing tree with
  | nil => exact (List.append_nil _).symm
  | cons file texts ih =>
    calc ((tree.put file.1 (.text file.2)).putAll texts).written
        = (tree.written ++ [file.1]) ++ texts.map Prod.fst := ih _
      _ = tree.written ++ (file :: texts).map Prod.fst := by simp

theorem writeFailure?_putAll (tree : FileTree) (texts : List (Path × Text)) :
    (tree.putAll texts).writeFailure? = tree.writeFailure? := by
  induction texts generalizing tree with
  | nil => rfl
  | cons file texts ih => exact ih _

theorem file?_putAll_of_not_mem (h : path ∉ texts.map Prod.fst) :
    (tree.putAll texts).file? path = tree.file? path := by
  induction texts generalizing tree with
  | nil => rfl
  | cons file texts ih =>
    rw [List.map_cons, List.mem_cons, not_or] at h
    calc ((tree.put file.1 (.text file.2)).putAll texts).file? path
        = (tree.put file.1 (.text file.2)).file? path := ih h.2
      _ = tree.file? path := by rw [file?_put, if_neg h.1]

theorem file?_putAll_of_mem (hnodup : (texts.map Prod.fst).Nodup) (h : (path, text) ∈ texts)
    (hfile : tree.file? path = some content) :
    (tree.putAll texts).file? path = some (.text text) := by
  induction texts generalizing tree content with
  | nil => cases h
  | cons file texts ih =>
    rw [List.map_cons, List.nodup_cons] at hnodup
    rcases List.mem_cons.1 h with rfl | h
    · have hput : (tree.put path (.text text)).file? path = some (.text text) := by
        simp [file?_put, hfile]
      exact (file?_putAll_of_not_mem hnodup.1).trans hput
    · have hne : path ≠ file.1 := fun heq => hnodup.1 (List.mem_map.2 ⟨(path, text), h, heq⟩)
      exact ih hnodup.2 h (by rw [file?_put, if_neg hne, hfile])

/-! ## Directories -/

theorem mem_below_iff {base : Path} :
    path ∈ tree.below base ↔ (tree.file? (base ++ path)).isSome = true := by
  rw [isSome_file?_iff, below]
  simp only [List.mem_map, List.mem_filter, List.isPrefixOf_iff_prefix]
  constructor
  · rintro ⟨file, ⟨hmem, rest, hrest⟩, rfl⟩
    exact ⟨file, hmem, by simp [← hrest]⟩
  · rintro ⟨file, hmem, heq⟩
    exact ⟨file, ⟨hmem, heq ▸ List.prefix_append ..⟩, by simp [heq]⟩

theorem nodup_below (tree : FileTree) (base : Path) :
    ((tree.below base).map (base ++ ·)).Nodup := by
  have heq : (tree.below base).map (base ++ ·) =
      (tree.files.filter fun file => base.isPrefixOf file.1).map Prod.fst := by
    rw [below, List.map_map]
    refine List.map_congr_left fun file hfile => ?_
    obtain ⟨rest, hrest⟩ := List.isPrefixOf_iff_prefix.1 (List.mem_filter.1 hfile).2
    simp [← hrest]
  rw [heq]
  exact tree.nodup.sublist (List.filter_sublist.map Prod.fst)

end OutletWiring.FileTree

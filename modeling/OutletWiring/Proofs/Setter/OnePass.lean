import OutletWiring.Proofs.Setter.Binding

/-!
# Binding in one pass

Binding goes through the lines anew for each outlet, while its own lines are put in among them. What
comes out can be told from the lines as they were: an outlet is kept unless one of these lines, or the
binding of an outlet kept before it, holds its probe, and the bindings of all that are kept go in at
once.
-/

namespace OutletWiring.IdentifierSetter

open Identifiers
open Lines (withEnding)

/-- One more outlet is kept, unless a line or the binding of one kept before holds its probe. -/
def keepUnbound (lines : Lines) (kept : List Outlet) (outlet : Outlet) : List Outlet :=
  if isBound lines outlet || isBound (kept.flatMap bindingLines) outlet then kept
  else kept ++ [outlet]

/-- The outlets that are kept, told from the lines before anything is bound. -/
def unboundOutlets (lines : Lines) (outlets : List Outlet) : List Outlet :=
  outlets.foldl (keepUnbound lines) []

section

variable {lines : Lines} {index : Nat} {outlets : List Outlet} (hi : index ≤ lines.length)
  (hu : ∀ o ∈ outlets, Lines.Unbroken o.name)
include hi hu

/-- The loop invariant: the lines are those at the start with the bindings of the outlets kept so far
as one block, and the cursor stands behind it. The outlets that are still bound from there are those
that the pass still keeps. -/
theorem bindMissing_outlets_after (kept : List Outlet) :
    kept ++ (bindMissing (lines.insertBlock index (kept.flatMap bindingLines))
        (index + (kept.flatMap bindingLines).length) outlets).outlets =
      outlets.foldl (keepUnbound lines) kept := by
  induction outlets generalizing kept with
  | nil => simp [bindMissing_nil]
  | cons outlet outlets ih =>
    rw [List.forall_mem_cons] at hu
    have hseen := @isBound_insertBlock lines (kept.flatMap bindingLines) index outlet hu.1
    rw [← Bool.or_eq_true, Bool.eq_iff_iff.symm] at hseen
    rw [List.foldl_cons, keepUnbound, ← hseen, bindMissing_cons]
    split_ifs with hb
    · exact ih hu.2 kept
    · have hnext := ih hu.2 (kept ++ [outlet])
      rw [List.flatMap_append, List.flatMap_singleton, List.length_append, ← Nat.add_assoc,
        ← Lines.insertBlock_insertBlock hi (plain_head_bindings kept)] at hnext
      rw [← hnext, List.append_assoc, List.singleton_append]

theorem bindMissing_outlets_eq :
    (bindMissing lines index outlets).outlets = unboundOutlets lines outlets := by
  have h := bindMissing_outlets_after hi hu []
  rwa [List.flatMap_nil, Lines.insertBlock_nil, List.nil_append] at h

end

/-- The binding of a search bar is followed by that of its text field. -/
theorem bindingLines_of_isSearchBar {bar : Outlet} (h : bar.isSearchBar = true) :
    bindingLines bar =
      [bindingRow bar.name bar.name, bindingRow (bar.name ++ ".textfield") bar.textFieldCase] := by
  have htype : bar.type = "UISearchBar".toList := by simpa [Outlet.isSearchBar] using h
  have htarget : bar.target = bar.name := by
    unfold Outlet.target Outlet.isRootView
    rw [htype]
    rfl
  rw [bindingLines_eq, htarget, if_pos h]

/-- The outlets that are bound after the signature at `index` are those that one pass keeps. Their
bindings stand right after the signature, in the terminator of the file and in the order of the
outlets, and the text field of a search bar is bound in the line after the bar. -/
theorem bindMissing_eq_onePass {lines : Lines} {index : Nat} (hi : index < lines.length)
    {outlets : List Outlet} (hu : ∀ o ∈ outlets, Lines.Unbroken o.name) :
    let kept := unboundOutlets lines outlets
    let bound := bindMissing lines (index + 1) outlets
    bound.outlets = kept ∧
      bound.lines = lines.take (index + 1) ++
        (kept.flatMap bindingLines).map (withEnding lines.ending) ++ lines.drop (index + 1) ∧
      kept.Sublist outlets ∧
      ∀ bar ∈ kept, bar.isSearchBar = true →
        [withEnding lines.ending (bindingRow bar.name bar.name),
          withEnding lines.ending (bindingRow (bar.name ++ ".textfield") bar.textFieldCase)] <:+:
            bound.lines := by
  intro kept bound
  have houtlets : bound.outlets = kept := bindMissing_outlets_eq (by omega) hu
  have hlines : bound.lines = lines.take (index + 1) ++
      (kept.flatMap bindingLines).map (withEnding lines.ending) ++ lines.drop (index + 1) := by
    rw [← houtlets]
    exact bindMissing_lines lines (by omega) outlets
  have hsublist : kept.Sublist outlets := by
    rw [← houtlets]
    exact bindMissing_outlets_subset lines (index + 1) outlets
  refine ⟨houtlets, hlines, hsublist, fun bar hmem hbar => ?_⟩
  obtain ⟨before, after, hsplit⟩ := List.append_of_mem hmem
  rw [hlines, hsplit, List.flatMap_append, List.flatMap_cons, bindingLines_of_isSearchBar hbar]
  exact ⟨lines.take (index + 1) ++ (before.flatMap bindingLines).map (withEnding lines.ending),
    (after.flatMap bindingLines).map (withEnding lines.ending) ++ lines.drop (index + 1), by simp⟩

/-- A search bar and a button among outlets that are bound already or come twice, in a file with
carriage returns. -/
theorem bindMissing_eq_onePass_listView :
    let lines : Lines := ["class ListView: UIView \x7b\r\n",
      "\tfunc setAccessibilityIdentifiers() \x7b\r\n",
      "\t\tmakeViewTestable(title, using: .title)\r\n", "\t\x7d\r\n", "\x7d\r\n"]
    let bar : Outlet := ⟨"search", "UISearchBar"⟩
    let outlets : List Outlet := [bar, ⟨"title", "UILabel"⟩, bar, ⟨"done", "UIButton"⟩]
    1 < lines.length ∧ (∀ o ∈ outlets, Lines.Unbroken o.name) ∧
      unboundOutlets lines outlets = [bar, ⟨"done", "UIButton"⟩] ∧
      (bindMissing lines 2 outlets).outlets = [bar, ⟨"done", "UIButton"⟩] ∧
      bar.isSearchBar = true ∧
      ["\t\tmakeViewTestable(search, using: .search)\r\n".toList,
        "\t\tmakeViewTestable(search.textfield, using: .searchTextField)\r\n".toList] <:+:
          (bindMissing lines 2 outlets).lines := by
  intro lines bar outlets
  have hkept : unboundOutlets lines outlets = [bar, ⟨"done", "UIButton"⟩] := by decide +kernel
  have hunbroken : ∀ o ∈ outlets, Lines.Unbroken o.name := by decide
  obtain ⟨houtlets, -, -, hbar⟩ := @bindMissing_eq_onePass lines 1 (by decide) outlets hunbroken
  exact ⟨by decide, hunbroken, hkept, houtlets.trans hkept, rfl, hbar bar (by simp [hkept]) rfl⟩

end OutletWiring.IdentifierSetter

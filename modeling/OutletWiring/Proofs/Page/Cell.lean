import OutletWiring.Page.Cell
import OutletWiring.Proofs.Page.Element

/-!
# The lines of the page object of a cell

In either style the protocol of a cell is named after the class, as for a view. The words of the
lines that open it and its implementation are gone through one by one.
-/

namespace OutletWiring.Page.Cell

open Draft (AllQuiet Step)
open Line (Inert IsWord Quiet)

variable {variant : Variant} {subject : Subject}

theorem quiet_tapSteps {word element name : Text} (hw : IsWord word) (he : IsWord element) :
    AllQuiet name (tapSteps word element) := by
  unfold tapSteps
  simp only [Draft.allQuiet_cons, Draft.allQuiet_nil, and_true, Step.quiet_blank, true_and,
    quiet_discardable]
  exact ⟨Step.quiet_line (by simp [hw.inert]), Step.quiet_line (by simp [he.inert]),
    Step.quiet_line (by decide), Step.quiet_line (by decide)⟩

theorem quiet_whenIdentified {steps : List Step} {name : Text} (h : AllQuiet name steps) :
    AllQuiet name (whenIdentified subject steps) := by
  unfold whenIdentified
  split_ifs
  · exact h
  · exact Draft.allQuiet_nil

theorem quiet_protocolOpening (style : PageStyle) {className : Text} (hc : IsWord className) :
    Step.Quiet (Naming.viewProtocol className) (.line 0 (protocolOpening style className)) := by
  cases style with
  | inline => exact quiet_publicProtocol hc (by decide) (by decide)
  | screenSplit =>
    have htext : protocolOpening .screenSplit className =
        "protocol" ++ ' ' :: ((className ++ "ElementsProtocol") ++ ' ' :: "\x7b") := by
      show ("protocol " ++ className ++ "ElementsProtocol \x7b" : Text) = _
      simp
    have hname : Line.protocolName (className ++ "ElementsProtocol") ≠
        Naming.viewProtocol className := by
      have hword : className ++ ("ElementsProtocol" : Text) =
          (className ++ "ElementsProtoco") ++ ['l'] := by simp
      rw [hword, Line.protocolName_append_singleton (by decide) (by decide) (by decide), ← hword]
      exact Naming.append_ne_viewProtocol className (by decide)
    have hclosing : Quiet (Naming.viewProtocol className) "\x7b" := Inert.quiet (by decide)
    refine Step.quiet_line_of_quiet ?_
    rw [htext]
    exact (hclosing.cons_of_ne (hc.append (by decide))
      (Line.append_ne_protocolWord (by decide) _)).cons_pair (by decide)
        (hc.append (by decide)) (by simp) hname

theorem quiet_implementationOpening (style : PageStyle) {className name : Text}
    (hc : IsWord className) :
    Step.Quiet name (.line 0 (implementationOpening style className)) := by
  cases style with
  | inline =>
    refine Step.quiet_line ?_
    show Inert ("public extension " ++ className ++ "Elements \x7b")
    simp [hc.inert]
  | screenSplit =>
    have htext : implementationOpening .screenSplit className =
        "final" ++ ' ' :: ("class" ++ ' ' :: ((className ++ "Elements:") ++ ' ' :: ("BaseScreen," ++
          ' ' :: ((className ++ "ElementsProtocol") ++ ' ' :: "\x7b")))) := by
      show ("final class " ++ className ++ "Elements: " ++ "BaseScreen" ++ ", " ++ className ++
        "ElementsProtocol \x7b" : Text) = _
      simp
    have hclosing : Quiet name "\x7b" := Inert.quiet (by decide)
    refine Step.quiet_line_of_quiet ?_
    rw [htext]
    exact ((((hclosing.cons_of_ne (hc.append (by decide))
      (Line.append_ne_protocolWord (by decide) _)).cons_of_ne (by decide)
        (by decide)).cons_of_ne (hc.append (by decide))
          (Line.append_ne_protocolWord (by decide) _)).cons_of_ne (by decide)
            (by decide)).cons_of_ne (by decide) (by decide)

theorem quiet_extensionOpening (style : PageStyle) {className name : Text}
    (hc : IsWord className) : Step.Quiet name (.line 0 (extensionOpening style className)) := by
  refine Step.quiet_line ?_
  cases style with
  | inline =>
    show Inert ("public extension " ++ className ++ "Elements \x7b")
    simp [hc.inert]
  | screenSplit =>
    show Inert ("extension " ++ className ++ "Elements \x7b")
    simp [hc.inert]

section Worded

variable (h : subject.Worded) {name : Text}
include h

theorem quiet_elementSteps {outlet : Outlet} (ho : outlet ∈ subject.outlets) :
    AllQuiet name (elementSteps variant subject outlet) := by
  have hroot : Inert (Scope.cell subject.accessorStem).root := by
    show Inert (subject.accessorStem ++ "(at: index)")
    simp [h.accessorStem.inert]
  unfold elementSteps
  simp only [Draft.allQuiet_cons, Draft.allQuiet_nil, and_true]
  exact ⟨Step.quiet_line (by simp [(h.accessor ho).inert]),
    Step.quiet_line (inert_lookup h hroot ho), Step.quiet_line (by decide)⟩

theorem quiet_outletTapSteps : AllQuiet name (outletTapSteps variant subject) := by
  unfold outletTapSteps
  rw [Draft.allQuiet_flatMap]
  intro outlet ho
  have hmem := List.mem_of_mem_filter ho
  exact quiet_tapSteps (h.outlets outlet hmem).upperFirst (h.accessor hmem)

theorem quiet_protocolSteps :
    AllQuiet (Naming.viewProtocol subject.className) (protocolSteps variant subject) := by
  have hcell : AllQuiet (Naming.viewProtocol subject.className) (cellRequirementSteps subject) := by
    unfold cellRequirementSteps
    refine quiet_whenIdentified ?_
    simp only [Draft.allQuiet_cons, Draft.allQuiet_nil, and_true]
    exact Step.quiet_line (by simp [h.accessorStem.inert])
  have hrequirement : AllQuiet (Naming.viewProtocol subject.className)
      (requirementSteps subject) := by
    unfold requirementSteps
    rw [Draft.allQuiet_map]
    intro word hword
    exact Step.quiet_line (by simp [(h.accessors word hword).inert])
  unfold protocolSteps
  simp only [Draft.allQuiet_append, Draft.allQuiet_cons, Draft.allQuiet_nil, and_true, hcell,
    hrequirement, quiet_protocolOpening variant.pageStyle h.className, true_and]
  exact ⟨Step.quiet_line (by simp [h.accessorStem.inert]),
    Step.quiet_line (by simp [h.accessorStem.upperFirst.inert]), Step.quiet_line (by decide)⟩

theorem quiet_cellSteps : AllQuiet name (cellSteps subject) := by
  have hid : Inert (identifier subject subject.cellIdentifier) :=
    (h.identifier h.cellIdentifier).inert
  have hlast : (identifier subject subject.cellIdentifier).getLast? = some 'e' := by
    unfold identifier
    rw [List.getLast?_append]
    simp
  unfold cellSteps
  refine quiet_whenIdentified ?_
  simp only [Draft.allQuiet_cons, Draft.allQuiet_nil, and_true, Step.quiet_blank]
  exact ⟨Step.quiet_line (by simp [h.accessorStem.inert]), Step.quiet_line (by simp [hid, hlast]),
    Step.quiet_line (by decide)⟩

theorem quiet_aggregateSteps : AllQuiet name (aggregateSteps subject) := by
  unfold aggregateSteps
  simp only [Draft.allQuiet_cons, Draft.allQuiet_nil, and_true, Step.quiet_blank, true_and,
    quiet_discardable]
  exact ⟨Step.quiet_line (by simp [h.accessorStem.inert]),
    quiet_wordList h.accessors (by decide) (by decide) (by decide) (by decide),
    Step.quiet_line (by decide)⟩

theorem quiet_checkSteps : AllQuiet name (checkSteps subject) := by
  unfold checkSteps
  simp only [Draft.allQuiet_cons, Draft.allQuiet_nil, and_true, true_and, quiet_discardable]
  exact ⟨Step.quiet_line (by simp [h.accessorStem.upperFirst.inert]),
    Step.quiet_line (by simp [h.accessorStem.inert]), Step.quiet_line (by decide),
    Step.quiet_line (by decide)⟩

theorem quiet_implementationSteps : AllQuiet name (implementationSteps variant subject) := by
  have helements : ∀ outlet ∈ subject.outlets,
      AllQuiet name (elementSteps variant subject outlet) := fun outlet ho => quiet_elementSteps h ho
  have htap : AllQuiet name (cellTapSteps subject) :=
    quiet_whenIdentified (quiet_tapSteps h.accessorStem.upperFirst h.accessorStem)
  unfold implementationSteps
  simp only [Draft.allQuiet_append, Draft.allQuiet_cons, Draft.allQuiet_nil, and_true,
    Draft.allQuiet_flatMap, Step.quiet_blank, quiet_implementationOpening _ h.className,
    quiet_cellSteps h, quiet_aggregateSteps h, quiet_checkSteps h, htap, quiet_outletTapSteps h,
    true_and]
  exact ⟨helements, Step.quiet_line (by decide)⟩

theorem quietRow_fresh :
    ∀ line ∈ fresh variant subject, Line.QuietRow (Naming.viewProtocol subject.className) line := by
  refine AllQuiet.quietRow ?_
  rw [Draft.allQuiet_append, Draft.allQuiet_cons]
  exact ⟨quiet_protocolSteps h, Step.quiet_blank, quiet_implementationSteps h⟩

theorem quietRow_extension : ∀ line ∈ extension variant subject, Line.QuietRow name line := by
  have helements : AllQuiet name (separated (subject.outlets.map (elementSteps variant subject))) := by
    refine allQuiet_separated ?_
    rw [List.forall_mem_map]
    exact fun outlet ho => quiet_elementSteps h ho
  refine AllQuiet.quietRow ?_
  simp only [Draft.allQuiet_append, Draft.allQuiet_cons, Draft.allQuiet_nil, and_true,
    quiet_extensionOpening _ h.className, helements, quiet_outletTapSteps h, true_and]
  exact Step.quiet_line (by decide)

end Worded

end OutletWiring.Page.Cell

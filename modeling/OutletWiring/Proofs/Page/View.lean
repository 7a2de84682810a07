import OutletWiring.Page.View
import OutletWiring.Proofs.Page.Element

/-!
# The lines of the page object of a view

The protocol that the page object declares is named after the class, so it has a longer name than the
interface protocol that is looked for in the source.
-/

namespace OutletWiring.Page.View

open Draft (AllQuiet Step)
open Line (Inert IsWord Quiet)

variable {variant : Variant} {subject : Subject}

section Worded

variable (h : subject.Worded) {name : Text}
include h

theorem quiet_elementSteps : AllQuiet name (elementSteps variant subject) := by
  unfold elementSteps
  simp only [Draft.allQuiet_flatMap, Draft.allQuiet_cons, Draft.allQuiet_nil, and_true]
  intro outlet ho
  exact ⟨Step.quiet_line (by simp [(h.accessor ho).inert]),
    Step.quiet_line (inert_lookup h (by decide) ho), Step.quiet_line (by decide)⟩

theorem quiet_tapSteps : AllQuiet name (tapSteps variant subject) := by
  unfold tapSteps
  simp only [Draft.allQuiet_flatMap, Draft.allQuiet_cons, Draft.allQuiet_nil, and_true,
    Step.quiet_blank, true_and, quiet_discardable]
  intro outlet ho
  have hword := h.accessor (List.mem_of_mem_filter ho)
  exact ⟨Step.quiet_line (by simp [hword.upperFirst.inert]), Step.quiet_line (by simp [hword.inert]),
    Step.quiet_line (by decide), Step.quiet_line (by decide)⟩

theorem quiet_protocolSteps :
    AllQuiet (Naming.viewProtocol subject.className) (protocolSteps variant subject) := by
  have hbase : IsWord variant.pageStyle.viewBase ∧ variant.pageStyle.viewBase.getLast? ≠ some 'l' := by
    cases variant.pageStyle <;> decide
  have hrequirement : AllQuiet (Naming.viewProtocol subject.className)
      (requirementSteps subject) := by
    unfold requirementSteps
    simp only [Draft.allQuiet_map]
    intro word hword
    exact Step.quiet_line (by simp [(h.accessors word hword).inert])
  unfold protocolSteps
  simp only [Draft.allQuiet_append, Draft.allQuiet_cons, Draft.allQuiet_nil, and_true, hrequirement,
    Step.quiet_blank, true_and]
  exact ⟨quiet_publicProtocol h.className hbase.1 hbase.2,
    Step.quiet_line (by simp [h.accessorStem.inert]),
    Step.quiet_line (by simp [h.accessorStem.upperFirst.inert]), Step.quiet_line (by decide)⟩

theorem quiet_extensionOpening {name : Text} :
    Step.Quiet name (.line 0 (extensionOpening subject.className)) := by
  unfold extensionOpening
  exact Step.quiet_line (by simp [h.className.inert])

theorem quiet_aggregateSteps {name : Text} : AllQuiet name (aggregateSteps subject) := by
  unfold aggregateSteps
  simp only [Draft.allQuiet_cons, Draft.allQuiet_nil, and_true, Step.quiet_blank, true_and,
    quiet_discardable]
  exact ⟨Step.quiet_line (by simp [h.accessorStem.inert]),
    quiet_wordList h.accessors (by decide) (by decide) (by decide) (by decide),
    Step.quiet_line (by decide)⟩

theorem quiet_checkSteps {name : Text} : AllQuiet name (checkSteps subject) := by
  unfold checkSteps
  simp only [Draft.allQuiet_cons, Draft.allQuiet_nil, and_true, Step.quiet_blank, true_and,
    quiet_discardable]
  exact ⟨Step.quiet_line (by simp [h.accessorStem.upperFirst.inert]),
    Step.quiet_line (by simp [h.accessorStem.inert]), Step.quiet_line (by decide),
    Step.quiet_line (by decide)⟩

theorem quietRow_fresh :
    ∀ line ∈ fresh variant subject, Line.QuietRow (Naming.viewProtocol subject.className) line := by
  refine AllQuiet.quietRow ?_
  unfold implementationSteps
  simp only [Draft.allQuiet_append, Draft.allQuiet_cons, Draft.allQuiet_nil, Step.quiet_blank,
    quiet_protocolSteps h, quiet_extensionOpening h, quiet_elementSteps h, quiet_aggregateSteps h,
    quiet_checkSteps h, quiet_tapSteps h, true_and, and_true]
  exact Step.quiet_line (by decide)

theorem quietRow_extension {name : Text} :
    ∀ line ∈ extension variant subject, Line.QuietRow name line := by
  refine AllQuiet.quietRow ?_
  simp only [Draft.allQuiet_append, Draft.allQuiet_cons, Draft.allQuiet_nil,
    quiet_extensionOpening h, quiet_elementSteps h, quiet_tapSteps h, true_and, and_true]
  exact Step.quiet_line (by decide)

end Worded

end OutletWiring.Page.View

import OutletWiring.Identifiers
import OutletWiring.Proofs.Lines.Ending

/-!
# The blocks of identifiers, line by line

The setter and the enum are laid out step by step. Here they are written as the rows that come out:
a fixed frame around the bindings of the outlets, and a fixed frame around the cases.
-/

namespace OutletWiring.Identifiers

open Draft (row compose Step)
open Line (Mark.binding Mark.setter Mark.typealias)

def bindingRow (target name : Text) : Text :=
  row 2 (Mark.binding ++ target ++ ", using: ." ++ name ++ ")")

def caseRow (name : Text) : Text :=
  row 2 ("case " ++ name)

def cellRow (subject : Subject) : Text :=
  row 2 (Mark.binding ++ "self, using: ." ++ subject.cellIdentifier ++ ", index: index)")

def setterHead (subject : Subject) : Lines :=
  [row 0 [],
    row 0 "// MARK: - UITestable",
    row 0 ("extension " ++ subject.className ++ ": UITestablePage \x7b"),
    row 1 (Mark.typealias ++ subject.enumName),
    row 0 [],
    row 1 (Mark.setter ++ " \x7b")]

def cellRows (subject : Subject) : Lines :=
  if subject.identifiesCell then
    [row 0 [],
      row 1 "func setAccessibilityIdentifiers(at index: Int) \x7b",
      cellRow subject,
      row 1 "\x7d"]
  else []

def enumHead (subject : Subject) : Lines :=
  [row 0 [],
    row 0 "public extension UIElements \x7b",
    row 1 ("enum " ++ subject.enumName ++ ": String, UIElement \x7b"),
    row 2 ("// MARK: - " ++ subject.className)]

theorem whole_bindingSteps (outlet : Outlet) : ∀ step ∈ bindingSteps outlet, step.whole = true := by
  intro step hstep
  simp only [bindingSteps, List.mem_cons] at hstep
  rcases hstep with rfl | hstep
  · rfl
  · split_ifs at hstep
    · simp only [List.mem_singleton] at hstep
      subst hstep
      rfl
    · simp at hstep

theorem bindingLines_eq (outlet : Outlet) :
    bindingLines outlet = bindingRow outlet.target outlet.name ::
      if outlet.isSearchBar then [bindingRow (outlet.name ++ ".textfield") outlet.textFieldCase]
      else [] := by
  rw [bindingLines, Draft.compose_eq_flatMap_rows (whole_bindingSteps outlet)]
  by_cases h : outlet.isSearchBar <;> simp [bindingSteps, h, Step.rows, bindingRow]

theorem caseLines_eq (subject : Subject) : caseLines subject = subject.cases.map caseRow := by
  have hwhole : ∀ step ∈ caseSteps subject, step.whole = true := by
    simp [caseSteps, Step.whole]
  rw [caseLines, Draft.compose_eq_flatMap_rows hwhole, caseSteps, List.flatMap_map,
    List.map_eq_flatMap]
  rfl

theorem flatMap_rows_bindingSteps (outlets : List Outlet) :
    (outlets.flatMap bindingSteps).flatMap Step.rows = outlets.flatMap bindingLines := by
  rw [List.flatMap_assoc]
  congr 1
  funext outlet
  rw [bindingLines, Draft.compose_eq_flatMap_rows (whole_bindingSteps outlet)]

theorem setterBlock_eq (subject : Subject) :
    setterBlock subject = setterHead subject ++ subject.outlets.flatMap bindingLines ++
      row 1 "\x7d" :: (cellRows subject ++ [row 0 "\x7d"]) := by
  have hcell : ∀ step ∈ cellSetterSteps subject, step.whole = true := by
    unfold cellSetterSteps
    split_ifs <;> simp [Step.whole]
  rw [setterBlock, Draft.compose_eq_flatMap_rows]
  · have hrows : (cellSetterSteps subject).flatMap Step.rows = cellRows subject := by
      unfold cellSetterSteps cellRows
      split_ifs <;> simp [Step.rows, cellRow]
    simp [flatMap_rows_bindingSteps, hrows, Step.rows, setterHead]
  · intro step hstep
    simp only [List.mem_append, List.mem_flatMap] at hstep
    rcases hstep with (((hstep | ⟨outlet, -, hstep⟩) | hstep) | hstep) | hstep
    · simp only [List.mem_cons, List.not_mem_nil, or_false] at hstep
      rcases hstep with rfl | rfl | rfl | rfl | rfl | rfl <;> rfl
    · exact whole_bindingSteps outlet step hstep
    · simp only [List.mem_singleton] at hstep
      subst hstep
      rfl
    · exact hcell step hstep
    · simp only [List.mem_singleton] at hstep
      subst hstep
      rfl

theorem enumBlock_eq (subject : Subject) :
    enumBlock subject = enumHead subject ++ caseLines subject ++ [row 1 "\x7d", row 0 "\x7d"] := by
  have hcases : ∀ step ∈ caseSteps subject, step.whole = true := by
    simp [caseSteps, Step.whole]
  rw [enumBlock, Draft.compose_eq_flatMap_rows]
  · simp [caseLines, Draft.compose_eq_flatMap_rows hcases, Step.rows, enumHead]
  · intro step hstep
    simp only [List.mem_append, List.mem_cons, List.not_mem_nil, or_false] at hstep
    rcases hstep with ((rfl | rfl | rfl | rfl) | hstep) | rfl | rfl
    · rfl
    · rfl
    · rfl
    · rfl
    · exact hcases step hstep
    · rfl
    · rfl

end OutletWiring.Identifiers

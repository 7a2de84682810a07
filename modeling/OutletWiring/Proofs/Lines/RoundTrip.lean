import OutletWiring.Proofs.Lines.WellCut

/-!
# Text to lines and back

Cutting a text into lines and joining them gives the text again, character for character. Joining
lines and cutting their text gives the lines again with their terminators filled in, exactly if no
line holds a newline before its end and the last one is not empty (`Cuttable`): a newline within a
line cuts it in two, and an empty last line leaves nothing to be cut off. Empty lines before the
last come back as blank ones.
-/

namespace OutletWiring.Lines

/-- A newline stands at most at the end of a line, and the last line is not empty. -/
def Cuttable (lines : Lines) : Prop :=
  (∀ line ∈ lines, '\n' ∉ line.dropLast) ∧ ∀ last ∈ lines.getLast?, last ≠ []

/-- The lines with a newline after each that ends without one, the last line excepted. -/
def filledIn (lines : Lines) : Lines :=
  lines.dropLast.map (closed .newline) ++ lines.getLast?.toList

variable {lines : Lines} {line last : Text}

@[simp] theorem filledIn_concat (lines : Lines) (last : Text) :
    filledIn (lines ++ [last]) = lines.map (closed .newline) ++ [last] := by
  simp [filledIn]

@[simp] theorem cuttable_concat :
    Cuttable (lines ++ [last]) ↔ (∀ line ∈ lines, '\n' ∉ line.dropLast) ∧ Single last := by
  simp only [Cuttable, Single, List.forall_mem_append, List.forall_mem_singleton,
    List.getLast?_concat, Option.mem_some_iff, forall_eq']
  tauto

/-- With its terminator filled in, a line is cut off as it is exactly if it holds no newline before
its end. -/
theorem single_closed_iff {ending : Ending} :
    Single (closed ending line) ↔ '\n' ∉ line.dropLast := by
  rw [← @complete_closed_iff line ending]
  constructor
  · intro h
    exact ⟨terminated_closed ending line, h.2⟩
  · intro h
    refine ⟨?_, h.2⟩
    intro hnil
    rw [hnil] at h
    exact absurd h.1 (by decide)

/-- Lines that are each cut off as they are come back one by one, whatever follows them. -/
theorem reparse_append_of_cuttable (h : ∀ line ∈ lines, '\n' ∉ line.dropLast) {rest : Lines}
    (hr : rest ≠ []) : reparse (lines ++ rest) = lines.map (closed .newline) ++ reparse rest := by
  induction lines with
  | nil => rfl
  | cons line lines ih =>
    rw [List.forall_mem_cons] at h
    have hline : ofText (closed .newline line) = [closed .newline line] :=
      ofText_of_single (single_closed_iff.2 h.1)
    rw [List.cons_append, reparse_cons line (by simp [hr]), hline, ih h.2]
    rfl

theorem reparse_eq_filledIn (h : Cuttable lines) : reparse lines = filledIn lines := by
  rcases List.eq_nil_or_concat' lines with rfl | ⟨init, last, rfl⟩
  · rfl
  · rw [cuttable_concat] at h
    rw [reparse_append_of_cuttable h.1 (List.cons_ne_nil _ _), reparse_singleton,
      ofText_of_single h.2, filledIn_concat]

/-- What is cut from a text holds a newline at its end only, so the lines before the text did. -/
theorem cuttable_of_reparse (h : reparse lines = filledIn lines) : Cuttable lines := by
  rcases List.eq_nil_or_concat' lines with rfl | ⟨init, last, rfl⟩
  · exact ⟨by simp, by simp⟩
  · have hsingle : ∀ line ∈ filledIn (init ++ [last]), Single line := by
      intro line hline
      rw [← h] at hline
      exact single_of_mem_ofText hline
    rw [filledIn_concat, List.forall_mem_append, List.forall_mem_singleton, List.forall_mem_map]
      at hsingle
    rw [cuttable_concat]
    exact ⟨fun line hline => single_closed_iff.1 (hsingle.1 line hline), hsingle.2⟩

/-- Every text is the text of its lines; and lines are the lines of their text, with terminators
filled in, exactly if they can be cut so. -/
theorem text_lines_round_trip :
    (∀ text : Text, toText (ofText text) = text) ∧
      ∀ lines : Lines, ofText (toText lines) = filledIn lines ↔ Cuttable lines := by
  constructor
  · exact toText_ofText
  · intro lines
    constructor
    · exact cuttable_of_reparse
    · exact reparse_eq_filledIn

end OutletWiring.Lines

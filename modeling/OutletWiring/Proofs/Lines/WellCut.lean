import OutletWiring.Proofs.Lines.Insertion
import OutletWiring.Proofs.Lines.Reading

/-!
# Lines as a text is cut into them

A text is cut after each newline, so its lines hold a newline at their end only, and all but the
last end in one. Lines of which this is true are read back from their text as they are
(`reparse_eq_self_iff`). It stays true when complete lines are put in, but not where they go behind
a last line that has no terminator.
-/

namespace OutletWiring.Lines

/-- The line ends in a newline and holds no other. -/
def Complete (line : Text) : Prop :=
  terminated line = true ∧ '\n' ∉ line.dropLast

/-- Every line but the last ends in a newline, and no line holds a newline before its end. -/
def WellCut (lines : Lines) : Prop :=
  (∀ line ∈ lines.dropLast, terminated line = true) ∧ ∀ line ∈ lines, '\n' ∉ line.dropLast

instance (lines : Lines) : Decidable (WellCut lines) :=
  inferInstanceAs (Decidable (_ ∧ _))

variable {lines block front back : Lines} {line : Text} {index : Nat}

theorem complete_append_newline {text : Text} : Complete (text ++ ['\n']) ↔ '\n' ∉ text := by
  simp [Complete, terminated]

theorem Complete.withEnding (h : Complete line) (ending : Ending) :
    Complete (withEnding ending line) := by
  rcases withEnding_eq ending line with heq | ⟨text, rfl, heq⟩
  · rwa [heq]
  · have hsplit : text ++ ['\r', '\n'] = (text ++ ['\r']) ++ ['\n'] := by simp
    rw [complete_append_newline] at h
    rw [heq, hsplit, complete_append_newline]
    simp [h]

theorem complete_map_withEnding (h : ∀ line ∈ block, Complete line) (ending : Ending) :
    ∀ line ∈ block.map (Lines.withEnding ending), Complete line := by
  rw [List.forall_mem_map]
  exact fun line hline => (h line hline).withEnding ending

theorem wellCut_append (hb : back ≠ []) :
    WellCut (front ++ back) ↔ (∀ line ∈ front, Complete line) ∧ WellCut back := by
  unfold WellCut Complete
  rw [List.dropLast_append_of_ne_nil hb, List.forall_mem_append, List.forall_mem_append]
  constructor
  · rintro ⟨⟨hft, hbt⟩, hfn, hbn⟩
    exact ⟨fun line hline => ⟨hft line hline, hfn line hline⟩, hbt, hbn⟩
  · rintro ⟨hf, hbt, hbn⟩
    exact ⟨⟨fun line hline => (hf line hline).1, hbt⟩, fun line hline => (hf line hline).2, hbn⟩

theorem wellCut_singleton : WellCut [line] ↔ '\n' ∉ line.dropLast := by
  simp [WellCut]

theorem WellCut.of_complete (h : ∀ line ∈ lines, Complete line) : WellCut lines :=
  ⟨fun line hline => (h line (List.dropLast_subset _ hline)).1, fun line hline => (h line hline).2⟩

/-- With its last line terminated, lines that are well cut are all complete. -/
theorem WellCut.complete (h : WellCut lines)
    (hlast : ∀ last ∈ lines.getLast?, terminated last = true) : ∀ line ∈ lines, Complete line := by
  rcases List.eq_nil_or_concat' lines with rfl | ⟨init, last, rfl⟩
  · simp
  · rw [wellCut_append (List.cons_ne_nil _ _), wellCut_singleton] at h
    rw [List.forall_mem_append, List.forall_mem_singleton]
    exact ⟨h.1, hlast last (by simp), h.2⟩

/-! ## The lines of a text -/

theorem wellCut_ofText (text : Text) : WellCut (ofText text) := by
  induction text using text_induction with
  | last text ht =>
    by_cases hne : text = []
    · subst hne
      decide
    · rw [ofText_of_not_mem ht hne, wellCut_singleton]
      exact fun hm => ht (List.dropLast_subset _ hm)
  | line front rest hfront ih =>
    rw [ofText_append_newline hfront]
    have hline := complete_append_newline.2 hfront
    by_cases hrest : ofText rest = []
    · rw [hrest, wellCut_singleton]
      exact hline.2
    · rw [← List.singleton_append, wellCut_append hrest, List.forall_mem_singleton]
      exact ⟨hline, ih⟩

/-- Lines are those of their own text exactly if they are well cut. -/
theorem reparse_eq_self_iff (hne : ∀ line ∈ lines, line ≠ []) :
    reparse lines = lines ↔ WellCut lines := by
  constructor
  · intro h
    rw [← h]
    exact wellCut_ofText lines.toText
  · intro h
    exact reparse_of_single (fun line hline => ⟨hne line hline, h.2 line hline⟩) h.1

/-! ## Changing a line -/

/-- A line can be changed for one that is no more broken. -/
theorem WellCut.set (h : WellCut lines) {next : Text} (hline : lines[index]? = some line)
    (hn : '\n' ∉ next.dropLast) (ht : terminated line = true → terminated next = true) :
    WellCut (lines.set index next) := by
  obtain ⟨hlt, rfl⟩ := List.getElem?_eq_some_iff.1 hline
  have hsplit : lines = lines.take index ++ lines[index] :: lines.drop (index + 1) := by
    rw [List.cons_getElem_drop_succ, List.take_append_drop]
  rw [hsplit, wellCut_append (List.cons_ne_nil _ _)] at h
  rw [List.set_eq_take_append_cons_drop, if_pos hlt, wellCut_append (List.cons_ne_nil _ _)]
  refine ⟨h.1, ?_⟩
  by_cases hrest : lines.drop (index + 1) = []
  · rw [hrest, wellCut_singleton]
    exact hn
  · have htail := h.2
    rw [← List.singleton_append, wellCut_append hrest, List.forall_mem_singleton] at htail ⊢
    exact ⟨⟨ht htail.1.1, hn⟩, htail.2⟩

/-! ## Putting lines in -/

theorem insertBlock_of_drop_nil (h : lines.drop index = []) :
    lines.insertBlock index block = lines ++ block.map (withEnding lines.ending) := by
  have htake : lines.take index = lines := List.take_of_length_le (List.drop_eq_nil_iff.1 h)
  rw [insertBlock, htake, h, List.append_nil]

theorem WellCut.of_insertBlock (h : WellCut (lines.insertBlock index block)) : WellCut lines := by
  by_cases hdrop : lines.drop index = []
  · rw [insertBlock_of_drop_nil hdrop] at h
    by_cases hb : block = []
    · rwa [hb, List.map_nil, List.append_nil] at h
    · exact .of_complete ((wellCut_append (by simpa using hb)).1 h).1
  · rw [insertBlock, wellCut_append hdrop, List.forall_mem_append] at h
    rw [← List.take_append_drop index lines, wellCut_append hdrop]
    exact ⟨h.1.1, h.2⟩

/-- Lines go behind the last line only if that line is terminated. -/
theorem WellCut.terminated_of_insertBlock (h : WellCut (lines.insertBlock index block))
    (hi : lines.length ≤ index) (hne : block ≠ []) :
    ∀ last ∈ lines.getLast?, terminated last = true := by
  intro last hlast
  rw [insertBlock_of_drop_nil (List.drop_eq_nil_iff.2 hi), wellCut_append (by simpa using hne)] at h
  exact (h.1 last (List.mem_of_getLast? hlast)).1

theorem WellCut.insertBlock (h : WellCut lines) (hb : ∀ line ∈ block, Complete line)
    (hend : lines.length ≤ index → ∀ last ∈ lines.getLast?, terminated last = true) :
    WellCut (lines.insertBlock index block) := by
  have hblock := complete_map_withEnding hb lines.ending
  by_cases hdrop : lines.drop index = []
  · rw [insertBlock_of_drop_nil hdrop]
    have hlines := h.complete (hend (List.drop_eq_nil_iff.1 hdrop))
    exact .of_complete (List.forall_mem_append.2 ⟨hlines, hblock⟩)
  · rw [← List.take_append_drop index lines, wellCut_append hdrop] at h
    rw [Lines.insertBlock, wellCut_append hdrop, List.forall_mem_append]
    exact ⟨⟨h.1, hblock⟩, h.2⟩

/-! ## Adding a block at the end -/

theorem complete_closed_iff {ending : Ending} :
    Complete (closed ending line) ↔ '\n' ∉ line.dropLast := by
  unfold closed
  split_ifs with h
  · simp [Complete, h]
  · have hline : '\n' ∉ line ↔ '\n' ∉ line.dropLast := by
      rcases List.eq_nil_or_concat' line with rfl | ⟨text, c, rfl⟩
      · simp
      · have hc : '\n' ≠ c := by
          rintro rfl
          exact h (terminated_append_newline text)
        simp [hc]
    rw [← hline]
    cases ending with
    | newline => exact complete_append_newline
    | returnNewline =>
      have hsplit : line ++ Ending.returnNewline.text = (line ++ ['\r']) ++ ['\n'] := by
        simp [Ending.text]
      rw [hsplit, complete_append_newline]
      simp

/-- Terminating the last line makes all lines complete if they are well cut, and only then. -/
theorem complete_terminateLast_iff {ending : Ending} :
    (∀ line ∈ terminateLast ending lines, Complete line) ↔ WellCut lines := by
  rcases List.eq_nil_or_concat' lines with rfl | ⟨init, last, rfl⟩
  · simp [WellCut]
  · rw [terminateLast_concat, List.forall_mem_append, List.forall_mem_singleton,
      complete_closed_iff, wellCut_append (List.cons_ne_nil _ _), wellCut_singleton]

theorem WellCut.of_appendBlock (hne : block ≠ []) (h : WellCut (lines.appendBlock block)) :
    WellCut lines := by
  rw [appendBlock_eq, wellCut_append (by simpa using hne), complete_terminateLast_iff] at h
  exact h.1

/-- Lines that are well cut with a block at their end have it from a block in complete lines. -/
theorem WellCut.complete_of_appendBlock (hne : block ≠ [])
    (ht : ∀ line ∈ block, terminated line = true) (h : WellCut (lines.appendBlock block)) :
    ∀ line ∈ block, Complete line := by
  rw [appendBlock_eq, wellCut_append (by simpa using hne)] at h
  intro line hline
  obtain ⟨text, rfl⟩ := exists_append_newline (ht line hline)
  have hwritten := h.2.2 _ (List.mem_map_of_mem hline)
  rw [complete_append_newline]
  rcases withEnding_eq _ (text ++ ['\n']) with heq | ⟨other, hother, heq⟩
  · rw [heq] at hwritten
    simpa using hwritten
  · obtain rfl := List.append_cancel_right hother
    rw [heq] at hwritten
    simpa using hwritten

theorem WellCut.appendBlock (h : WellCut lines) (hb : ∀ line ∈ block, Complete line) :
    WellCut (lines.appendBlock block) := by
  rw [appendBlock_eq]
  exact .of_complete (List.forall_mem_append.2
    ⟨complete_terminateLast_iff.2 h, complete_map_withEnding hb _⟩)

end OutletWiring.Lines

import OutletWiring.Proofs.Breaks

/-!
# A draft is a text cut into lines

A step appends a piece of text to what was laid out before it, wherever the line being written
stands, and so a run appends the pieces of its steps one after the other (`laidOut_runAll`). At the
end the last line is ended if it was begun. The lines that come out are those of the whole text
exactly if no step brings a newline of its own (`compose_eq_ofText_iff`).
-/

namespace OutletWiring

namespace Lines

/-- Complete lines are cut from their text one by one. -/
theorem ofText_flatten {lines : Lines} (h : ∀ line ∈ lines, Complete line) :
    ofText lines.flatten = lines := by
  induction lines with
  | nil => rfl
  | cons line lines ih =>
    rw [List.forall_mem_cons] at h
    obtain ⟨front, rfl⟩ := exists_append_newline h.1.1
    have hfront : '\n' ∉ front := complete_append_newline.1 h.1
    rw [List.flatten_cons, List.append_assoc, List.singleton_append, ofText_append_newline hfront,
      ih h.2]

end Lines

namespace Draft

open Lines (Complete ofText)

def laidOut (draft : Draft) : Text :=
  draft.finished.flatten ++ draft.pending

/-- The line of the entry at some place in a list: the first follows the opening and each other the
continuation, and a comma stands after each but the last. -/
def entryRow (level : Nat) (opening continuation closing : Text) (count index : Nat)
    (entry : Text) : Text :=
  row level ((if index = 0 then opening else continuation) ++ entry ++
    if index + 1 = count then closing else [','])

namespace Step

def text : Step → Text
  | push text => text
  | newline => ['\n']
  | indent level => List.replicate level '\t'
  | line level text => row level text
  | blank => ['\n']
  | list level opening entries continuation closing =>
    (entries.mapIdx (entryRow level opening continuation closing entries.length)).flatten

def arguments : Step → List Text
  | push text => [text]
  | newline => []
  | indent _ => []
  | line _ text => [text]
  | blank => []
  | list _ opening entries continuation closing => opening :: continuation :: closing :: entries

theorem lacks_of_arguments {step : Step} (h : ∀ text ∈ step.arguments, '\n' ∉ text) :
    step.Lacks .newline := by
  have hlacks : ∀ text ∈ step.arguments, Text.Lacks .newline text :=
    fun text ht => Text.lacks_newline_iff.2 (h text ht)
  cases step with
  | push text => exact hlacks text (by simp [arguments])
  | newline => trivial
  | indent level => trivial
  | line level text => exact hlacks text (by simp [arguments])
  | blank => trivial
  | list level opening entries continuation closing =>
    apply lacks_listed Punctuation.breaks_newline
    · exact hlacks opening (by simp [arguments])
    · exact hlacks continuation (by simp [arguments])
    · exact hlacks closing (by simp [arguments])
    · exact fun entry he => hlacks entry (by simp [arguments, he])

end Step

/-! ## What a run lays out -/

/-- After the first entry, an entry stands as it would in the list of those that are left. -/
theorem entryRow_succ (level : Nat) (opening continuation closing : Text) (count index : Nat) :
    entryRow level opening continuation closing (count + 1) (index + 1) =
      entryRow level continuation continuation closing count index := by
  funext entry
  simp [entryRow]

/-- The line of an entry is told from its place in the list. -/
theorem map_row_listed (level : Nat) (opening continuation closing : Text) (entries : List Text) :
    (listed opening continuation closing entries).map (row level) =
      entries.mapIdx (entryRow level opening continuation closing entries.length) := by
  induction entries generalizing opening with
  | nil => rfl
  | cons entry entries ih =>
    cases entries with
    | nil => simp [listed, entryRow]
    | cons next entries =>
      have hfirst : row level (opening ++ entry ++ [',']) =
          entryRow level opening continuation closing (entries.length + 1 + 1) 0 entry := by
        simp [entryRow]
      calc (listed opening continuation closing (entry :: next :: entries)).map (row level)
          = row level (opening ++ entry ++ [',']) ::
              (next :: entries).mapIdx
                (entryRow level continuation continuation closing (entries.length + 1)) := by
            rw [listed.eq_3 _ _ _ _ _ (by simp), List.map_cons, ih]
            rfl
        _ = entryRow level opening continuation closing (entries.length + 1 + 1) 0 entry ::
              (next :: entries).mapIdx fun index =>
                entryRow level opening continuation closing (entries.length + 1 + 1) (index + 1) := by
            rw [hfirst]
            simp only [entryRow_succ]
        _ = _ := List.mapIdx_cons.symm

theorem laidOut_push (draft : Draft) (text : Text) :
    (draft.push text).laidOut = draft.laidOut ++ text := by
  simp [laidOut, push]

theorem laidOut_newline (draft : Draft) : draft.newline.laidOut = draft.laidOut ++ ['\n'] := by
  simp [laidOut, newline]

theorem laidOut_line (draft : Draft) (level : Nat) (text : Text) :
    (draft.line level text).laidOut = draft.laidOut ++ row level text := by
  rw [line, laidOut_newline, laidOut_push, indent, laidOut_push]
  simp [row]

theorem laidOut_lines (draft : Draft) (level : Nat) (texts : List Text) :
    (draft.lines level texts).laidOut = draft.laidOut ++ (texts.map (row level)).flatten := by
  induction texts generalizing draft with
  | nil => simp [lines]
  | cons text texts ih =>
    have hstep : draft.lines level (text :: texts) = (draft.line level text).lines level texts := rfl
    rw [hstep, ih, laidOut_line, List.map_cons, List.flatten_cons, List.append_assoc]

/-- A step appends its text, whatever was laid out before. -/
theorem laidOut_run (draft : Draft) (step : Step) :
    (draft.run step).laidOut = draft.laidOut ++ step.text := by
  cases step with
  | push text => exact laidOut_push draft text
  | newline => exact laidOut_newline draft
  | indent level => exact laidOut_push draft _
  | line level text => exact laidOut_line draft level text
  | blank => exact laidOut_newline draft
  | list level opening entries continuation closing =>
    rw [run, laidOut_lines, map_row_listed, Step.text]

theorem laidOut_runAll (draft : Draft) (steps : List Step) :
    (draft.runAll steps).laidOut = draft.laidOut ++ steps.flatMap Step.text := by
  induction steps generalizing draft with
  | nil => simp [runAll]
  | cons step steps ih =>
    have hstep : draft.runAll (step :: steps) = (draft.run step).runAll steps := rfl
    rw [hstep, ih, laidOut_run, List.flatMap_cons, List.append_assoc]

/-! ## The lines that come out -/

def ended (text : Text) : Text :=
  if text = [] ∨ text.getLast? = some '\n' then text else text ++ ['\n']

theorem finished_subset_finish (draft : Draft) : draft.finished ⊆ draft.finish := by
  unfold finish newline
  split_ifs
  · exact List.Subset.refl _
  · exact List.subset_append_left _ _

/-- Finishing adds a newline to what is laid out exactly if its last line is not ended yet. -/
theorem flatten_finish {draft : Draft} (hf : ∀ line ∈ draft.finished, Lines.terminated line = true)
    (hp : '\n' ∉ draft.pending) : draft.finish.flatten = ended draft.laidOut := by
  unfold finish ended
  by_cases hnil : draft.pending = []
  · have hend : draft.laidOut = [] ∨ draft.laidOut.getLast? = some '\n' := by
      rcases List.eq_nil_or_concat' draft.finished with hempty | ⟨lines, last, hlast⟩
      · left
        simp [laidOut, hempty, hnil]
      · right
        obtain ⟨text, rfl⟩ := Lines.exists_append_newline (hf last (by simp [hlast]))
        simp [laidOut, hlast, hnil]
    rw [if_pos hend]
    simp [laidOut, hnil]
  · have hlast : draft.laidOut.getLast? = draft.pending.getLast? :=
      List.getLast?_append_of_ne_nil _ hnil
    have hopen : ¬(draft.laidOut = [] ∨ draft.laidOut.getLast? = some '\n') := by
      rintro (hempty | hend)
      · exact hnil (List.append_eq_nil_iff.1 hempty).2
      · rw [hlast] at hend
        exact hp (List.mem_of_getLast? hend)
    rw [if_neg hopen]
    simp [laidOut, newline, hnil]

/-- The lines of a block are those of the text that its steps append, exactly if no text of the
steps holds a newline. -/
theorem compose_eq_ofText_iff {steps : List Step} :
    compose steps = ofText (ended (steps.flatMap Step.text)) ↔
      ∀ step ∈ steps, step.Lacks .newline := by
  have hterminated : ∀ line ∈ compose steps, Lines.terminated line = true :=
    Lines.terminated_compose steps
  rw [← complete_compose_iff]
  constructor
  · intro h line hline
    refine ⟨hterminated line hline, ?_⟩
    rw [h] at hline
    exact (Lines.single_of_mem_ofText hline).2
  · intro h
    have hpending : '\n' ∉ (runAll {} steps).pending := by
      have hlacks := (@lacks_runAll .newline {} Punctuation.breaks_newline steps).2
        ⟨⟨by simp, Text.lacks_nil⟩, complete_compose_iff.1 h⟩
      exact hlacks.2.intact
    have hfinished : ∀ line ∈ (runAll {} steps).finished, Lines.terminated line = true :=
      fun line hline => hterminated line (finished_subset_finish _ hline)
    have htext : (compose steps).flatten = ended (steps.flatMap Step.text) := by
      rw [compose, flatten_finish hfinished hpending, laidOut_runAll]
      rfl
    rw [← htext, Lines.ofText_flatten h]

/-- Whatever the order of the steps, if their texts hold no newline the lines are exactly those of
the text that the steps append, with its last line ended; so each line ends in a newline and holds
no other. -/
theorem compose_cuts_text {steps : List Step}
    (h : ∀ step ∈ steps, ∀ text ∈ step.arguments, '\n' ∉ text) :
    compose steps = ofText (ended (steps.flatMap Step.text)) ∧
      ∀ line ∈ compose steps, ∃ text, line = text ++ ['\n'] ∧ '\n' ∉ text := by
  have hlacks : ∀ step ∈ steps, step.Lacks .newline :=
    fun step hstep => Step.lacks_of_arguments (h step hstep)
  refine ⟨compose_eq_ofText_iff.2 hlacks, ?_⟩
  intro line hline
  have hcomplete : Complete line := complete_compose_iff.2 hlacks line hline
  obtain ⟨text, rfl⟩ := Lines.exists_append_newline hcomplete.1
  exact ⟨text, rfl, Lines.complete_append_newline.1 hcomplete⟩

/-- A list is begun in the middle of a line, and text is left over at the end. -/
def unevenSteps : List Step :=
  [.indent 1, .push "let all = ", .list 0 "[" ["a", "b", "c"] " " "]", .blank,
    .list 2 "(" [] " " ")", .line 1 "return all", .push "// end"]

theorem compose_cuts_text_unevenSteps :
    (∀ step ∈ unevenSteps, ∀ text ∈ step.arguments, '\n' ∉ text) ∧
      unevenSteps.flatMap Step.text = "\tlet all = [a,\n b,\n c]\n\n\treturn all\n// end".toList ∧
      compose unevenSteps =
        ["\tlet all = [a,\n".toList, " b,\n".toList, " c]\n".toList, "\n".toList,
          "\treturn all\n".toList, "// end\n".toList] := by
  have harguments : ∀ step ∈ unevenSteps, ∀ text ∈ step.arguments, '\n' ∉ text := by decide
  refine ⟨harguments, by decide, ?_⟩
  rw [(compose_cuts_text harguments).1]
  decide

end Draft

end OutletWiring

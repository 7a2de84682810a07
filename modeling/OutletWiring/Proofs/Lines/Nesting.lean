import OutletWiring.Proofs.Lines.Insertion
import OutletWiring.Proofs.Text.Nesting

/-!
# The nesting of a file

Line terminators hold no delimiter, so neither the terminators of a block nor that of the last line
matter to the nesting of a file. A block that is balanced can be put in or added at any line of any
file, balanced or not, and leaves its nesting as it was.
-/

namespace OutletWiring

open Text (Balanced nesting)

namespace Lines

def delimiters (lines : Lines) : Text :=
  lines.flatMap Text.delimiters

@[simp] theorem delimiters_nil : delimiters [] = [] := rfl

@[simp] theorem delimiters_cons (line : Text) (lines : Lines) :
    delimiters (line :: lines) = Text.delimiters line ++ lines.delimiters := rfl

@[simp] theorem delimiters_append (front back : Lines) :
    delimiters (front ++ back) = front.delimiters ++ back.delimiters :=
  List.flatMap_append

theorem delimiters_flatten (lines : Lines) : Text.delimiters lines.flatten = lines.delimiters := by
  induction lines with
  | nil => rfl
  | cons line lines ih => simp [ih]

theorem delimiters_append_ending (line : Text) (ending : Ending) :
    Text.delimiters (line ++ ending.text) = Text.delimiters line := by
  have hending : Text.delimiters ending.text = [] := by cases ending <;> rfl
  rw [Text.delimiters_append, hending, List.append_nil]

theorem delimiters_withEnding (ending : Ending) (line : Text) :
    Text.delimiters (withEnding ending line) = Text.delimiters line := by
  rcases withEnding_eq ending line with h | ⟨text, rfl, h⟩
  · rw [h]
  · rw [h]
    exact (delimiters_append_ending text .returnNewline).trans
      (delimiters_append_ending text .newline).symm

theorem delimiters_map_withEnding (ending : Ending) (block : Lines) :
    delimiters (block.map (withEnding ending)) = block.delimiters := by
  induction block with
  | nil => rfl
  | cons line block ih => simp [ih, delimiters_withEnding]

theorem delimiters_closed (ending : Ending) (line : Text) :
    Text.delimiters (closed ending line) = Text.delimiters line := by
  unfold closed
  split_ifs
  · rfl
  · exact delimiters_append_ending line ending

theorem delimiters_terminateLast (ending : Ending) (lines : Lines) :
    (terminateLast ending lines).delimiters = lines.delimiters := by
  induction lines using List.reverseRecOn with
  | nil => rfl
  | append_singleton lines line => simp [terminateLast_concat, delimiters_closed]

theorem delimiters_toText (lines : Lines) : Text.delimiters lines.toText = lines.delimiters := by
  fun_induction toText lines with
  | case1 => rfl
  | case2 line => simp
  | case3 line lines _ ih =>
    have hline : Text.delimiters (if terminated line then line else line ++ ['\n']) =
        Text.delimiters line := delimiters_closed .newline line
    rw [Text.delimiters_append, hline, ih, delimiters_cons]

theorem nesting_toText (awaited : List Char) (lines : Lines) :
    nesting awaited lines.toText = nesting awaited lines.delimiters := by
  rw [← Text.nesting_delimiters, delimiters_toText]

section Balanced

variable {block : Lines} (h : Balanced block.flatten) (awaited : List Char) (lines : Lines)
include h

theorem nesting_insertBlock (index : Nat) :
    nesting awaited (lines.insertBlock index block).toText = nesting awaited lines.toText := by
  have hblock : Balanced block.delimiters := by
    rwa [← delimiters_flatten, Text.balanced_delimiters_iff]
  rw [nesting_toText, nesting_toText, insertBlock, delimiters_append, delimiters_append,
    delimiters_map_withEnding, hblock.nesting_between, ← delimiters_append, List.take_append_drop]

theorem nesting_appendBlock :
    nesting awaited (lines.appendBlock block).toText = nesting awaited lines.toText := by
  simp only [appendBlock, appendBlockM, run_insertBlockM]
  rw [nesting_insertBlock h, nesting_toText, nesting_toText, delimiters_terminateLast]

end Balanced

end Lines

/-! ## Drafts -/

namespace Draft

@[simp] def Step.delimiters : Step → Text
  | .push text => Text.delimiters text
  | .newline => []
  | .indent _ => []
  | .line _ text => Text.delimiters text
  | .blank => []
  | .list _ opening entries continuation closing =>
    Lines.delimiters (listed opening continuation closing entries)

def delimiters (draft : Draft) : Text :=
  draft.finished.delimiters ++ Text.delimiters draft.pending

theorem delimiters_newline (draft : Draft) : draft.newline.delimiters = draft.delimiters := by
  have hnewline : Text.delimiters ['\n'] = [] := rfl
  simp [delimiters, newline, hnewline]

theorem delimiters_push (draft : Draft) (text : Text) :
    (draft.push text).delimiters = draft.delimiters ++ Text.delimiters text := by
  simp [delimiters, push]

theorem delimiters_tabs (level : Nat) : Text.delimiters (List.replicate level '\t') = [] := by
  induction level with
  | zero => rfl
  | succ level ih =>
    rw [List.replicate_succ, Text.delimiters_cons, ih]
    rfl

theorem delimiters_line (draft : Draft) (level : Nat) (text : Text) :
    (draft.line level text).delimiters = draft.delimiters ++ Text.delimiters text := by
  rw [line, delimiters_newline, delimiters_push, indent, delimiters_push, delimiters_tabs,
    List.append_nil]

theorem delimiters_lines (draft : Draft) (level : Nat) (texts : List Text) :
    (draft.lines level texts).delimiters = draft.delimiters ++ Lines.delimiters texts := by
  induction texts generalizing draft with
  | nil => simp [lines]
  | cons text texts ih =>
    rw [lines, List.foldl_cons]
    exact (ih _).trans (by simp [delimiters_line])

theorem delimiters_run (draft : Draft) (step : Step) :
    (draft.run step).delimiters = draft.delimiters ++ step.delimiters := by
  cases step with
  | push text => exact delimiters_push draft text
  | newline => simp [run, Step.delimiters, delimiters_newline]
  | indent level => simp [run, Step.delimiters, indent, delimiters_push, delimiters_tabs]
  | line level text => exact delimiters_line draft level text
  | blank => simp [run, Step.delimiters, delimiters_newline]
  | list level opening entries continuation closing => exact delimiters_lines draft level _

theorem delimiters_runAll (draft : Draft) (steps : List Step) :
    (draft.runAll steps).delimiters = draft.delimiters ++ steps.flatMap Step.delimiters := by
  induction steps generalizing draft with
  | nil => simp [runAll]
  | cons step steps ih =>
    rw [runAll, List.foldl_cons]
    exact (ih _).trans (by simp [delimiters_run])

theorem delimiters_finish (draft : Draft) : draft.finish.delimiters = draft.delimiters := by
  unfold finish
  split_ifs with h
  · simp [delimiters, List.isEmpty_iff.1 h]
  · rw [← delimiters_newline draft]
    simp [delimiters, newline]

/-- A composed block has the delimiters of its steps. -/
theorem delimiters_compose (steps : List Step) :
    (compose steps).delimiters = steps.flatMap Step.delimiters := by
  rw [compose, delimiters_finish, delimiters_runAll]
  rfl

end Draft

end OutletWiring

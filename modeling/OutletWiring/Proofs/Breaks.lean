import OutletWiring.Draft
import OutletWiring.Proofs.Lines.WellCut
import OutletWiring.Proofs.Punctuation

/-!
# Line breaks in what is laid out

A draft adds tabs and newlines to the texts that it is given. So the lines of a block hold no line
break before their ends exactly if no text of its steps holds one (`Draft.lacks_compose_iff`). This
holds for newlines alone, and for newlines and returns together.
-/

namespace OutletWiring

open Lines (Complete)

namespace Punctuation

def newline : Punctuation :=
  ⟨(· == '\n'), fun h => by rw [eq_of_beq h]; decide⟩

def lineBreak : Punctuation where
  holds c := c == '\n' || c == '\r'
  isSign h := by
    rcases Bool.or_eq_true_iff.1 h with h | h
    · rw [eq_of_beq h]
      decide
    · rw [eq_of_beq h]
      decide

def Breaks (marks : Punctuation) : Prop :=
  ∀ c, marks.holds c = true → lineBreak.holds c = true

theorem breaks_newline : newline.Breaks :=
  fun _ h => Bool.or_eq_true_iff.2 (.inl h)

theorem breaks_lineBreak : lineBreak.Breaks :=
  fun _ h => h

end Punctuation

namespace Text

variable {marks : Punctuation} {text other : Text}

theorem lacks_nil : Lacks marks [] :=
  fun _ hc => by cases hc

theorem lacks_append_iff : Lacks marks (text ++ other) ↔ Lacks marks text ∧ Lacks marks other :=
  List.forall_mem_append

theorem lacks_newline_iff : Lacks .newline text ↔ '\n' ∉ text :=
  lacks_iff_not_mem fun _ => rfl

theorem Lacks.intact (h : Lacks .newline text) : '\n' ∉ text :=
  lacks_newline_iff.1 h

theorem lacks_lineBreak_iff : Lacks .lineBreak text ↔ Lines.Unbroken text := by
  constructor
  · intro h
    exact ⟨h.not_mem rfl, h.not_mem rfl⟩
  · intro h c hc
    have hn : c ≠ '\n' := fun heq => h.1 (heq ▸ hc)
    have hr : c ≠ '\r' := fun heq => h.2 (heq ▸ hc)
    simp [Punctuation.lineBreak, hn, hr]

end Text

namespace Punctuation.Breaks

variable {marks : Punctuation} (hm : marks.Breaks)
include hm

theorem lacks {text : Text} (h : Text.Lacks .lineBreak text) : Text.Lacks marks text := by
  intro c hc
  rw [Bool.eq_false_iff]
  exact fun hholds => h.not_mem (hm c hholds) hc

/-- A literal is looked through as the list of its characters. -/
theorem literal {chars : List Char} (h : (chars.all fun c => !lineBreak.holds c) = true) :
    Text.Lacks marks (String.ofList chars).toList := by
  rw [String.toList_ofList]
  refine hm.lacks fun c hc => ?_
  simpa using List.all_eq_true.1 h c hc

theorem replicate {c : Char} (hc : lineBreak.holds c = false) (count : Nat) :
    Text.Lacks marks (List.replicate count c) := by
  refine hm.lacks fun x hx => ?_
  rw [List.eq_of_mem_replicate hx]
  exact hc

end Punctuation.Breaks

namespace Draft

variable {marks : Punctuation}

def Step.Lacks (marks : Punctuation) : Step → Prop
  | .push text => Text.Lacks marks text
  | .newline => True
  | .indent _ => True
  | .line _ text => Text.Lacks marks text
  | .blank => True
  | .list _ opening entries continuation closing =>
    ∀ text ∈ listed opening continuation closing entries, Text.Lacks marks text

/-- None of the marks stands in the draft but at the ends of the finished lines. -/
def Lacks (marks : Punctuation) (draft : Draft) : Prop :=
  (∀ line ∈ draft.finished, Text.Lacks marks line.dropLast) ∧ Text.Lacks marks draft.pending

variable {draft : Draft}

theorem lacks_push {text : Text} :
    (draft.push text).Lacks marks ↔ draft.Lacks marks ∧ Text.Lacks marks text := by
  simp only [Lacks, push, Text.lacks_append_iff, and_assoc]

theorem lacks_newline : draft.newline.Lacks marks ↔ draft.Lacks marks := by
  simp [Lacks, newline, or_imp, forall_and, Text.lacks_nil]

section Breaks

variable (hm : marks.Breaks)
include hm

theorem lacks_indent {level : Nat} : (draft.indent level).Lacks marks ↔ draft.Lacks marks := by
  rw [indent, lacks_push, and_iff_left (hm.replicate rfl level)]

theorem lacks_line {level : Nat} {text : Text} :
    (draft.line level text).Lacks marks ↔ draft.Lacks marks ∧ Text.Lacks marks text := by
  rw [line, lacks_newline, lacks_push, lacks_indent hm]

theorem lacks_lines {level : Nat} {texts : List Text} :
    (draft.lines level texts).Lacks marks ↔
      draft.Lacks marks ∧ ∀ text ∈ texts, Text.Lacks marks text := by
  induction texts generalizing draft with
  | nil => simp [lines]
  | cons text texts ih =>
    rw [List.forall_mem_cons, ← and_assoc, ← @lacks_line marks draft hm level]
    exact ih

theorem lacks_run {step : Step} :
    (draft.run step).Lacks marks ↔ draft.Lacks marks ∧ step.Lacks marks := by
  cases step with
  | push text => exact lacks_push
  | newline => exact lacks_newline.trans (and_iff_left trivial).symm
  | indent level => exact (lacks_indent hm).trans (and_iff_left trivial).symm
  | line level text => exact lacks_line hm
  | blank => exact lacks_newline.trans (and_iff_left trivial).symm
  | list level opening entries continuation closing => exact lacks_lines hm

theorem lacks_runAll {steps : List Step} :
    (draft.runAll steps).Lacks marks ↔ draft.Lacks marks ∧ ∀ step ∈ steps, step.Lacks marks := by
  induction steps generalizing draft with
  | nil => simp [runAll]
  | cons step steps ih =>
    rw [List.forall_mem_cons, ← and_assoc, ← lacks_run hm]
    exact ih

omit hm in
theorem lacks_finish :
    (∀ line ∈ draft.finish, Text.Lacks marks line.dropLast) ↔ draft.Lacks marks := by
  unfold finish
  split_ifs with h
  · simp [Lacks, List.isEmpty_iff.1 h, Text.lacks_nil]
  · rw [← lacks_newline]
    simp [Lacks, newline, Text.lacks_nil]

/-- The lines of a block hold no mark before their ends exactly if no text of its steps does. -/
theorem lacks_compose_iff {steps : List Step} :
    (∀ line ∈ compose steps, Text.Lacks marks line.dropLast) ↔
      ∀ step ∈ steps, step.Lacks marks := by
  have hempty : Lacks marks {} := ⟨by simp, Text.lacks_nil⟩
  rw [compose, lacks_finish, lacks_runAll hm, and_iff_right hempty]

end Breaks

/-- A block comes in complete lines exactly if no text of its steps holds a newline. -/
theorem complete_compose_iff {steps : List Step} :
    (∀ line ∈ compose steps, Complete line) ↔ ∀ step ∈ steps, step.Lacks .newline := by
  rw [← lacks_compose_iff Punctuation.breaks_newline]
  constructor
  · exact fun h line hline => Text.lacks_newline_iff.2 (h line hline).2
  · exact fun h line hline => ⟨Lines.terminated_compose steps line hline, (h line hline).intact⟩

theorem lacks_listed (hm : marks.Breaks) {opening continuation closing : Text}
    {entries : List Text} (ho : Text.Lacks marks opening) (hc : Text.Lacks marks continuation)
    (hclosing : Text.Lacks marks closing) (he : ∀ entry ∈ entries, Text.Lacks marks entry) :
    ∀ text ∈ listed opening continuation closing entries, Text.Lacks marks text := by
  induction entries generalizing opening with
  | nil => simp [listed]
  | cons entry entries ih =>
    rw [List.forall_mem_cons] at he
    cases entries with
    | nil =>
      rw [listed, List.forall_mem_singleton]
      exact (ho.append he.1).append hclosing
    | cons next entries =>
      rw [listed.eq_3 _ _ _ _ _ (by simp), List.forall_mem_cons]
      exact ⟨(ho.append he.1).append (hm.literal rfl), ih hc he.2⟩

end Draft

end OutletWiring

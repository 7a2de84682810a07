import OutletWiring.Lines.Basic
import OutletWiring.Proofs.Text.Occurrence

/-!
# Line terminators

What turning a plain newline into the terminator of the file does to a line, and what terminating
the last line does to a file. Neither touches anything in front of the terminator, so a text that
holds no part of a terminator stands in the line after as it did before.
-/

namespace OutletWiring.Lines

/-- The text holds no part of a line terminator. -/
def Unbroken (text : Text) : Prop :=
  '\n' ∉ text ∧ '\r' ∉ text

instance (text : Text) : Decidable (Unbroken text) :=
  inferInstanceAs (Decidable (_ ∧ _))

theorem terminated_append_newline (text : Text) : terminated (text ++ ['\n']) = true := by
  simp [terminated]

theorem exists_append_newline {line : Text} (h : terminated line = true) :
    ∃ text, line = text ++ ['\n'] := by
  have hl : line.getLast? = some '\n' := by simpa [terminated] using h
  obtain ⟨text, rfl⟩ := List.getLast?_eq_some_iff.1 hl
  exact ⟨text, rfl⟩

theorem terminated_append_ending (line : Text) (ending : Ending) :
    terminated (line ++ ending.text) = true := by
  cases ending <;> simp [terminated, Ending.text]

/-- The line holds a newline at its end only. -/
def Single (line : Text) : Prop :=
  line ≠ [] ∧ '\n' ∉ line.dropLast

instance (line : Text) : Decidable (Single line) :=
  inferInstanceAs (Decidable (_ ∧ _))

theorem single_append_newline {text : Text} (h : '\n' ∉ text) : Single (text ++ ['\n']) :=
  ⟨by simp, by simpa using h⟩

theorem single_of_not_mem {text : Text} (hne : text ≠ []) (h : '\n' ∉ text) : Single text :=
  ⟨hne, fun hm => h (List.dropLast_subset _ hm)⟩

theorem single_append_ending {text : Text} (h : '\n' ∉ text) (ending : Ending) :
    Single (text ++ ending.text) := by
  cases ending with
  | newline => exact single_append_newline h
  | returnNewline =>
    have : text ++ Ending.returnNewline.text = (text ++ ['\r']) ++ ['\n'] := by
      simp [Ending.text]
    exact this ▸ single_append_newline (by simp [h])

@[simp] theorem withEnding_newline (line : Text) : withEnding .newline line = line := rfl

theorem withEnding_append_newline (text : Text) (ending : Ending) (h : text.getLast? ≠ some '\r') :
    withEnding ending (text ++ ['\n']) = text ++ ending.text := by
  cases ending with
  | newline => rfl
  | returnNewline =>
    have hs : Ending.returnNewline.text.isSuffixOf (text ++ ['\n']) = false := by
      rw [Bool.eq_false_iff, Ne, List.isSuffixOf_iff_suffix]
      intro hs
      obtain ⟨front, hf⟩ := hs
      have hf' : (front ++ ['\r']) ++ ['\n'] = text ++ ['\n'] := by simpa [Ending.text] using hf
      rw [List.append_cancel_right_eq] at hf'
      exact h (by simp [← hf'])
    simp only [withEnding, terminated_append_newline, hs, Bool.not_false, Bool.and_self, if_true,
      List.dropLast_concat]

/-- A line after `withEnding` is the line itself, or differs from it in a return before the
newline. -/
theorem withEnding_eq (ending : Ending) (line : Text) :
    withEnding ending line = line ∨
      ∃ text, line = text ++ ['\n'] ∧ withEnding ending line = text ++ ['\r', '\n'] := by
  cases ending with
  | newline => exact .inl rfl
  | returnNewline =>
    simp only [withEnding]
    split_ifs with h
    · simp only [Bool.and_eq_true] at h
      obtain ⟨text, rfl⟩ := exists_append_newline h.1
      exact .inr ⟨text, rfl, by simp [Ending.text]⟩
    · exact .inl rfl

@[simp] theorem terminated_withEnding (ending : Ending) (line : Text) :
    terminated (withEnding ending line) = terminated line := by
  rcases withEnding_eq ending line with h | ⟨text, rfl, h⟩
  · rw [h]
  · rw [h, terminated_append_newline]
    simp [terminated]

def IgnoresEnding (p : Text → Bool) : Prop :=
  ∀ (line : Text) (ending : Ending), p (line ++ ending.text) = p line

theorem IgnoresEnding.and {p q : Text → Bool} (hp : IgnoresEnding p) (hq : IgnoresEnding q) :
    IgnoresEnding fun line => p line && q line := fun line ending => by
  simp only [hp line ending, hq line ending]

theorem IgnoresEnding.on_withEnding {p : Text → Bool} (h : IgnoresEnding p) (ending : Ending)
    (line : Text) : p (withEnding ending line) = p line := by
  rcases withEnding_eq ending line with he | ⟨text, rfl, he⟩
  · rw [he]
  · rw [he]
    exact (h text .returnNewline).trans (h text .newline).symm

theorem ignoresEnding_occursIn {needle : Text} (h : Unbroken needle) (hn : needle ≠ []) :
    IgnoresEnding (Text.occursIn needle) := by
  intro line ending
  cases ending with
  | newline => exact Text.occursIn_append_singleton h.1 hn
  | returnNewline =>
    have : line ++ Ending.returnNewline.text = (line ++ ['\r']) ++ ['\n'] := by simp [Ending.text]
    rw [this, Text.occursIn_append_singleton h.1 hn, Text.occursIn_append_singleton h.2 hn]

/-! ## The last line -/

/-- The line, ended by `ending` if it has no newline. -/
def closed (ending : Ending) (line : Text) : Text :=
  if terminated line then line else line ++ ending.text

theorem closed_of_terminated {ending : Ending} {line : Text} (h : terminated line = true) :
    closed ending line = line := by
  simp [closed, h]

theorem closed_of_not_terminated {ending : Ending} {line : Text} (h : terminated line = false) :
    closed ending line = line ++ ending.text := by
  simp [closed, h]

theorem terminated_closed (ending : Ending) (line : Text) :
    terminated (closed ending line) = true := by
  unfold closed
  split_ifs with h
  · exact h
  · exact terminated_append_ending line ending

theorem IgnoresEnding.on_closed {p : Text → Bool} (h : IgnoresEnding p) (ending : Ending)
    (line : Text) : p (closed ending line) = p line := by
  unfold closed
  split_ifs
  · rfl
  · exact h line ending

@[simp] theorem terminateLast_nil (ending : Ending) : terminateLast ending [] = [] := rfl

theorem terminateLast_concat (ending : Ending) (lines : Lines) (line : Text) :
    terminateLast ending (lines ++ [line]) = lines ++ [closed ending line] := by
  induction lines with
  | nil => by_cases h : terminated line <;> simp [terminateLast, closed, h]
  | cons first rest ih =>
    obtain ⟨second, more, hm⟩ := List.exists_cons_of_ne_nil
      (show rest ++ [line] ≠ [] by simp)
    rw [List.cons_append, hm, terminateLast, ← hm, ih, List.cons_append]
    simp

theorem terminateLast_append (ending : Ending) (front : Lines) {back : Lines} (h : back ≠ []) :
    terminateLast ending (front ++ back) = front ++ terminateLast ending back := by
  obtain ⟨init, last, rfl⟩ := (List.eq_nil_or_concat' back).resolve_left h
  rw [← List.append_assoc, terminateLast_concat, terminateLast_concat, List.append_assoc]

@[simp] theorem length_terminateLast (ending : Ending) (lines : Lines) :
    (terminateLast ending lines).length = lines.length := by
  induction lines using List.reverseRecOn with
  | nil => rfl
  | append_singleton lines line => simp [terminateLast_concat]

theorem terminateLast_eq_self {ending : Ending} {lines : Lines}
    (h : ∀ line, lines.getLast? = some line → terminated line = true) :
    terminateLast ending lines = lines := by
  induction lines using List.reverseRecOn with
  | nil => rfl
  | append_singleton lines line =>
    rw [terminateLast_concat, closed_of_terminated (h line (by simp))]

theorem terminateLast_terminateLast (ending ending' : Ending) (lines : Lines) :
    terminateLast ending' (terminateLast ending lines) = terminateLast ending lines := by
  induction lines using List.reverseRecOn with
  | nil => rfl
  | append_singleton lines line =>
    rw [terminateLast_concat, terminateLast_concat, closed_of_terminated (terminated_closed ..)]

theorem ne_nil_of_mem_terminateLast {ending : Ending} {lines : Lines}
    (h : ∀ line ∈ lines, line ≠ []) : ∀ line ∈ terminateLast ending lines, line ≠ [] := by
  induction lines using List.reverseRecOn with
  | nil => exact h
  | append_singleton lines last =>
    rw [List.forall_mem_append] at h
    rw [terminateLast_concat, List.forall_mem_append, List.forall_mem_singleton]
    refine ⟨h.1, fun hnil => ?_⟩
    have := terminated_closed ending last
    simp [hnil, terminated] at this

theorem appendBlock_eq (lines block : Lines) :
    lines.appendBlock block =
      terminateLast lines.ending lines ++
        block.map (withEnding (terminateLast lines.ending lines).ending) := by
  simp only [appendBlock, appendBlockM, run_insertBlockM, insertBlock, List.take_length,
    List.drop_length, List.append_nil]

end OutletWiring.Lines

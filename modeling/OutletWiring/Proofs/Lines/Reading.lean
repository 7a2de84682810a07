import OutletWiring.Lines.Edit
import OutletWiring.Proofs.Line.Kind

/-!
# Lines read back from their text

A file that was written is read again by the next run. A text is cut after each newline
(`ofText_append_newline`), so lines that hold a newline only at their end come back as they are; a
line that lacks its terminator gets one, and one that holds a newline within comes back as two.
-/

namespace OutletWiring.Lines

/-- A text is one last line, or a line and a text after it. -/
theorem text_induction {motive : Text → Prop} (last : ∀ text, '\n' ∉ text → motive text)
    (line : ∀ front rest, '\n' ∉ front → motive rest → motive (front ++ '\n' :: rest)) (text : Text) :
    motive text := by
  induction hn : text.length using Nat.strong_induction_on generalizing text with
  | _ n ih =>
    by_cases h : '\n' ∈ text
    · obtain ⟨front, rest, rfl, hfront⟩ := List.eq_append_cons_of_mem h
      exact line front rest hfront (ih rest.length (by simp [← hn]; omega) rest rfl)
    · exact last text h

theorem ofText_append_newline {front : Text} (h : '\n' ∉ front) (rest : Text) :
    ofText (front ++ '\n' :: rest) = (front ++ ['\n']) :: ofText rest := by
  induction front with
  | nil => simp [ofText]
  | cons c front ih =>
    have hc : c ≠ '\n' := fun e => h (by simp [e])
    have hfront : '\n' ∉ front := fun hm => h (by simp [hm])
    simp [ofText, hc, ih hfront]

theorem ofText_of_not_mem {text : Text} (h : '\n' ∉ text) (hne : text ≠ []) :
    ofText text = [text] := by
  induction text with
  | nil => exact absurd rfl hne
  | cons c text ih =>
    have hc : c ≠ '\n' := fun e => h (by simp [e])
    have htext : '\n' ∉ text := fun hm => h (by simp [hm])
    cases text with
    | nil => simp [ofText, hc]
    | cons d text => rw [ofText, if_neg hc, ih htext (by simp)]

theorem ofText_of_single {line : Text} (h : Single line) : ofText line = [line] := by
  obtain ⟨front, c, rfl⟩ := (List.eq_nil_or_concat' line).resolve_left h.1
  have hfront : '\n' ∉ front := by simpa using h.2
  by_cases hc : c = '\n'
  · subst hc
    simpa [ofText] using ofText_append_newline hfront []
  · exact ofText_of_not_mem (by simp [hfront, Ne.symm hc]) (by simp)

theorem single_of_mem_ofText {text line : Text} (h : line ∈ ofText text) : Single line := by
  induction text using text_induction with
  | last text ht =>
    by_cases hne : text = []
    · subst hne
      cases h
    · rw [ofText_of_not_mem ht hne, List.mem_singleton] at h
      exact h ▸ single_of_not_mem hne ht
  | line front rest hfront ih =>
    rw [ofText_append_newline hfront, List.mem_cons] at h
    rcases h with rfl | h
    · exact single_append_newline hfront
    · exact ih h

theorem flatten_ofText (text : Text) : (ofText text).flatten = text := by
  induction text using text_induction with
  | last text ht =>
    by_cases hne : text = []
    · subst hne
      rfl
    · simp [ofText_of_not_mem ht hne]
  | line front rest hfront ih => simp [ofText_append_newline hfront, ih]

theorem ofText_ne_nil {text : Text} (h : text ≠ []) : ofText text ≠ [] := by
  intro hnil
  have := flatten_ofText text
  rw [hnil] at this
  exact h this.symm

theorem mem_of_mem_ofText {text line : Text} {c : Char} (h : line ∈ ofText text) (hc : c ∈ line) :
    c ∈ text := by
  rw [← flatten_ofText text]
  exact List.mem_flatten.2 ⟨line, h, hc⟩

/-- A terminated text is cut off before what follows it. -/
theorem ofText_append {text : Text} (h : terminated text = true) (rest : Text) :
    ofText (text ++ rest) = ofText text ++ ofText rest := by
  induction text using text_induction with
  | last text ht =>
    obtain ⟨front, rfl⟩ := exists_append_newline h
    exact absurd (by simp) ht
  | line front back hfront ih =>
    by_cases hb : back = []
    · subst hb
      simp [ofText_append_newline hfront, ofText]
    · have hback : terminated back = true := by
        rw [terminated, List.getLast?_append_of_ne_nil _ (by simp)] at h
        rwa [← List.singleton_append, List.getLast?_append_of_ne_nil _ hb] at h
      rw [List.append_assoc, List.cons_append, ofText_append_newline hfront,
        ofText_append_newline hfront, ih hback, List.cons_append]

/-- Terminating a text terminates its last line. -/
theorem ofText_closed (ending : Ending) {text : Text} (hne : text ≠ []) :
    ofText (closed ending text) = terminateLast ending (ofText text) := by
  induction text using text_induction with
  | last text ht =>
    have hterminated : terminated text = false := by
      rw [Bool.eq_false_iff]
      intro h
      obtain ⟨front, rfl⟩ := exists_append_newline h
      exact ht (by simp)
    rw [closed_of_not_terminated hterminated, ofText_of_single (single_append_ending ht ending),
      ofText_of_not_mem ht hne,
      ← List.nil_append [text], terminateLast_concat, closed_of_not_terminated hterminated]
    rfl
  | line front rest hfront ih =>
    by_cases hr : rest = []
    · subst hr
      have hterminated := terminated_append_newline front
      rw [closed_of_terminated hterminated, ofText_append_newline hfront, ofText,
        ← List.nil_append [front ++ ['\n']], terminateLast_concat, closed_of_terminated hterminated]
    · have hclosed : closed ending (front ++ '\n' :: rest) = front ++ '\n' :: closed ending rest := by
        have hsame : terminated (front ++ '\n' :: rest) = terminated rest := by
          rw [terminated, List.getLast?_append_of_ne_nil _ (by simp), ← List.singleton_append,
            List.getLast?_append_of_ne_nil _ hr, terminated]
        unfold closed
        rw [hsame]
        split_ifs <;> simp
      rw [hclosed, ofText_append_newline hfront, ofText_append_newline hfront, ih hr]
      exact (terminateLast_append ending [front ++ ['\n']] (ofText_ne_nil hr)).symm

/-! ## The text of lines -/

theorem toText_cons (line : Text) {lines : Lines} (h : lines ≠ []) :
    toText (line :: lines) = closed .newline line ++ toText lines := by
  obtain ⟨next, rest, rfl⟩ := List.exists_cons_of_ne_nil h
  rfl

/-- Reading a text as lines loses nothing. -/
theorem toText_ofText (text : Text) : toText (ofText text) = text := by
  induction text using text_induction with
  | last text ht =>
    by_cases hne : text = []
    · subst hne
      rfl
    · rw [ofText_of_not_mem ht hne]
      rfl
  | line front rest hfront ih =>
    rw [ofText_append_newline hfront]
    by_cases hr : rest = []
    · subst hr
      rfl
    · rw [toText_cons _ (ofText_ne_nil hr), closed_of_terminated (terminated_append_newline front), ih]
      simp

theorem reparse_singleton (line : Text) : reparse [line] = ofText line := rfl

theorem reparse_cons (line : Text) {lines : Lines} (h : lines ≠ []) :
    reparse (line :: lines) = ofText (closed .newline line) ++ reparse lines := by
  rw [reparse, toText_cons line h, ofText_append (terminated_closed .newline line), reparse]

/-- All but the last line are terminated before what follows them. -/
theorem reparse_append (lines : Lines) {rest : Lines} (h : rest ≠ []) :
    reparse (lines ++ rest) =
      (lines.flatMap fun line => ofText (closed .newline line)) ++ reparse rest := by
  induction lines with
  | nil => rfl
  | cons line lines ih =>
    rw [List.cons_append, reparse_cons line (by simp [h]), ih, List.flatMap_cons, List.append_assoc]

theorem reparse_terminateLast (ending : Ending) {lines : Lines}
    (h : ∀ line ∈ lines, line ≠ []) :
    reparse (terminateLast ending lines) = terminateLast ending (reparse lines) := by
  induction lines using List.reverseRecOn with
  | nil => rfl
  | append_singleton lines line =>
    have hline : line ≠ [] := h line (by simp)
    rw [terminateLast_concat, reparse_append _ (by simp), reparse_append _ (by simp),
      reparse_singleton, reparse_singleton, ofText_closed ending hline,
      terminateLast_append _ _ (ofText_ne_nil hline)]

theorem reparse_of_single {lines : Lines} (hs : ∀ line ∈ lines, Single line)
    (ht : ∀ line ∈ lines.dropLast, terminated line = true) : reparse lines = lines := by
  induction lines with
  | nil => rfl
  | cons line lines ih =>
    have hline := ofText_of_single (hs line (by simp))
    by_cases hl : lines = []
    · subst hl
      exact hline
    · rw [List.dropLast_cons_of_ne_nil hl] at ht
      have hrest := ih (fun l h => hs l (by simp [h])) fun l h => ht l (by simp [h])
      rw [reparse_cons line hl, closed_of_terminated (ht line (by simp)), hline, hrest]
      rfl

theorem flatMap_ofText_closed {lines : Lines} (h : ∀ line ∈ lines, line ≠ []) :
    (lines.flatMap fun line => ofText (closed .newline line)) =
      terminateLast .newline (reparse lines) := by
  rw [← reparse_terminateLast .newline h]
  induction lines using List.reverseRecOn with
  | nil => rfl
  | append_singleton lines line ih =>
    rw [terminateLast_concat, reparse_append _ (by simp), reparse_singleton]
    simp

/-! ## What stands in the lines -/

section Needle

variable {needle : Text} (hn : needle ≠ []) (h : '\n' ∉ needle)
include hn h

theorem any_occursIn_ofText (text : Text) :
    (ofText text).any (Text.occursIn needle) = Text.occursIn needle text := by
  induction text using text_induction with
  | last text ht =>
    by_cases hne : text = []
    · subst hne
      simp [ofText, Text.occursIn, hn]
    · simp [ofText_of_not_mem ht hne]
  | line front rest hfront ih =>
    rw [ofText_append_newline hfront, List.any_cons, ih, Text.occursIn_append_singleton h hn,
      Text.occursIn_append_cons h hn]

theorem occursIn_toText (lines : Lines) :
    Text.occursIn needle lines.toText = lines.any (Text.occursIn needle) := by
  induction lines with
  | nil => simp [toText, Text.occursIn, hn]
  | cons line lines ih =>
    by_cases hl : lines = []
    · subst hl
      simp [toText]
    · have hclosed : Text.occursIn needle (closed .newline line) = Text.occursIn needle line := by
        unfold closed
        split_ifs
        · rfl
        · exact Text.occursIn_append_singleton h hn
      obtain ⟨front, hfront⟩ := exists_append_newline (terminated_closed .newline line)
      rw [toText_cons line hl, List.any_cons, ← ih, ← hclosed, hfront,
        Text.occursIn_append_singleton h hn, List.append_assoc, List.singleton_append,
        Text.occursIn_append_cons h hn]

/-- What is looked for within a line is found before and after reading the lines back. -/
theorem any_occursIn_reparse (lines : Lines) :
    (reparse lines).any (Text.occursIn needle) = lines.any (Text.occursIn needle) := by
  rw [reparse, any_occursIn_ofText hn h, occursIn_toText hn h]

end Needle

/-- Lines declare the same outlets when they are read back, if those that are cut hold none. -/
theorem outlets_reparse {lines : Lines} (hne : ∀ line ∈ lines, line ≠ [])
    (h : ∀ line ∈ lines, Single line ∨ '@' ∉ line) : (reparse lines).outlets = lines.outlets := by
  rw [← outlets_terminateLast .newline, ← flatMap_ofText_closed hne]
  induction lines with
  | nil => rfl
  | cons line lines ih =>
    have hline : outlets (ofText (closed .newline line)) = outlets [line] := by
      rw [ofText_closed .newline (hne line (by simp)), outlets_terminateLast]
      rcases h line (by simp) with hs | hat
      · rw [ofText_of_single hs]
      · rw [outlets_eq_nil_of_not_mem fun piece hp hm => hat (mem_of_mem_ofText hp hm),
          @outlets_eq_nil_of_not_mem [line] (by simpa using hat)]
    rw [List.flatMap_cons, outlets_append, outlets_cons, hline,
      ih (fun l hl => hne l (by simp [hl])) fun l hl => h l (by simp [hl])]

end OutletWiring.Lines

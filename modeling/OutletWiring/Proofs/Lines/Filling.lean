import OutletWiring.Proofs.Lines.Reading
import OutletWiring.Proofs.Lines.Weave

/-!
# Lines among others

Where the places do not matter, lines with blocks between them are lines with others put in, of
which something is known (`Filled`). A search for lines that none of the others is finds the same
line before and after, and the lines in front of it are filled in the same way.
-/

namespace OutletWiring.Lines

/-- `filled` is `lines` with others put in that all satisfy `p`. -/
inductive Filled (p : Text → Prop) : Lines → Lines → Prop
  | nil : Filled p [] []
  | keep (line : Text) {lines filled : Lines} (h : Filled p lines filled) :
      Filled p (line :: lines) (line :: filled)
  | add {line : Text} {lines filled : Lines} (hp : p line) (h : Filled p lines filled) :
      Filled p lines (line :: filled)

variable {p : Text → Prop} {lines filled : Lines}

namespace Filled

theorem append_left (front : Lines) (h : Filled p lines filled) :
    Filled p (front ++ lines) (front ++ filled) := by
  induction front with
  | nil => exact h
  | cons line front ih => exact .keep line ih

theorem add_block {block : Lines} (hb : ∀ line ∈ block, p line) (h : Filled p lines filled) :
    Filled p lines (block ++ filled) := by
  induction block with
  | nil => exact h
  | cons line block ih => exact .add (hb line (by simp)) (ih fun l hl => hb l (by simp [hl]))

protected theorem refl (lines : Lines) : Filled p lines lines := by
  simpa using Filled.nil.append_left lines

theorem append_right (back : Lines) (h : Filled p lines filled) :
    Filled p (lines ++ back) (filled ++ back) := by
  induction h with
  | nil => exact .refl back
  | keep line _ ih => exact ih.keep line
  | add hp _ ih => exact ih.add hp

theorem eq_nil (h : Filled p lines []) : lines = [] := by
  cases h
  rfl

/-- A last line that was not put in is the last of the lines. -/
theorem exists_concat {front : Lines} {last : Text} (hl : ¬ p last)
    (h : Filled p lines (front ++ [last])) :
    ∃ init, lines = init ++ [last] ∧ Filled p init front := by
  induction front generalizing lines with
  | nil =>
    cases h with
    | keep _ h => exact ⟨[], by rw [h.eq_nil]; rfl, .nil⟩
    | add hp _ => exact absurd hp hl
  | cons line front ih =>
    cases h with
    | keep _ h =>
      obtain ⟨init, rfl, hinit⟩ := ih h
      exact ⟨line :: init, rfl, hinit.keep line⟩
    | add hp h =>
      obtain ⟨init, rfl, hinit⟩ := ih h
      exact ⟨init, rfl, hinit.add hp⟩

theorem sublist (h : Filled p lines filled) : lines.Sublist filled := by
  induction h with
  | nil => exact .slnil
  | keep line _ ih => exact ih.cons_cons line
  | add _ _ ih => exact ih.cons _

end Filled

theorem filled_weave {blocks : Nat → Lines} (hb : ∀ gap, ∀ line ∈ blocks gap, p line)
    (lines : Lines) : Filled p lines (weave blocks lines) := by
  induction lines generalizing blocks with
  | nil => simpa [weave] using Filled.nil.add_block (hb 0)
  | cons line lines ih => exact ((ih fun gap => hb (gap + 1)).keep line).add_block (hb 0)

theorem Filled.mem (h : Filled p lines filled) : ∀ line ∈ filled, line ∈ lines ∨ p line := by
  induction h with
  | nil => simp
  | keep line _ ih =>
    rw [List.forall_mem_cons]
    exact ⟨.inl List.mem_cons_self, fun other hother =>
      (ih other hother).imp_left (List.mem_cons_of_mem line)⟩
  | add hp _ ih => exact List.forall_mem_cons.2 ⟨.inr hp, ih⟩

theorem Filled.outlets_eq (hp : ∀ line, p line → Line.kind line ≠ .outlet)
    (h : Filled p lines filled) : filled.outlets = lines.outlets := by
  induction h with
  | nil => rfl
  | keep line _ ih => rw [outlets_cons, ih, ← outlets_cons]
  | @add line lines filled hline _ ih =>
    rw [outlets_cons, ih, @outlets_eq_nil [line] (by simpa using hp line hline),
      List.nil_append]

/-! ## Searching -/

namespace Filled

variable {q : Text → Bool} (hq : ∀ line, p line → q line = false)
include hq

theorem findIdx?_eq_none (h : Filled p lines filled) (hn : lines.findIdx? q = none) :
    filled.findIdx? q = none := by
  rw [List.findIdx?_eq_none_iff] at hn ⊢
  induction h with
  | nil => exact hn
  | keep line _ ih =>
    rw [List.forall_mem_cons] at hn ⊢
    exact ⟨hn.1, ih hn.2⟩
  | add hp _ ih =>
    rw [List.forall_mem_cons]
    exact ⟨hq _ hp, ih hn⟩

/-- The line that is found is the same, and so is what stands before it but for what is put in. -/
theorem findIdx?_eq_some (h : Filled p lines filled) {index : Nat}
    (hi : lines.findIdx? q = some index) :
    ∃ place, filled.findIdx? q = some place ∧ filled[place]? = lines[index]? ∧
      Filled p (lines.take index) (filled.take place) := by
  induction h generalizing index with
  | nil => cases hi
  | keep line h ih =>
    rw [List.findIdx?_cons] at hi
    split_ifs at hi with hline
    · rw [Option.some.injEq] at hi
      subst hi
      exact ⟨0, by simp [List.findIdx?_cons, hline], rfl, .nil⟩
    · obtain ⟨before, hbefore, rfl⟩ := Option.map_eq_some_iff.1 hi
      obtain ⟨place, hplace, heq, hf⟩ := ih hbefore
      exact ⟨place + 1, by simp [List.findIdx?_cons, hline, hplace], by simpa using heq,
        hf.keep line⟩
  | add hp h ih =>
    obtain ⟨place, hplace, heq, hf⟩ := ih hi
    exact ⟨place + 1, by simp [List.findIdx?_cons, hq _ hp, hplace], by simpa using heq, hf.add hp⟩

end Filled

/-! ## Reading back -/

namespace Filled

variable (hs : ∀ line, p line → Single line ∧ terminated line = true)
include hs

theorem flatMap_ofText_closed (h : Filled p lines filled) :
    Filled p (lines.flatMap fun line => ofText (closed .newline line))
      (filled.flatMap fun line => ofText (closed .newline line)) := by
  induction h with
  | nil => exact .nil
  | keep line _ ih =>
    rw [List.flatMap_cons, List.flatMap_cons]
    exact ih.append_left _
  | add hp _ ih =>
    obtain ⟨hsingle, hterminated⟩ := hs _ hp
    rw [List.flatMap_cons, closed_of_terminated hterminated, ofText_of_single hsingle]
    exact ih.add hp

/-- Lines with others put in are read back as the lines, read back themselves, with the others put
in. Their last line is terminated unless it is the last still. -/
theorem reparse (h : Filled p lines filled) (hne : ∀ line ∈ lines, line ≠ []) :
    Filled p (Lines.reparse lines) (Lines.reparse filled) ∨
      Filled p (terminateLast .newline (Lines.reparse lines)) (Lines.reparse filled) := by
  rcases List.eq_nil_or_concat' filled with rfl | ⟨front, last, rfl⟩
  · rw [h.eq_nil]
    exact .inl .nil
  · by_cases hlast : terminated last = true
    · refine .inr ?_
      have hfilled := h.flatMap_ofText_closed hs
      rw [Lines.flatMap_ofText_closed hne, List.flatMap_append, List.flatMap_singleton,
        closed_of_terminated hlast] at hfilled
      rwa [reparse_append _ (List.cons_ne_nil _ _), reparse_singleton]
    · refine .inl ?_
      obtain ⟨init, rfl, hinit⟩ := h.exists_concat fun hp => hlast (hs last hp).2
      rw [reparse_append _ (List.cons_ne_nil _ _), reparse_append _ (List.cons_ne_nil _ _)]
      exact (hinit.flatMap_ofText_closed hs).append_right _

end Filled

/-- Additions to a file come back with the file. Its last line is terminated if something follows
it. -/
theorem exists_filled_reparse_apply {lines : Lines} (hne : ∀ line ∈ lines, line ≠ [])
    (hs : ∀ line, p line → Single line ∧ terminated line = true) {additions : Additions}
    (hgaps : ∀ gap, ∀ line ∈ additions.gaps gap, p line)
    (htail : ∀ line ∈ additions.tail, Single line) :
    ∃ base filled, Filled p base filled ∧
      reparse (additions.apply lines) = filled ++ additions.tail ∧
        (base = reparse lines ∨ ∃ ending, base = terminateLast ending (reparse lines)) := by
  by_cases ht : additions.tail = []
  · have happly : additions.apply lines = weave additions.gaps lines := by
      simp [Additions.apply, Additions.base, Additions.closes, ht]
    rw [happly, ht]
    rcases (filled_weave hgaps lines).reparse hs hne with h | h
    · exact ⟨_, _, h, (List.append_nil _).symm, .inl rfl⟩
    · exact ⟨_, _, h, (List.append_nil _).symm, .inr ⟨_, rfl⟩⟩
  · have hfilled := (filled_weave hgaps (additions.base lines)).flatMap_ofText_closed hs
    refine ⟨_, _, hfilled, ?_, .inr ?_⟩
    · rw [Additions.apply, reparse_append _ ht,
        reparse_of_single htail fun line hline =>
          additions.tail_terminated line (List.dropLast_subset _ hline)]
    · unfold Additions.base
      split_ifs
      · refine ⟨additions.ending, ?_⟩
        rw [flatMap_ofText_closed (ne_nil_of_mem_terminateLast hne), reparse_terminateLast _ hne,
          terminateLast_terminateLast]
      · exact ⟨.newline, flatMap_ofText_closed hne⟩

end OutletWiring.Lines

import OutletWiring.Proofs.Breaks
import OutletWiring.Proofs.Lines.Filling
import OutletWiring.Proofs.Lines.Inserted

/-!
# Writing in the terminator of the file

A block in plain lines comes out in the terminator of the file that it goes into, and leaves the
file with that terminator. One thing can spoil this: a file without a terminated line, whose last
line ends in a return, gets the other terminator as soon as that line is ended by a newline. For all
other files (`Firm`) any number of blocks can be put in or added, and the file keeps its terminator
throughout (`Extends`).
-/

namespace OutletWiring.Lines

variable {mark : Ending} {base lines block front back : Lines} {line : Text} {index : Nat}

/-- The line ends in the terminator and holds no other part of one. -/
def WrittenIn (mark : Ending) (line : Text) : Prop :=
  ∃ text, line = text ++ mark.text ∧ Unbroken text

theorem Unbroken.getLast?_ne {text : Text} (h : Unbroken text) : text.getLast? ≠ some '\r' :=
  fun hr => h.2 (List.mem_of_getLast? hr)

namespace WrittenIn

theorem endsIn (h : WrittenIn mark line) : EndsIn mark line := by
  obtain ⟨text, rfl, hu⟩ := h
  exact endsIn_append hu.getLast?_ne mark

theorem plain (h : WrittenIn .newline line) : Plain line := by
  obtain ⟨text, rfl, hu⟩ := h
  exact ⟨text, rfl, hu.getLast?_ne⟩

theorem withEnding (h : WrittenIn .newline line) (mark : Ending) :
    WrittenIn mark (withEnding mark line) := by
  obtain ⟨text, rfl, hu⟩ := h
  exact ⟨text, withEnding_append_newline text mark hu.getLast?_ne, hu⟩

end WrittenIn

theorem writtenIn_of_lacks (ht : ∀ line ∈ block, terminated line = true)
    (h : ∀ line ∈ block, Text.Lacks .lineBreak line.dropLast) :
    ∀ line ∈ block, WrittenIn .newline line := by
  intro line hline
  obtain ⟨text, rfl⟩ := exists_append_newline (ht line hline)
  have hlacks := h _ hline
  rw [List.dropLast_concat] at hlacks
  exact ⟨text, rfl, Text.lacks_lineBreak_iff.1 hlacks⟩

/-! ## Files that keep their terminator -/

/-- Some line is terminated, or the last one does not end in a return. -/
def Firm (lines : Lines) : Prop :=
  (∃ line ∈ lines, terminated line = true) ∨
    ∀ last ∈ lines.getLast?, last.getLast? ≠ some '\r'

instance (lines : Lines) : Decidable (Firm lines) :=
  inferInstanceAs (Decidable (_ ∨ _))

theorem Firm.of_terminated (h : ∀ last ∈ lines.getLast?, terminated last = true) : Firm lines := by
  right
  intro last hlast hr
  have ht := h last hlast
  simp [terminated, hr] at ht

/-- The last line gets the terminator of the file, which does not change it. -/
theorem Firm.ending_terminateLast (h : Firm lines) :
    (terminateLast lines.ending lines).ending = lines.ending := by
  by_cases hled : ∃ line ∈ lines, terminated line = true
  · exact (Led.terminateLast ⟨hled, rfl⟩ lines.ending).2
  · -- no line is terminated, so the last one is the first to be, by a newline
    have hopen : ∀ line ∈ lines, terminated line = false := by simpa using hled
    have hnewline : lines.ending = .newline := by
      have hf : lines.find? terminated = none := by simpa using hopen
      rw [ending_eq, hf]
      rfl
    rcases List.eq_nil_or_concat' lines with rfl | ⟨init, last, rfl⟩
    · rfl
    · rw [List.forall_mem_append, List.forall_mem_singleton] at hopen
      have hlast : last.getLast? ≠ some '\r' := h.resolve_left hled last (by simp)
      have hend : EndsIn .newline (last ++ Ending.newline.text) := endsIn_append hlast .newline
      have hinit : init.find? terminated = none := by simpa using hopen.1
      rw [hnewline, terminateLast_concat, closed_of_not_terminated hopen.2, ending_eq]
      simp [List.find?_append, hinit, hend.1, hend.2]

theorem firm_terminateLast (lines : Lines) (mark : Ending) : Firm (terminateLast mark lines) := by
  refine .of_terminated ?_
  rcases List.eq_nil_or_concat' lines with rfl | ⟨init, last, rfl⟩
  · simp
  · rw [terminateLast_concat]
    simp [terminated_closed]

theorem Firm.insertBlock (h : Firm lines) (hb : ∀ line ∈ block, terminated line = true) :
    Firm (lines.insertBlock index block) := by
  cases block with
  | nil => rwa [insertBlock_nil]
  | cons first rest =>
    have hfirst : terminated (withEnding lines.ending first) = true := by
      rw [terminated_withEnding]
      exact hb first List.mem_cons_self
    exact .inl ⟨_, mem_insertBlock.2 (.inr ⟨first, List.mem_cons_self, rfl⟩), hfirst⟩

/-! ## Lines among others -/

theorem Filled.add_within {p : Text → Prop} (hb : ∀ line ∈ block, p line)
    (h : Filled p base (front ++ back)) : Filled p base (front ++ block ++ back) := by
  rw [List.append_assoc]
  induction front generalizing base with
  | nil => simpa using h.add_block hb
  | cons line front ih =>
    cases h with
    | keep _ h => exact (ih h).keep line
    | add hp h => exact (ih h).add hp

/-- The lines are those of `base` with others put in, in the terminator that the file has. -/
structure Extends (mark : Ending) (base lines : Lines) : Prop where
  filled : Filled (WrittenIn mark) base lines
  ending : lines.ending = mark
  firm : lines.Firm

theorem Firm.extends (h : Firm lines) : Extends lines.ending lines lines :=
  ⟨.refl lines, rfl, h⟩

theorem Firm.extends_terminateLast (h : Firm lines) :
    Extends lines.ending (terminateLast lines.ending lines) (terminateLast lines.ending lines) :=
  ⟨.refl _, h.ending_terminateLast, firm_terminateLast lines _⟩

/-- A block can go anywhere. -/
theorem Extends.insertBlock (h : Extends mark base lines)
    (hb : ∀ line ∈ block, WrittenIn .newline line) :
    Extends mark base (lines.insertBlock index block) where
  filled := by
    unfold Lines.insertBlock
    refine Filled.add_within ?_ ((List.take_append_drop index lines).symm ▸ h.filled)
    rw [h.ending, List.forall_mem_map]
    exact fun line hline => (hb line hline).withEnding mark
  ending := by
    rw [ending_insertBlock lines index fun line hline => (hb line (List.mem_of_head? hline)).plain,
      h.ending]
  firm := h.firm.insertBlock fun line hline => (hb line hline).plain.terminated

/-- A block goes behind a last line that is terminated as it goes anywhere. -/
theorem Extends.appendBlock (h : Extends mark base lines)
    (hlast : ∀ last ∈ lines.getLast?, terminated last = true)
    (hb : ∀ line ∈ block, WrittenIn .newline line) :
    Extends mark base (lines.appendBlock block) := by
  unfold Lines.appendBlock Lines.appendBlockM
  rw [terminateLast_eq_self hlast]
  exact h.insertBlock hb

/-- A block behind the last line, which is terminated for it. -/
theorem Firm.extends_appendBlock (h : Firm lines) (hb : ∀ line ∈ block, WrittenIn .newline line) :
    Extends lines.ending (terminateLast lines.ending lines) (lines.appendBlock block) :=
  h.extends_terminateLast.insertBlock hb

/-- Behind the last line, a block ends the file in a terminated line. -/
theorem terminated_getLast?_insertBlock (hi : lines.length ≤ index) (hne : block ≠ [])
    (hb : ∀ line ∈ block, terminated line = true) :
    ∀ last ∈ (lines.insertBlock index block).getLast?, terminated last = true := by
  intro last hlast
  rw [insertBlock_of_drop_nil (List.drop_eq_nil_iff.2 hi),
    List.getLast?_append_of_ne_nil _ (by simpa using hne), List.getLast?_map, Option.mem_def,
    Option.map_eq_some_iff] at hlast
  obtain ⟨raw, hraw, rfl⟩ := hlast
  rw [terminated_withEnding]
  exact hb raw (List.mem_of_getLast? hraw)

theorem terminated_getLast?_appendBlock (hne : block ≠ [])
    (hb : ∀ line ∈ block, terminated line = true) :
    ∀ last ∈ (lines.appendBlock block).getLast?, terminated last = true :=
  terminated_getLast?_insertBlock (Nat.le_refl _) hne hb

/-- Terminating the last line and putting a block in above it can be done in either order. -/
theorem Firm.terminateLast_insertBlock (h : Firm lines) (hi : index < lines.length) :
    terminateLast lines.ending (lines.insertBlock index block) =
      (terminateLast lines.ending lines).insertBlock index block := by
  have hdrop : lines.drop index ≠ [] := by simpa using hi
  have hlen : (lines.take index).length = index := List.length_take_of_le (by omega)
  have hsplit : terminateLast lines.ending lines =
      lines.take index ++ terminateLast lines.ending (lines.drop index) := by
    rw [← terminateLast_append _ _ hdrop, List.take_append_drop]
  unfold Lines.insertBlock
  rw [h.ending_terminateLast, terminateLast_append _ _ hdrop, hsplit, List.take_left' hlen,
    List.drop_left' hlen]

/-! ## One terminator throughout -/

theorem Uniform.firm (h : Uniform mark lines) : Firm lines :=
  .of_terminated fun last hlast => (h last (List.mem_of_getLast? hlast)).1

theorem Uniform.terminateLast_eq (h : Uniform mark lines) (ending : Ending) :
    terminateLast ending lines = lines :=
  terminateLast_eq_self fun last hlast => (h last (List.mem_of_getLast? hlast)).1

theorem Uniform.filled {filled : Lines} (h : Uniform mark lines)
    (hf : Filled (WrittenIn mark) lines filled) : Uniform mark filled := by
  intro line hline
  rcases hf.mem line hline with hkept | hwritten
  · exact h line hkept
  · exact hwritten.endsIn

end OutletWiring.Lines

import OutletWiring.Proofs.Conformance.Declaration
import OutletWiring.Proofs.Lines.Filling
import OutletWiring.Proofs.Run.Report

/-!
# What counts as a change

A report compares lines, and a file is written as text. The two agree: lines that differ from those
of the source never join to the text of the source. Suppose they did. Every line gives at least one
line when it is read back, so nothing can have been put in. And the line that takes the capability
did not hold it before, so there are more lines with it than the source has.
-/

namespace OutletWiring

namespace Lines

/-- Lines with a property are no fewer after reading back, if each leaves one with the property. -/
theorem countP_le_countP_reparse {p : Text → Bool} {lines : Lines}
    (h : ∀ line ∈ lines, p line = true →
      (ofText line).any p = true ∧ (ofText (closed .newline line)).any p = true) :
    lines.countP p ≤ (reparse lines).countP p := by
  have hpiece : ∀ {line text : Text}, (p line = true → (ofText text).any p = true) →
      [line].countP p ≤ (ofText text).countP p := by
    intro line text hany
    by_cases hp : p line = true
    · rw [List.countP_singleton, if_pos hp]
      exact List.countP_pos_iff.2 (List.any_eq_true.1 (hany hp))
    · rw [List.countP_singleton, if_neg hp]
      exact Nat.zero_le _
  induction lines with
  | nil => exact Nat.le_refl _
  | cons line lines ih =>
    rw [List.forall_mem_cons] at h
    by_cases hl : lines = []
    · subst hl
      rw [reparse_singleton]
      exact hpiece fun hp => (h.1 hp).1
    · rw [reparse_cons line hl, List.countP_append, ← List.singleton_append, List.countP_append]
      exact Nat.add_le_add (hpiece fun hp => (h.1 hp).2) (ih h.2)

theorem length_le_length_reparse {lines : Lines} (h : ∀ line ∈ lines, line ≠ []) :
    lines.length ≤ (reparse lines).length := by
  have hany : ∀ {text : Text}, text ≠ [] → (ofText text).any (fun _ => true) = true := by
    intro text hne
    simpa using List.exists_mem_of_ne_nil _ (ofText_ne_nil hne)
  have hcount := @countP_le_countP_reparse (fun _ => true) lines fun line hline _ =>
    ⟨hany (h line hline), hany fun hnil => by
      have hterminated := terminated_closed .newline line
      simp [hnil, terminated] at hterminated⟩
  simpa using hcount

theorem countP_occursIn_le_reparse {needle : Text} (hn : needle ≠ []) (hc : '\n' ∉ needle)
    (lines : Lines) :
    lines.countP (Text.occursIn needle) ≤ (reparse lines).countP (Text.occursIn needle) := by
  refine countP_le_countP_reparse fun line _ hocc => ⟨?_, ?_⟩
  · rw [any_occursIn_ofText hn hc, hocc]
  · rw [any_occursIn_ofText hn hc]
    unfold closed
    split_ifs
    · exact hocc
    · exact Text.occursIn_append_left hocc

/-- Nothing was added if there are no more lines than before. -/
theorem Additions.apply_eq_self {additions : Additions} {lines : Lines}
    (h : (additions.apply lines).length ≤ lines.length) : additions.apply lines = lines := by
  have hbase : (additions.base lines).length = lines.length := by
    unfold Additions.base
    split_ifs
    · exact length_terminateLast ..
    · rfl
  have hsame := (additions.base_sublist_apply lines).eq_of_length_le (hbase ▸ h)
  have hweave := (sublist_weave additions.gaps (additions.base lines)).length_le
  have htail : additions.tail = [] := by
    rw [Additions.apply, List.length_append, ← hbase] at h
    exact List.length_eq_zero_iff.1 (by omega)
  rw [← hsame, Additions.base, if_neg (by simp [Additions.closes, htail])]

theorem Additions.apply_ne_nil {additions : Additions} {lines : Lines}
    (h : ∀ line ∈ lines, line ≠ []) : ∀ line ∈ additions.apply lines, line ≠ [] := by
  have hterminated : ∀ line, terminated line = true → line ≠ [] := by
    rintro line hline rfl
    cases hline
  have hbase : ∀ line ∈ additions.base lines, line ≠ [] := by
    unfold Additions.base
    split_ifs
    · exact ne_nil_of_mem_terminateLast h
    · exact h
  intro line hline
  rcases List.mem_append.1 hline with hline | hline
  · exact ((filled_weave additions.gaps_terminated _).mem line hline).elim (hbase line)
      (hterminated line)
  · exact hterminated line (additions.tail_terminated line hline)

end Lines

namespace Conformance

open Line (Mark.capability)

variable {variant : Variant} {lines edited conformed : Lines}

/-- A declaration of two words or more that takes the capability holds it. -/
theorem occursIn_of_addCapability? {line next : Text} (h : addCapability? line = some next) :
    next = line ∨ Text.occursIn Mark.capability next = true := by
  by_cases hl : 2 ≤ (Text.words line).length
  · rw [addCapability?_eq hl] at h
    obtain ⟨entered, hentered, rfl⟩ := Option.map_eq_some_iff.1 h
    refine .inr (Text.occursIn_iff.2 (Text.infix_of_mem_words ?_))
    rw [words_of_entered? hentered]
    obtain ⟨ready, -, henter⟩ := Option.bind_eq_some_iff.1 hentered
    obtain ⟨front, last, -, rfl⟩ := enter?_eq_some henter
    simp
  · simp only [addCapability?, if_pos (Nat.lt_of_not_le hl), Option.some.injEq] at h
    exact .inl h.symm

/-- Lines that are changed by declaring the capability come to hold it in one line more. -/
theorem countP_of_declareAt? {index : Nat} {events : List Event}
    (h : declareAt? lines index = some (edited, events)) (hne : edited ≠ lines) :
    lines.countP (Text.occursIn Mark.capability) < edited.countP (Text.occursIn Mark.capability) := by
  obtain ⟨line, hline, rfl | ⟨next, hnext, rfl⟩⟩ := declareAt?_eq_some h
  · exact absurd rfl hne
  · obtain ⟨hlt, rfl⟩ := List.getElem?_eq_some_iff.1 hline
    have hold : Text.occursIn Mark.capability lines[index] = false := by
      rw [Bool.eq_false_iff]
      intro hocc
      simp only [declareAt?, hline, Option.bind_eq_bind, Option.bind_some, hocc, if_true,
        Option.pure_def, Option.some.injEq, Prod.mk.injEq] at h
      exact hne h.1.symm
    have hnew : Text.occursIn Mark.capability next = true := by
      refine (occursIn_of_addCapability? hnext).resolve_left ?_
      rintro rfl
      exact hne (List.set_getElem_self hlt)
    rw [List.countP_set hlt, hold, hnew]
    simp

theorem Conformed.edited_eq (h : Conformed variant lines edited conformed) :
    edited = lines ∨ ∃ index events, declareAt? lines index = some (edited, events) := by
  cases h with
  | unchanged => exact .inl rfl
  | declared _ he => exact .inr ⟨_, _, he⟩
  | imported _ _ _ he => exact .inr ⟨_, _, he⟩
  | importTarget => exact .inl rfl

theorem ne_nil_of_declareAt? {index : Nat} {events : List Event}
    (h : declareAt? lines index = some (edited, events)) (hs : ∀ line ∈ lines, line ≠ []) :
    ∀ line ∈ edited, line ≠ [] := by
  obtain ⟨line, hline, rfl | ⟨next, hnext, rfl⟩⟩ := declareAt?_eq_some h
  · exact hs
  · intro other hother
    rcases List.mem_or_eq_of_mem_set hother with hmem | rfl
    · exact hs other hmem
    · rcases occursIn_of_addCapability? hnext with rfl | hocc
      · exact hs _ (List.mem_of_getElem? hline)
      · rintro rfl
        exact absurd hocc (by decide)

theorem Conformed.ne_nil (h : Conformed variant lines edited conformed)
    (hs : ∀ line ∈ lines, line ≠ []) : ∀ line ∈ conformed, line ≠ [] := by
  have hinsert : ∀ {others : Lines} {line : Text} (index : Nat), (∀ other ∈ others, other ≠ []) →
      line ≠ [] → ∀ other ∈ others.take index ++ line :: others.drop index, other ≠ [] := by
    intro others line index ho hline
    rw [List.forall_mem_append, List.forall_mem_cons]
    exact ⟨fun other hm => ho other (List.mem_of_mem_take hm), hline,
      fun other hm => ho other (List.mem_of_mem_drop hm)⟩
  have himport : ∀ module, Lines.withEnding lines.ending (Line.importLine module) ≠ [] := by
    intro module hnil
    have hterminated : Lines.terminated (Lines.withEnding lines.ending (Line.importLine module)) =
        true := by
      rw [Lines.terminated_withEnding]
      exact Lines.terminated_append_newline _
    rw [hnil] at hterminated
    cases hterminated
  cases h with
  | unchanged => exact hs
  | declared _ he => exact ne_nil_of_declareAt? he hs
  | imported _ _ _ he => exact hinsert _ (ne_nil_of_declareAt? he hs) (himport _)
  | importTarget _ _ _ _ he =>
    exact hinsert _ hs (ne_nil_of_declareAt? he (by simpa using himport _) _ (by simp))

end Conformance

namespace Stage

variable {variant : Variant} {source : Text} {outcome : Outcome}

/-- A run that leaves the text of a source leaves its lines. -/
theorem lines_eq_of_toText_eq
    (h : sequence variant standard (Lines.ofText source) = some outcome)
    (ht : outcome.lines.toText = source) : outcome.lines = Lines.ofText source := by
  have hread : Lines.reparse outcome.lines = Lines.ofText source := by rw [Lines.reparse, ht]
  have hcourse := course_of_sequence h
  obtain ⟨edited, hconformed⟩ := Conformance.conformed_run hcourse.verdict_ne_stuck
  obtain ⟨all, hall⟩ : ∃ all : Lines.Additions,
      outcome.lines = all.apply (Conformance.run variant (Lines.ofText source) {}).lines := by
    obtain ⟨additions, -, hlines | hlines⟩ := hcourse.exists_additions
    · exact ⟨_, hlines⟩
    · exact ⟨_, hlines⟩
  -- nothing was put in, as each line is read back as one at least
  have hlength : outcome.lines.length ≤ edited.length := by
    rw [hconformed.length_eq, ← hread]
    refine Lines.length_le_length_reparse ?_
    rw [hall]
    exact Lines.Additions.apply_ne_nil
      (hconformed.ne_nil fun line hline => (Lines.single_of_mem_ofText hline).1)
  have hsame : outcome.lines = edited := by
    have hkept : outcome.lines = (Conformance.run variant (Lines.ofText source) {}).lines := by
      rw [hall] at hlength ⊢
      exact Lines.Additions.apply_eq_self (hlength.trans hconformed.sublist.length_le)
    rw [hkept] at hlength ⊢
    exact (hconformed.sublist.eq_of_length_le hlength).symm
  -- and no line took the capability, as none more holds it
  rw [hsame] at hread ⊢
  rcases hconformed.edited_eq with hedited | ⟨index, events, hdeclare⟩
  · exact hedited
  · by_contra hne
    have hmore := Conformance.countP_of_declareAt? hdeclare hne
    have hfewer := @Lines.countP_occursIn_le_reparse Line.Mark.capability (by decide) (by decide)
      edited
    rw [hread] at hfewer
    omega

end Stage

/-- The report of a run over a source says that it changed exactly if the text did. -/
theorem Variant.run_changed_iff {variant : Variant} {source : Text} {generated : Generated}
    (h : variant.run (Lines.ofText source) = some generated) :
    generated.report.changed = true ↔ generated.lines.toText ≠ source := by
  obtain ⟨outcome, hsequence, rfl⟩ := Option.map_eq_some_iff.1 h
  have hchanged : (variant.report (Lines.ofText source) outcome).changed = true ↔
      outcome.lines ≠ Lines.ofText source := by
    simp [Variant.report]
  rw [hchanged, not_iff_not]
  constructor
  · intro hlines
    rw [hlines, Lines.toText_ofText]
  · exact Stage.lines_eq_of_toText_eq hsequence

/-- Something is generated by the variant with the selector, from the lines of the source. -/
theorem generate_eq_ok_iff_run {source selector text : Text} {report : Report} :
    generate source selector = .ok (text, report) ↔
      ∃ variant, Catalogue.standard.resolve? selector = some variant ∧
        ∃ generated, variant.run (Lines.ofText source) = some generated ∧
          text = generated.lines.toText ∧ report = generated.report := by
  unfold generate Catalogue.dispatch
  cases hv : Catalogue.standard.resolve? selector with
  | none => simp [Except.map]
  | some variant =>
    cases hg : variant.run (Lines.ofText source) with
    | none => simp [hg, Except.map]
    | some generated => simp [hg, Except.map, eq_comm]

/-- A run reports a change exactly if what it generates is not the source, character by character. -/
theorem generate_changed_iff {source selector text : Text} {report : Report}
    (h : generate source selector = .ok (text, report)) : report.changed = true ↔ text ≠ source := by
  obtain ⟨variant, -, generated, hrun, rfl, rfl⟩ := generate_eq_ok_iff_run.1 h
  exact variant.run_changed_iff hrun

/-- A class whose constraints are taken out for the capability, so that its text gets shorter. -/
def crowded : Text :=
  "class A:  AnyObject  AnyObject  AnyObject \x7b\n"

theorem generate_changed_iff_crowded :
    ∃ text report, generate crowded Variant.qa.selector = .ok (text, report) ∧
      text.length < crowded.length ∧ (report.changed = true ↔ text ≠ crowded) := by
  have hrun : ∃ result, generate crowded Variant.qa.selector = .ok result ∧
      result.1.length < crowded.length := ⟨_, rfl, by decide⟩
  obtain ⟨⟨text, report⟩, hok, hshorter⟩ := hrun
  exact ⟨text, report, hok, hshorter, generate_changed_iff hok⟩

end OutletWiring

import OutletWiring.Stage.Sequence
import Mathlib.Tactic.ByContra
import Mathlib.Tactic.SplitIfs

/-!
# The course of a full run

A full run goes through its three stages in order and ends where one declines. `Course` lists the
four ways in which that can happen, with the lines and the subject that are passed on. Only the
first stage can be stuck, so a run has an outcome if that one is not.
-/

namespace OutletWiring

theorem IdentifierSetter.verdict_ne_stuck (variant : Variant) (lines : Lines) (subject : Subject) :
    (run variant lines subject).verdict ≠ .stuck := by
  simp only [run, runM]
  split_ifs
  · simp
  · simp
  · cases lines.setter? <;> simp [writeFreshM, extendExistingM]

/-- The stage adds its block after the lines, or declines for want of a class or of outlets. -/
theorem PageObject.run_cases (variant : Variant) (lines : Lines) (subject : Subject) :
    (subject.hasClass = false ∨ subject.outlets = []) ∧
        (∃ reason, run variant lines subject = ⟨lines, subject, .declined reason, []⟩) ∨
      subject.outlets ≠ [] ∧ run variant lines subject =
        ⟨lines.appendBlock (Page.block variant subject), subject, .completed, []⟩ := by
  unfold run runM
  split_ifs with hclass houtlets
  · exact .inl ⟨.inl (by simpa using hclass), _, rfl⟩
  · exact .inl ⟨.inr (List.isEmpty_iff.1 houtlets), _, rfl⟩
  · exact .inr ⟨by simpa using houtlets, rfl⟩

theorem PageObject.verdict_ne_stuck (variant : Variant) (lines : Lines) (subject : Subject) :
    (run variant lines subject).verdict ≠ .stuck := by
  rcases run_cases variant lines subject with ⟨-, _, hrun⟩ | ⟨-, hrun⟩ <;> simp [hrun]

namespace Stage

variable {variant : Variant} {lines : Lines} {outcome : Outcome}

/-- How the stages of a full run end, and what the run leaves. -/
inductive Course (variant : Variant) (lines : Lines) (outcome : Outcome) : Prop
  | conformance {reason : Reason}
      (hfirst : (Conformance.run variant lines {}).verdict = .declined reason)
      (hlines : outcome.lines = (Conformance.run variant lines {}).lines)
      (hsubject : outcome.subject = (Conformance.run variant lines {}).subject)
      (hends : outcome.completed = [] ∧ outcome.declined? = some ⟨.conformance, reason⟩)
  | identifierSetter {first second : Result} {reason : Reason}
      (hf : first = Conformance.run variant lines {}) (hfirst : first.verdict = .completed)
      (hs : second = IdentifierSetter.run variant first.lines first.subject)
      (hsecond : second.verdict = .declined reason) (hlines : outcome.lines = second.lines)
      (hsubject : outcome.subject = second.subject)
      (hends : outcome.completed = [.conformance] ∧
        outcome.declined? = some ⟨.identifierSetter, reason⟩)
  | pageObject {first second third : Result} {reason : Reason}
      (hf : first = Conformance.run variant lines {}) (hfirst : first.verdict = .completed)
      (hs : second = IdentifierSetter.run variant first.lines first.subject)
      (hsecond : second.verdict = .completed)
      (ht : third = PageObject.run variant second.lines second.subject)
      (hthird : third.verdict = .declined reason) (hlines : outcome.lines = third.lines)
      (hsubject : outcome.subject = third.subject)
      (hends : outcome.completed = [.conformance, .identifierSetter] ∧
        outcome.declined? = some ⟨.pageObject, reason⟩)
  | complete {first second third : Result}
      (hf : first = Conformance.run variant lines {}) (hfirst : first.verdict = .completed)
      (hs : second = IdentifierSetter.run variant first.lines first.subject)
      (hsecond : second.verdict = .completed)
      (ht : third = PageObject.run variant second.lines second.subject)
      (hthird : third.verdict = .completed) (hlines : outcome.lines = third.lines)
      (hsubject : outcome.subject = third.subject)
      (hends : outcome.completed = standard ∧ outcome.declined? = none)

/-- The first stage of a sequence declines and ends it, or completes and the others follow. -/
theorem runAll_cons_eq_some {subject : Subject} {stage : Stage} {stages : List Stage}
    (h : runAll variant lines subject (stage :: stages) = some outcome) :
    (∃ reason, (stage.apply variant lines subject).verdict = .declined reason ∧
        outcome.lines = (stage.apply variant lines subject).lines ∧
        outcome.subject = (stage.apply variant lines subject).subject ∧
        outcome.completed = [] ∧ outcome.declined? = some ⟨stage, reason⟩) ∨
      ∃ rest, (stage.apply variant lines subject).verdict = .completed ∧
        runAll variant (stage.apply variant lines subject).lines
          (stage.apply variant lines subject).subject stages = some rest ∧
        outcome.lines = rest.lines ∧ outcome.subject = rest.subject ∧
        outcome.completed = stage :: rest.completed ∧ outcome.declined? = rest.declined? := by
  rw [runAll_cons] at h
  cases hv : (stage.apply variant lines subject).verdict with
  | completed =>
    simp only [hv, Option.map_eq_some_iff] at h
    obtain ⟨rest, hrest, rfl⟩ := h
    exact .inr ⟨rest, rfl, hrest, rfl, rfl, rfl, rfl⟩
  | declined reason =>
    simp only [hv, Option.some.injEq] at h
    subst h
    exact .inl ⟨reason, rfl, rfl, rfl, rfl, rfl⟩
  | stuck => simp [hv] at h

section Apply

variable {subject : Subject} {stage : Stage} (stages : List Stage)

theorem runAll_of_completed {rest : Outcome}
    (hv : (stage.apply variant lines subject).verdict = .completed)
    (h : runAll variant (stage.apply variant lines subject).lines
      (stage.apply variant lines subject).subject stages = some rest) :
    ∃ outcome, runAll variant lines subject (stage :: stages) = some outcome ∧
      outcome.lines = rest.lines ∧ outcome.subject = rest.subject ∧
      outcome.completed = stage :: rest.completed ∧ outcome.declined? = rest.declined? := by
  rw [runAll_cons]
  simp only [hv, h, Option.map_some]
  exact ⟨_, rfl, rfl, rfl, rfl, rfl⟩

theorem runAll_of_declined {reason : Reason}
    (hv : (stage.apply variant lines subject).verdict = .declined reason) :
    ∃ outcome, runAll variant lines subject (stage :: stages) = some outcome ∧
      outcome.lines = (stage.apply variant lines subject).lines ∧
      outcome.subject = (stage.apply variant lines subject).subject ∧
      outcome.completed = [] ∧ outcome.declined? = some ⟨stage, reason⟩ := by
  rw [runAll_cons]
  simp only [hv]
  exact ⟨_, rfl, rfl, rfl, rfl, rfl⟩

end Apply

theorem course_of_sequence (h : sequence variant standard lines = some outcome) :
    Course variant lines outcome := by
  rcases runAll_cons_eq_some h with ⟨reason, hv, hl, hs, hc, hd⟩ | ⟨rest, hv, h, hl, hs, hc, hd⟩
  · exact .conformance hv hl hs ⟨hc, hd⟩
  rcases runAll_cons_eq_some h with
    ⟨reason, hv', hl', hs', hc', hd'⟩ | ⟨rest', hv', h', hl', hs', hc', hd'⟩
  · exact .identifierSetter rfl hv rfl hv' (hl.trans hl') (hs.trans hs')
      ⟨by rw [hc, hc'], hd.trans hd'⟩
  rcases runAll_cons_eq_some h' with
    ⟨reason, hv'', hl'', hs'', hc'', hd''⟩ | ⟨rest'', hv'', h'', hl'', hs'', hc'', hd''⟩
  · exact .pageObject rfl hv rfl hv' rfl hv'' (hl.trans (hl'.trans hl'')) (hs.trans (hs'.trans hs''))
      ⟨by rw [hc, hc', hc''], hd.trans (hd'.trans hd'')⟩
  · simp only [runAll_nil, Option.some.injEq] at h''
    subst h''
    exact .complete rfl hv rfl hv' rfl hv'' (hl.trans (hl'.trans hl'')) (hs.trans (hs'.trans hs''))
      ⟨by rw [hc, hc', hc'']; rfl, hd.trans (hd'.trans hd'')⟩

theorem runAll_cons_ne_none {subject : Subject} {stage : Stage} {stages : List Stage}
    (hv : (stage.apply variant lines subject).verdict ≠ .stuck)
    (hrest : ∀ lines subject, runAll variant lines subject stages ≠ none) :
    runAll variant lines subject (stage :: stages) ≠ none := by
  cases hverdict : (stage.apply variant lines subject).verdict with
  | completed => simpa [runAll_cons, hverdict] using hrest _ _
  | declined reason => simp [runAll_cons, hverdict]
  | stuck => exact absurd hverdict hv

/-- Only the first stage of a run can be stuck. -/
theorem verdict_of_sequence_eq_none (h : sequence variant standard lines = none) :
    (Conformance.run variant lines {}).verdict = .stuck := by
  by_contra hv
  have hfirst : (apply .conformance variant lines {}).verdict ≠ .stuck := hv
  have hnil : ∀ lines subject, runAll variant lines subject [] ≠ none := by simp [runAll_nil]
  refine runAll_cons_ne_none hfirst (fun _ _ => ?_) h
  refine runAll_cons_ne_none (IdentifierSetter.verdict_ne_stuck _ _ _) fun _ _ => ?_
  exact runAll_cons_ne_none (PageObject.verdict_ne_stuck _ _ _) hnil

theorem exists_sequence (h : (Conformance.run variant lines {}).verdict ≠ .stuck) :
    ∃ outcome, sequence variant standard lines = some outcome :=
  Option.ne_none_iff_exists'.1 (mt verdict_of_sequence_eq_none h)

end Stage

end OutletWiring

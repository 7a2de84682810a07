import OutletWiring.Proofs.Conformance
import OutletWiring.Proofs.Run.Course
import OutletWiring.Proofs.Setter.Binding

/-!
# Where a sequence of stages stops

Stages can be put together in any order and more than once. A stage that declines may have found out
something about the subject by then, but it has not touched the lines (`apply_lines_of_declined`).
So the lines that a sequence ends with are those of the stages before it, run by themselves.
-/

namespace OutletWiring

variable {variant : Variant} {lines : Lines} {subject : Subject} {reason : Reason}

theorem Conformance.run_lines_of_declined
    (h : (run variant lines subject).verdict = .declined reason) :
    (run variant lines subject).lines = lines := by
  cases hc : lines.classDeclaration? with
  | none =>
    obtain ⟨_, hrun⟩ := run_of_none variant subject hc
    rw [hrun]
  | some declared =>
    rw [run_of_some hc] at h
    cases hd : declaredIn variant lines declared <;> simp [hd] at h

theorem IdentifierSetter.run_lines_of_declined
    (h : (run variant lines subject).verdict = .declined reason) :
    (run variant lines subject).lines = lines := by
  rcases run_cases variant lines subject with ⟨hlines, -⟩ | ⟨-, hrun⟩ | ⟨index, -, hrun⟩
  · exact hlines
  · rw [hrun] at h
    cases h
  · rw [hrun] at h
    cases h

theorem PageObject.run_lines_of_declined
    (h : (run variant lines subject).verdict = .declined reason) :
    (run variant lines subject).lines = lines := by
  rcases run_cases variant lines subject with ⟨-, _, hrun⟩ | ⟨-, hrun⟩
  · rw [hrun]
  · rw [hrun] at h
    cases h

namespace Stage

/-- A stage that declines leaves the lines as they were. -/
theorem apply_lines_of_declined {stage : Stage}
    (h : (stage.apply variant lines subject).verdict = .declined reason) :
    (stage.apply variant lines subject).lines = lines := by
  cases stage with
  | conformance => exact Conformance.run_lines_of_declined h
  | identifierSetter => exact IdentifierSetter.run_lines_of_declined h
  | pageObject => exact PageObject.run_lines_of_declined h

/-- Only the conformance stage can start where no class is known. -/
theorem apply_of_classless {stage : Stage} (hs : stage ≠ .conformance)
    (hc : subject.hasClass = false) :
    (stage.apply variant lines subject).verdict = .declined .noClassDeclaration := by
  cases stage with
  | conformance => exact absurd rfl hs
  | identifierSetter => simp [apply, applyM, IdentifierSetter.runM, hc]
  | pageObject => simp [apply, applyM, PageObject.runM, hc]

/-- The stages all completed, or they stopped at one of them and the lines are what those before it
make of the lines by themselves. -/
theorem runAll_stops {stages : List Stage} {outcome : Outcome}
    (h : runAll variant lines subject stages = some outcome) :
    outcome.declined? = none ∧ outcome.completed = stages ∨
      ∃ declined before, outcome.declined? = some declined ∧
        outcome.completed ++ [declined.stage] <+: stages ∧
        runAll variant lines subject outcome.completed = some before ∧
        before.declined? = none ∧ before.lines = outcome.lines := by
  induction stages generalizing lines subject outcome with
  | nil =>
    simp only [runAll_nil, Option.some.injEq] at h
    subst h
    exact .inl ⟨rfl, rfl⟩
  | cons stage stages ih =>
    rcases runAll_cons_eq_some h with
      ⟨reason, hv, hlines, -, hcompleted, hdeclined⟩ |
      ⟨rest, hv, hrest, hlines, -, hcompleted, hdeclined⟩
    · -- the first stage declines, and no stage is no change
      refine .inr ⟨_, _, hdeclined, ?_, by rw [hcompleted]; rfl, rfl, ?_⟩
      · rw [hcompleted]
        exact ⟨stages, rfl⟩
      · exact (hlines.trans (apply_lines_of_declined hv)).symm
    · rcases ih hrest with ⟨hnone, hall⟩ | ⟨declined, before, hsome, hstages, hrun, hend, hsame⟩
      · exact .inl ⟨hdeclined.trans hnone, by rw [hcompleted, hall]⟩
      · obtain ⟨whole, hwhole, hwl, -, -, hwd⟩ := runAll_of_completed rest.completed hv hrun
        refine .inr ⟨declined, whole, hdeclined.trans hsome, ?_, by rw [hcompleted, hwhole],
          hwd.trans hend, ?_⟩
        · rw [hcompleted]
          exact List.cons_prefix_cons.2 ⟨rfl, hstages⟩
        · rw [hwl, hsame, hlines]

/-- A sequence of stages that is not stuck completes all of them, or those up to the one that
declines, and then its lines are what the completed ones make by themselves. If it does not start
with the conformance stage, its first stage declines and the lines stay as they are. -/
theorem sequence_stops_cleanly (variant : Variant) (stages : List Stage) (lines : Lines) :
    (∀ outcome, sequence variant stages lines = some outcome →
      outcome.completed <+: stages ∧
      (outcome.declined? = none → outcome.completed = stages) ∧
      ∀ declined, outcome.declined? = some declined →
        outcome.completed ++ [declined.stage] <+: stages ∧
        ∃ before, sequence variant outcome.completed lines = some before ∧
          before.declined? = none ∧ before.lines = outcome.lines) ∧
    ∀ first rest, stages = first :: rest → first ≠ .conformance →
      ∃ outcome, sequence variant stages lines = some outcome ∧ outcome.completed = [] ∧
        outcome.declined? = some ⟨first, .noClassDeclaration⟩ ∧ outcome.lines = lines := by
  constructor
  · intro outcome h
    rcases runAll_stops h with ⟨hnone, hall⟩ | ⟨declined, before, hsome, hstages, hrun, hend, hsame⟩
    · rw [hnone, hall]
      exact ⟨List.prefix_refl _, fun _ => rfl, fun declined hd => by cases hd⟩
    · rw [hsome]
      refine ⟨(List.prefix_append ..).trans hstages, ?_, ?_⟩
      · intro hnone
        cases hnone
      · intro other ho
        rw [Option.some.injEq] at ho
        subst ho
        exact ⟨hstages, before, hrun, hend, hsame⟩
  · rintro first rest rfl hfirst
    have hv := @apply_of_classless variant lines {} first hfirst rfl
    obtain ⟨outcome, hrun, hlines, -, hcompleted, hdeclined⟩ := runAll_of_declined rest hv
    exact ⟨outcome, hrun, hcompleted, hdeclined, hlines.trans (apply_lines_of_declined hv)⟩

def titled : Lines :=
  ["class TitleView: UIView \x7b\n", "\t@IBOutlet weak var title: UILabel!\n", "\x7d\n"]

/-- Where the setter stage runs twice, the page object has nothing left to add and what follows it
does not run; where a setter stage comes first, nothing runs. -/
theorem sequence_stops_cleanly_twice :
    (∃ outcome, sequence .qa
        [.conformance, .identifierSetter, .identifierSetter, .pageObject, .conformance] titled =
          some outcome ∧
      outcome.declined? = some ⟨.pageObject, .noOutlets⟩ ∧ outcome.lines ≠ titled ∧
      outcome.completed ++ [.pageObject] <+:
        [.conformance, .identifierSetter, .identifierSetter, .pageObject, .conformance] ∧
      ∃ before, sequence .qa outcome.completed titled = some before ∧
        before.declined? = none ∧ before.lines = outcome.lines) ∧
    ∃ outcome, sequence .dev [.identifierSetter, .conformance] titled = some outcome ∧
      outcome.completed = [] ∧
      outcome.declined? = some ⟨.identifierSetter, .noClassDeclaration⟩ ∧
      outcome.lines = titled := by
  have hrun : ∃ outcome, sequence .qa
      [.conformance, .identifierSetter, .identifierSetter, .pageObject, .conformance] titled =
        some outcome ∧
      outcome.declined? = some ⟨.pageObject, .noOutlets⟩ ∧ outcome.lines ≠ titled :=
    ⟨_, rfl, by decide, by decide⟩
  obtain ⟨outcome, hsome, hdeclined, hchanged⟩ := hrun
  refine ⟨⟨outcome, hsome, hdeclined, hchanged, ?_⟩, ?_⟩
  · exact ((sequence_stops_cleanly .qa _ titled).1 outcome hsome).2.2 _ hdeclined
  · exact (sequence_stops_cleanly .dev _ titled).2 _ _ rfl (by decide)

end Stage

end OutletWiring

import OutletWiring.Proofs.Conformance.Stuck
import OutletWiring.Proofs.Run.Course

/-!
# Runs that stay within their lines

A run in `Option` gives nothing where it would reach past the end of its lines. It always gives what
the plain run gives, so a run never reaches past the end. What can go wrong in it is only that a
declaration is left with too few words for the capability, and that takes a class whose interface
protocol is named like the constraint to classes.
-/

namespace OutletWiring

/-- Past the end of the lines there is nothing. -/
instance : Reach Option where
  reach place length := if place ≤ length then some () else none

theorem reach_eq_some {place length : Nat} (h : place ≤ length) :
    (reach place length : Option Unit) = some () :=
  if_pos h

namespace Lines

variable {lines : Lines}

theorem insertBlockM_eq_some {index : Nat} (h : index ≤ lines.length) (block : Lines) :
    (lines.insertBlockM index block : Option Lines) = some (lines.insertBlock index block) := by
  rw [insertBlockM, reach_eq_some h]
  rfl

theorem appendBlockM_eq_some (lines block : Lines) :
    (lines.appendBlockM block : Option Lines) = some (lines.appendBlock block) :=
  insertBlockM_eq_some (Nat.le_refl _) block

end Lines

/-! ## The conformance stage -/

namespace Conformance

open Lines (ClassDeclaration)

variable {variant : Variant} {lines : Lines} {declared : ClassDeclaration}

theorem importFrameworkM_eq_some {classIndex : Nat} (h : classIndex ≤ lines.length) :
    (importFrameworkM variant lines classIndex : Option (Lines × Nat)) =
      some (importFramework variant lines classIndex) := by
  rw [importFrameworkM, reach_eq_some h, Option.bind_eq_bind, Option.bind_some]
  cases hf : frameworkImport? variant lines classIndex with
  | none =>
    rw [importFramework_of_none hf]
    rfl
  | some found =>
    obtain ⟨index, importLine⟩ := found
    obtain ⟨module, -, -, hi⟩ := frameworkImport?_eq_some hf
    have hle := Nat.le_of_lt (lt_of_firstImport? hi).2
    simp [Lines.insertBlockM_eq_some hle, importFramework_of_some hf]

theorem reachLine_classDeclaration (lines : Lines) :
    ((lines.findKind? .classDeclaration).forM lines.reachLine : Option Unit) = some () := by
  cases hk : lines.findKind? .classDeclaration with
  | none => rfl
  | some index => exact reach_eq_some (Lines.lt_length_of_findKind? hk)

theorem runM_eq_some (variant : Variant) (lines : Lines) (subject : Subject) :
    (runM variant lines subject : Option Stage.Result) = some (run variant lines subject) := by
  cases hc : lines.classDeclaration? with
  | none =>
    simp only [run, runM, hc, reachLine_classDeclaration]
    split_ifs <;> rfl
  | some declared =>
    obtain ⟨hk, -⟩ := Lines.classDeclaration?_eq_some_iff.1 hc
    have himport := @importFrameworkM_eq_some variant lines declared.index
      (Nat.le_of_lt (Lines.lt_length_of_findKind? hk))
    obtain ⟨line, hline, -⟩ := exists_declaration variant hc
    have hplace : ((importFramework variant lines declared.index).1.reachLine
        (((importFramework variant lines declared.index).1.protocol?
          (Naming.viewProtocol declared.name)).getD
            (importFramework variant lines declared.index).2) : Option Unit) = some () :=
      reach_eq_some (List.getElem?_eq_some_iff.1 hline).1
    have hd : declareAt? (importFramework variant lines declared.index).1
        (((importFramework variant lines declared.index).1.protocol?
          (Naming.viewProtocol declared.name)).getD
            (importFramework variant lines declared.index).2) =
        declaredIn variant lines declared := rfl
    rw [run_of_some hc]
    simp only [runM, isEmpty_of_classDeclaration? hc, hc, reachLine_classDeclaration, himport,
      hplace, hd, Bool.false_eq_true, if_false, Option.bind_eq_bind, Option.bind_some]
    cases declaredIn variant lines declared <;> rfl

end Conformance

/-! ## The setter and page object stages -/

namespace IdentifierSetter

variable {variant : Variant} {subject : Subject} {lines : Lines}

/-- The bindings grow with the cursor, so each is put in within the lines before it. -/
theorem bindMissingM_eq_some {cursor : Nat} (h : cursor ≤ lines.length) (outlets : List Outlet) :
    (bindMissingM lines cursor outlets : Option Bound) =
      some (bindMissing lines cursor outlets) := by
  induction outlets generalizing lines cursor with
  | nil => rfl
  | cons outlet outlets ih =>
    rw [bindMissingM, bindMissing_cons]
    split_ifs
    · rw [ih h]
      rfl
    · have hnext : cursor + (Identifiers.bindingLines outlet).length ≤
          (lines.insertBlock cursor (Identifiers.bindingLines outlet)).length := by
        rw [Lines.length_insertBlock]
        omega
      simp only [Lines.insertBlockM_eq_some h, Option.bind_eq_bind, Option.bind_some, ih hnext]
      rfl

/-- A section comment that the cases come after is itself a line. -/
theorem casesIndex_le {index : Nat} (h : index < lines.length) :
    casesIndex lines index ≤ lines.length := by
  unfold casesIndex
  split_ifs with hcomment
  · obtain ⟨line, hline, -⟩ := (Option.any_eq_true ..).1 hcomment
    exact (List.getElem?_eq_some_iff.1 hline).1
  · exact h

theorem addCasesM_eq_some (subject : Subject) (lines : Lines) :
    (addCasesM subject lines : Option Lines) = some (addCases subject lines) := by
  unfold addCases addCasesM
  cases he : lines.enum? subject.enumName with
  | none => exact Lines.appendBlockM_eq_some lines _
  | some index =>
    obtain ⟨hlt, -⟩ := List.findIdx?_eq_some_iff_getElem.1 he
    exact Lines.insertBlockM_eq_some (casesIndex_le hlt) _

theorem writeFreshM_eq_some (subject : Subject) (lines : Lines) :
    (writeFreshM subject lines : Option Stage.Result) = some (writeFresh subject lines) := by
  simp only [writeFreshM, Lines.appendBlockM_eq_some, Option.bind_eq_bind, Option.bind_some]
  rfl

theorem extendExistingM_eq_some (variant : Variant) (subject : Subject) {index : Nat}
    (h : index < lines.length) :
    (extendExistingM variant subject lines index : Option Stage.Result) =
      some (extendExisting variant subject lines index) := by
  simp only [extendExistingM, bindMissingM_eq_some h, addCasesM_eq_some, Option.bind_eq_bind,
    Option.bind_some, Option.pure_def, ← apply_ite some]
  rfl

theorem runM_eq_some (variant : Variant) (lines : Lines) (subject : Subject) :
    (runM variant lines subject : Option Stage.Result) = some (run variant lines subject) := by
  simp only [run, runM]
  split_ifs
  · rfl
  · rfl
  · cases hs : lines.setter? with
    | none => exact writeFreshM_eq_some _ lines
    | some index => exact extendExistingM_eq_some variant _ (Lines.lt_length_of_findKind? hs)

end IdentifierSetter

theorem PageObject.runM_eq_some (variant : Variant) (lines : Lines) (subject : Subject) :
    (runM variant lines subject : Option Stage.Result) = some (run variant lines subject) := by
  unfold run runM
  rw [Lines.appendBlockM_eq_some]
  split_ifs <;> rfl

/-! ## The run -/

namespace Stage

variable {variant : Variant} {lines : Lines} {subject : Subject}

theorem applyM_eq_some (stage : Stage) (variant : Variant) (lines : Lines) (subject : Subject) :
    (stage.applyM variant lines subject : Option Result) =
      some (stage.apply variant lines subject) := by
  cases stage with
  | conformance => exact Conformance.runM_eq_some variant lines subject
  | identifierSetter => exact IdentifierSetter.runM_eq_some variant lines subject
  | pageObject => exact PageObject.runM_eq_some variant lines subject

/-- Run the stages in turn; nothing if one reaches past the end of the lines, and no outcome if one
is stuck. -/
def runAll? (variant : Variant) (lines : Lines) (subject : Subject) (stages : List Stage) :
    Option (Option Outcome) :=
  runAllM variant lines subject stages

theorem runAll?_eq (variant : Variant) (lines : Lines) (subject : Subject) (stages : List Stage) :
    runAll? variant lines subject stages = some (runAll variant lines subject stages) := by
  induction stages generalizing lines subject with
  | nil => rfl
  | cons stage stages ih =>
    have hrest : ∀ lines subject, (runAllM variant lines subject stages : Option (Option Outcome)) =
        some (runAll variant lines subject stages) := ih
    simp only [runAll?, runAllM, runAll_cons, applyM_eq_some, Option.bind_eq_bind, Option.bind_some]
    cases (stage.apply variant lines subject).verdict with
    | completed => simp [hrest]
    | declined reason => rfl
    | stuck => rfl

/-- A run stays within its lines, and it is stuck only on the declaration of an interface protocol
that is named like the constraint to classes. The declaration of a class always takes the capability,
and a name without a comma is never that of the constraint. -/
theorem sequence_within_lines (variant : Variant) (lines : Lines) :
    runAll? variant lines {} standard = some (sequence variant standard lines) ∧
      (sequence variant standard lines = none → ∃ declared,
        lines.classDeclaration? = some declared ∧
          Naming.viewProtocol declared.name = Line.Mark.classOnlyListed ∧
          ∃ line ∈ (Conformance.importFramework variant lines declared.index).1,
            Line.declaresProtocol (Naming.viewProtocol declared.name) line = true ∧
              Conformance.addCapability? line = none) ∧
      ∀ declared, lines.classDeclaration? = some declared →
        (∃ line, lines[declared.index]? = some line ∧
          Conformance.addCapability? line ≠ none) ∧
        (',' ∉ declared.name → sequence variant standard lines ≠ none) := by
  refine ⟨runAll?_eq variant lines {} standard, ?_, ?_⟩
  · intro hnone
    obtain ⟨declared, hc, hd⟩ :=
      Conformance.exists_declared_of_stuck (verdict_of_sequence_eq_none hnone)
    exact ⟨declared, hc, Conformance.stuck_declaration hc hd⟩
  · intro declared hc
    obtain ⟨-, line, hline, -⟩ := Lines.classDeclaration?_eq_some_iff.1 hc
    refine ⟨⟨line, hline, Conformance.addCapability?_of_classDeclaration? hc hline⟩, ?_⟩
    intro hcomma hnone
    obtain ⟨other, hother, hd⟩ :=
      Conformance.exists_declared_of_stuck (verdict_of_sequence_eq_none hnone)
    obtain rfl : declared = other := by simpa [hc] using hother
    have hname := (Conformance.stuck_declaration hc hd).1
    refine hcomma (Naming.mem_of_mem_viewProtocol ?_)
    rw [hname]
    decide

/-- A class whose interface protocol would be named `AnyObject,`, and a declaration of that protocol
which holds little else. -/
def namedLikeConstraint : Lines :=
  ["class AnyObject,Controller: B \x7b\n", "protocol AnyObject, AnyObject, AnyObject,"]

theorem sequence_within_lines_namedLikeConstraint :
    sequence .qa standard namedLikeConstraint = none ∧
      ∃ declared, namedLikeConstraint.classDeclaration? = some declared ∧
        Naming.viewProtocol declared.name = Line.Mark.classOnlyListed ∧
        ∃ line ∈ (Conformance.importFramework .qa namedLikeConstraint declared.index).1,
          Line.declaresProtocol (Naming.viewProtocol declared.name) line = true ∧
            Conformance.addCapability? line = none := by
  have hnone : sequence .qa standard namedLikeConstraint = none := by decide +kernel
  exact ⟨hnone, (sequence_within_lines .qa namedLikeConstraint).2.1 hnone⟩

end Stage

end OutletWiring

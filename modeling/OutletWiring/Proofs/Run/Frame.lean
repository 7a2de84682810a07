import OutletWiring.Proofs.Conformance
import OutletWiring.Proofs.Page.Block
import OutletWiring.Proofs.Run.Course
import OutletWiring.Proofs.Setter.Placement

/-!
# A run only inserts

Three stages edit the same lines by index, each after the ones before it have moved them. What comes
of the lines of a file is told here at once: at most one declaration takes the capability, at most
one import line is put in, and everything else goes between the lines or behind them, in places
named in terms of the lines themselves.

The last line is terminated for a block that comes right after it. Lines that are put in after the
last line do not terminate it: a signature of the setter that ends the file stays without a
terminator, in the middle of the lines that come out.
-/

namespace OutletWiring

open Lines (Additions Ending terminateLast)

namespace Conformance

variable {variant : Variant} {lines edited conformed : Lines}

/-- The import goes in front of a line, so the last line is the same with and without it. -/
theorem Conformed.terminateLast_sublist (h : Conformed variant lines edited conformed)
    (ending : Ending) : (terminateLast ending edited).Sublist (terminateLast ending conformed) := by
  have hinsert : ∀ {rest : Lines} {index : Nat} (line : Text), index < rest.length →
      (terminateLast ending rest).Sublist
        (terminateLast ending (rest.take index ++ line :: rest.drop index)) := by
    intro rest index line hlt
    have hdrop : rest.drop index ≠ [] := by simpa using hlt
    nth_rewrite 1 [← List.take_append_drop index rest]
    rw [Lines.terminateLast_append _ _ hdrop, Lines.terminateLast_append _ _ (List.cons_ne_nil _ _),
      ← List.singleton_append, Lines.terminateLast_append _ _ hdrop]
    exact (List.sublist_append_right ..).append_left _
  cases h with
  | unchanged => exact List.Sublist.refl _
  | declared => exact List.Sublist.refl _
  | imported hc hm hi he => exact hinsert _ (length_of_declareAt? he ▸ (lt_of_firstImport? hi).2)
  | importTarget hc hm hi => exact hinsert _ (lt_of_firstImport? hi).2

theorem Conformed.sublist (h : Conformed variant lines edited conformed) :
    edited.Sublist conformed := by
  have hinsert : ∀ {rest : Lines} (index : Nat) (line : Text),
      rest.Sublist (rest.take index ++ line :: rest.drop index) := by
    intro rest index line
    nth_rewrite 1 [← List.take_append_drop index rest]
    exact (List.sublist_cons_self ..).append_left _
  cases h with
  | unchanged => exact List.Sublist.refl _
  | declared => exact List.Sublist.refl _
  | imported => exact hinsert ..
  | importTarget => exact hinsert ..

/-- The class that the stage has found is named by a word. -/
theorem not_mem_className (variant : Variant) (lines : Lines) :
    ' ' ∉ (run variant lines {}).subject.className := by
  cases hc : lines.classDeclaration? with
  | none =>
    obtain ⟨reason, hrun⟩ := run_of_none variant {} hc
    simp [hrun]
  | some declared =>
    rw [run_subject_of_some hc]
    obtain ⟨-, line, -, hline⟩ := Lines.classDeclaration?_eq_some_iff.1 hc
    exact (Line.className?_eq_some hline).2

end Conformance

/-! ## The page object -/

namespace PageObject

/-- The additions with the page object of a subject after them. -/
def withPage (variant : Variant) (lines : Lines) (subject : Subject) (additions : Additions) :
    Additions :=
  additions.append lines (Page.block variant subject) (Page.terminated_block variant subject)

theorem run_subject (variant : Variant) (lines : Lines) (subject : Subject) :
    (run variant lines subject).subject = subject := by
  rcases run_cases variant lines subject with ⟨-, _, hrun⟩ | ⟨-, hrun⟩ <;> rw [hrun]

/-- The stage adds the page object after what was added before, or nothing. -/
theorem run_apply (variant : Variant) (lines : Lines) (subject : Subject) (additions : Additions) :
    (run variant (additions.apply lines) subject).lines = additions.apply lines ∨
      (run variant (additions.apply lines) subject).lines =
        (withPage variant lines subject additions).apply lines := by
  rcases run_cases variant (additions.apply lines) subject with ⟨-, _, hrun⟩ | ⟨-, hrun⟩
  · rw [hrun]
    exact .inl rfl
  · rw [hrun]
    exact .inr (Additions.appendBlock_apply additions lines (Page.block_ne_nil variant subject)
      (Page.terminated_block variant subject))

end PageObject

/-! ## The run -/

namespace Stage

open Conformance (Conformed)
open IdentifierSetter (Adds Placed)
open PageObject (withPage)

variable {variant : Variant} {lines : Lines} {outcome : Outcome}

/-- The setter stage adds to the lines that the first stage leaves, and a page object may follow. -/
theorem Course.exists_additions (h : Course variant lines outcome) :
    ∃ additions : Additions,
      Adds (Conformance.run variant lines {}).lines outcome.subject additions ∧
        (outcome.lines = additions.apply (Conformance.run variant lines {}).lines ∨
          outcome.lines = (withPage variant (Conformance.run variant lines {}).lines
            outcome.subject additions).apply (Conformance.run variant lines {}).lines) := by
  obtain ⟨additions, hadds, happly⟩ := @IdentifierSetter.run_adds variant
    (Conformance.run variant lines {}).lines _ (Conformance.not_mem_className variant lines)
  cases h with
  | conformance hfirst hlines hsubject hends =>
    refine ⟨IdentifierSetter.nothing, IdentifierSetter.adds_nothing .., .inl ?_⟩
    rw [IdentifierSetter.apply_nothing, hlines]
  | identifierSetter hf hfirst hs hsecond hlines hsubject hends =>
    subst hf hs
    exact ⟨additions, hsubject ▸ hadds, .inl (hlines.trans happly)⟩
  | pageObject hf hfirst hs hsecond ht hthird hlines hsubject hends =>
    subst hf hs ht
    rw [PageObject.run_subject] at hsubject
    rw [happly] at hlines
    rw [hlines, hsubject]
    exact ⟨additions, hadds, PageObject.run_apply ..⟩
  | complete hf hfirst hs hsecond ht hthird hlines hsubject hends =>
    subst hf hs ht
    rw [PageObject.run_subject] at hsubject
    rw [happly] at hlines
    rw [hlines, hsubject]
    exact ⟨additions, hadds, PageObject.run_apply ..⟩

theorem Course.verdict_ne_stuck (h : Course variant lines outcome) :
    (Conformance.run variant lines {}).verdict ≠ .stuck := by
  cases h with
  | conformance hfirst => simp [hfirst]
  | identifierSetter hf hfirst => simp [← hf, hfirst]
  | pageObject hf hfirst => simp [← hf, hfirst]
  | complete hf hfirst => simp [← hf, hfirst]

/-- What comes out of a run is the lines with the capability on their target, in their order and
with nothing but insertions, of which each has its place. The last line is terminated if a block is
added at the end and nothing was put in right after that line. -/
theorem sequence_only_inserts (h : sequence variant standard lines = some outcome) :
    ∃ edited conformed additions, Conformed variant lines edited conformed ∧
      Placed conformed outcome.subject.enumName additions.gaps ∧
      outcome.lines = Additions.apply additions conformed ∧
      (if additions.closes conformed then terminateLast additions.ending edited else edited).Sublist
        outcome.lines := by
  have hcourse := course_of_sequence h
  obtain ⟨edited, hconformed⟩ := Conformance.conformed_run hcourse.verdict_ne_stuck
  obtain ⟨additions, hadds, hlines⟩ := hcourse.exists_additions
  have hframe : ∀ all : Additions,
      outcome.lines = all.apply (Conformance.run variant lines {}).lines →
        (if all.closes (Conformance.run variant lines {}).lines then terminateLast all.ending edited
          else edited).Sublist outcome.lines := by
    intro all happly
    refine .trans ?_ (happly ▸ all.base_sublist_apply (Conformance.run variant lines {}).lines)
    unfold Additions.base
    split_ifs
    · exact hconformed.terminateLast_sublist all.ending
    · exact hconformed.sublist
  rcases hlines with hlines | hlines
  · exact ⟨edited, _, additions, hconformed, hadds.placed, hlines, hframe _ hlines⟩
  · exact ⟨edited, _, withPage variant _ outcome.subject additions, hconformed, hadds.placed, hlines,
      hframe _ hlines⟩

/-- A file that is wired already, with an import, an interface protocol and an enum, and one outlet
more than it binds. -/
def wiredBefore : Lines :=
  ["import UIKit\n", "protocol LoginView: AnyObject \x7b\n", "\x7d\n",
    "class LoginViewController: UIViewController \x7b\n", "\t@IBOutlet weak var name: UILabel!\n",
    "\t@IBOutlet weak var next: UIButton!\n", "\x7d\n",
    "extension LoginViewController: UITestablePage \x7b\n",
    "\ttypealias UIElementType = UIElements.LoginAccessibilityIdentifier\n",
    "\tfunc setAccessibilityIdentifiers() \x7b\n", "\t\tmakeViewTestable(name, using: .name)\n",
    "\t\x7d\n", "\x7d\n", "\tenum LoginAccessibilityIdentifier: String, UIElement \x7b\n",
    "\t\t// MARK: - LoginViewController\n", "\t\tcase name\n", "\t\x7d"]

theorem not_stuck_wiredBefore : (Conformance.run .dev wiredBefore {}).verdict ≠ .stuck := by
  decide +kernel

theorem sequence_only_inserts_wiredBefore :
    ∃ outcome, sequence .dev standard wiredBefore = some outcome ∧
      ∃ edited conformed additions, Conformed .dev wiredBefore edited conformed ∧
        Placed conformed outcome.subject.enumName additions.gaps ∧
        outcome.lines = Additions.apply additions conformed ∧
        (if additions.closes conformed then terminateLast additions.ending edited
          else edited).Sublist outcome.lines := by
  obtain ⟨outcome, h⟩ := exists_sequence not_stuck_wiredBefore
  exact ⟨outcome, h, sequence_only_inserts h⟩

/-- A file that ends in the signature of its setter, without a terminator. -/
def endsInSignature : Lines :=
  ["class A: B \x7b\n", "\t@IBOutlet weak var x: T!\n", "func setAccessibilityIdentifiers()"]

/-- Blocks are added at the end, but the last line of the file is not terminated for them: the
binding that is put in after it comes first. -/
theorem signature_not_terminated :
    ∃ outcome ∈ sequence .qa standard endsInSignature, outcome.completed = standard ∧
      ¬ List.Sublist ["class A: B, AccessibilityIdentifiable \x7b\n".toList,
        "\t@IBOutlet weak var x: T!\n".toList,
        "func setAccessibilityIdentifiers()\n".toList] outcome.lines := by
  decide +kernel

end Stage

end OutletWiring

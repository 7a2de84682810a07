import OutletWiring.Proofs.Lines.Written
import OutletWiring.Proofs.Run.WellCut
import Mathlib.Logic.Relation

/-!
# Stages write in the terminator of the file

The setter stage and the page stage put blocks into a file or add them at its end, in the terminator
that the file has, which it keeps (`Wires.extends`). So a file in which every line ends alike stays
so, however often these stages run over it.
-/

namespace OutletWiring

open Lines (Ending WrittenIn Extends Firm Filled Uniform terminated terminateLast)
open Punctuation (breaks_lineBreak)

/-! ## What is written -/

namespace Identifiers

theorem writtenIn_bindings {outlets : List Outlet}
    (h : ∀ outlet ∈ outlets, Text.Lacks .lineBreak outlet.name) :
    ∀ line ∈ outlets.flatMap bindingLines, WrittenIn .newline line := by
  rw [List.forall_mem_flatMap]
  intro outlet hmem
  exact Lines.writtenIn_of_lacks (Lines.terminated_compose _)
    (lacks_bindingLines breaks_lineBreak (h outlet hmem))

variable {subject : Subject} (h : subject.Lacks .lineBreak)
include h

theorem writtenIn_caseLines : ∀ line ∈ caseLines subject, WrittenIn .newline line :=
  Lines.writtenIn_of_lacks (Lines.terminated_compose _) (lacks_caseLines breaks_lineBreak h)

theorem writtenIn_enumBlock : ∀ line ∈ enumBlock subject, WrittenIn .newline line :=
  Lines.writtenIn_of_lacks (Lines.terminated_compose _) (lacks_enumBlock breaks_lineBreak h)

theorem writtenIn_setterBlock : ∀ line ∈ setterBlock subject, WrittenIn .newline line :=
  Lines.writtenIn_of_lacks (Lines.terminated_compose _) (lacks_setterBlock breaks_lineBreak h)

end Identifiers

theorem Page.writtenIn_block {variant : Variant} {subject : Subject}
    (hv : variant ∈ Catalogue.standard) (h : subject.Lacks .lineBreak) :
    ∀ line ∈ block variant subject, WrittenIn .newline line := by
  have hmodules : ∀ module ∈ variant.viewModules, Text.Lacks .lineBreak module := by
    revert variant
    decide
  exact Lines.writtenIn_of_lacks (terminated_block variant subject)
    (lacks_block breaks_lineBreak h hmodules)

/-! ## The setter stage -/

namespace IdentifierSetter

open Identifiers

variable {variant : Variant} {lines : Lines} {subject : Subject} {index : Nat}

/-- The stage adds a block right behind the last line of the file: the setter if there is none, or
the enum if there is none and something is bound in a setter above the last line. -/
def Closes (lines : Lines) (after : Subject) : Prop :=
  ∀ index ∈ lines.setter?, index + 1 < lines.length ∧ after.outlets ≠ [] ∧
    (lines.insertBlock (index + 1) (after.outlets.flatMap bindingLines)).enum? after.enumName = none

instance (lines : Lines) (after : Subject) : Decidable (Closes lines after) :=
  inferInstanceAs (Decidable (∀ _ ∈ _, _ ∧ _ ∧ _))

theorem extends_writeFresh (hf : lines.Firm)
    (hn : (writeFresh subject lines).subject.Lacks .lineBreak) :
    Extends lines.ending (terminateLast lines.ending lines) (writeFresh subject lines).lines := by
  have hsetter := writtenIn_setterBlock hn
  refine (hf.extends_appendBlock hsetter).appendBlock ?_ (writtenIn_enumBlock hn)
  exact Lines.terminated_getLast?_appendBlock (setterBlock_ne_nil _) (terminated_setterBlock _)

theorem extends_addCases (hf : lines.Firm) (hs : lines.setter? = some index)
    (ho : subject.outlets ≠ []) (hn : subject.Lacks .lineBreak) :
    Extends lines.ending
      (if Closes lines subject then terminateLast lines.ending lines else lines)
      (addCases subject
        (lines.insertBlock (index + 1) (subject.outlets.flatMap bindingLines))) := by
  have hi : index < lines.length := Lines.lt_length_of_findKind? hs
  have hbindings := writtenIn_bindings hn.outlets
  have hending : (lines.insertBlock (index + 1) (subject.outlets.flatMap bindingLines)).ending =
      lines.ending := (hf.extends.insertBlock hbindings).ending
  cases henum : (lines.insertBlock (index + 1) (subject.outlets.flatMap bindingLines)).enum?
      subject.enumName with
  | none =>
    rw [addCases_of_none henum]
    split_ifs with hclosed
    · -- the last line is still the last one, and is terminated below the bindings
      have hlt : index + 1 < lines.length := (hclosed index hs).1
      unfold Lines.appendBlock Lines.appendBlockM
      rw [hending, hf.terminateLast_insertBlock hlt]
      exact (hf.extends_terminateLast.insertBlock hbindings).insertBlock (writtenIn_enumBlock hn)
    · -- the bindings stand behind the last line, so the enum does not terminate it any more
      have hend : lines.length ≤ index + 1 := by
        by_contra hlt
        refine hclosed fun other hother => ?_
        obtain rfl : index = other := Option.some.inj (hs.symm.trans hother)
        exact ⟨by omega, ho, henum⟩
      refine (hf.extends.insertBlock hbindings).appendBlock ?_ (writtenIn_enumBlock hn)
      exact Lines.terminated_getLast?_insertBlock hend (bindings_ne_nil ho)
        fun line hline => (hbindings line hline).plain.terminated
  | some place =>
    have hopen : ¬ Closes lines subject := by
      intro hclosed
      have hnone := (hclosed index hs).2.2
      rw [henum] at hnone
      cases hnone
    rw [if_neg hopen, addCases_of_some henum]
    exact (hf.extends.insertBlock hbindings).insertBlock (writtenIn_caseLines hn)

theorem extends_run (hf : lines.Firm)
    (hc : (run variant lines subject).verdict = .completed)
    (hn : (run variant lines subject).subject.Lacks .lineBreak) :
    Extends lines.ending
      (if Closes lines (run variant lines subject).subject then terminateLast lines.ending lines
        else lines)
      (run variant lines subject).lines := by
  rcases run_cases variant lines subject with ⟨-, hv⟩ | ⟨hs, hrun⟩ | ⟨index, hs, hrun⟩
  · exact absurd hc hv
  · have hclosed : Closes lines (run variant lines subject).subject := by
      intro index hindex
      rw [hs] at hindex
      cases hindex
    rw [if_pos hclosed]
    rw [hrun] at hn ⊢
    exact extends_writeFresh hf hn
  · by_cases ho : (run variant lines subject).subject.outlets = []
    · have hopen : ¬ Closes lines (run variant lines subject).subject :=
        fun hclosed => (hclosed index hs).2.1 ho
      rw [if_neg hopen, run_lines_of_outlets_nil ho]
      exact hf.extends
    · rw [hrun] at ho hn ⊢
      rw [extendExisting_lines hs ho]
      exact extends_addCases hf hs ho hn

end IdentifierSetter

/-! ## One stage -/

namespace Stage

variable {stage : Stage} {lines after : Lines} {result : Result} {mark : Ending}

def Closes (stage : Stage) (lines : Lines) (after : Subject) : Prop :=
  match stage with
  | conformance => False
  | identifierSetter => IdentifierSetter.Closes lines after
  | pageObject => True

instance (lines : Lines) (after : Subject) : (stage : Stage) → Decidable (stage.Closes lines after)
  | conformance => inferInstanceAs (Decidable False)
  | identifierSetter => inferInstanceAs (Decidable (IdentifierSetter.Closes lines after))
  | pageObject => inferInstanceAs (Decidable True)

/-- The setter stage or the page stage of a standard variant completes with `result`, in which no
name holds part of a terminator. -/
structure Wires (stage : Stage) (lines : Lines) (result : Result) : Prop where
  stage_ne : stage ≠ .conformance
  applied : ∃ variant ∈ Catalogue.standard, ∃ subject, stage.apply variant lines subject = result
  completed : result.verdict = .completed
  unbroken : result.subject.Lacks .lineBreak

/-- The lines of the file are kept, with the last one terminated if a block is added behind it. -/
theorem Wires.extends (h : Wires stage lines result) (hf : lines.Firm) :
    Extends lines.ending
      (if stage.Closes lines result.subject then terminateLast lines.ending lines else lines)
      result.lines := by
  obtain ⟨hstage, ⟨variant, hv, subject, rfl⟩, hc, hn⟩ := h
  cases stage with
  | conformance => exact absurd rfl hstage
  | identifierSetter => exact IdentifierSetter.extends_run hf hc hn
  | pageObject =>
    rw [if_pos (by trivial)]
    have happly : apply .pageObject variant lines subject =
      PageObject.run variant lines subject := rfl
    rcases PageObject.run_cases variant lines subject with ⟨-, _, hrun⟩ | ⟨-, hrun⟩
    · rw [happly, hrun] at hc
      cases hc
    · rw [happly, hrun] at hn ⊢
      exact hf.extends_appendBlock (Page.writtenIn_block hv hn)

/-! ## Any number of stages -/

def Rewrites (lines after : Lines) : Prop :=
  ∃ stage result, Wires stage lines result ∧ result.lines = after

theorem Rewrites.firm (h : Rewrites lines after) (hf : lines.Firm) :
    after.Firm ∧ after.ending = lines.ending := by
  obtain ⟨stage, result, hwires, rfl⟩ := h
  have hextends := hwires.extends hf
  exact ⟨hextends.firm, hextends.ending⟩

theorem Rewrites.uniform (h : Rewrites lines after) (hu : Uniform mark lines) (hne : lines ≠ []) :
    Uniform mark after ∧ after ≠ [] := by
  obtain ⟨stage, result, hwires, rfl⟩ := h
  have hfilled := (hwires.extends hu.firm).filled
  rw [hu.terminateLast_eq, ite_self, hu.ending_eq hne] at hfilled
  refine ⟨hu.filled hfilled, ?_⟩
  intro hnil
  rw [hnil] at hfilled
  exact hne hfilled.eq_nil

theorem firm_of_rewrites (h : Relation.ReflTransGen Rewrites lines after) (hf : lines.Firm) :
    after.Firm ∧ after.ending = lines.ending := by
  induction h with
  | refl => exact ⟨hf, rfl⟩
  | tail _ hstep ih =>
    obtain ⟨hfirm, hending⟩ := hstep.firm ih.1
    exact ⟨hfirm, hending.trans ih.2⟩

theorem uniform_of_rewrites (h : Relation.ReflTransGen Rewrites lines after)
    (hu : Uniform mark lines) (hne : lines ≠ []) : Uniform mark after ∧ after ≠ [] := by
  induction h with
  | refl => exact ⟨hu, hne⟩
  | tail _ hstep ih => exact hstep.uniform ih.1 ih.2

/-- A setter stage or page stage that completes writes in the terminator of the file. What it puts
in ends in that terminator and holds no other, the lines of the file are kept, and the last one is
terminated if a block is added right behind it. The file has the same terminator afterwards, and
after any number of such stages; if all lines of a file end alike, so they do then. -/
theorem wires_in_own_ending {lines : Lines} (hf : lines.Firm) :
    (∀ stage result, Wires stage lines result →
      Filled (WrittenIn lines.ending)
          (if stage.Closes lines result.subject then terminateLast lines.ending lines else lines)
          result.lines ∧
        result.lines.ending = lines.ending) ∧
      ∀ after, Relation.ReflTransGen Rewrites lines after →
        after.ending = lines.ending ∧
          ∀ mark, Uniform mark lines → lines ≠ [] → Uniform mark after := by
  constructor
  · intro stage result h
    have hextends := h.extends hf
    exact ⟨hextends.filled, hextends.ending⟩
  · intro after h
    exact ⟨(firm_of_rewrites h hf).2, fun mark hu hne => (uniform_of_rewrites h hu hne).1⟩

/-- A class with an outlet in lines that end in returns and newlines, and one line more. -/
def returned (last : Text) : Lines :=
  ["class A: B \x7b\r\n", "\t@IBOutlet weak var x: T!\r\n", last]

def returnedWired (last : Text) : Result :=
  apply identifierSetter .qa (returned last) { className := "A" }

def returnedPaged (last : Text) : Result :=
  apply pageObject .qa (returnedWired last).lines (returnedWired last).subject

/-- An unterminated last line is terminated for the setter. A file in which every line is terminated
so already stays so with a setter, an enum and a page object. -/
theorem wires_in_own_ending_returned :
    (returned "\x7d").Firm ∧
      Filled (WrittenIn .returnNewline) (returned "\x7d\r\n") (returnedWired "\x7d").lines ∧
      (returned "\x7d\r\n").Firm ∧ Uniform .returnNewline (returned "\x7d\r\n") ∧
      Uniform .returnNewline (returnedPaged "\x7d\r\n").lines := by
  have hopen : (returned "\x7d").Firm := by decide
  have hopenWired : Wires identifierSetter (returned "\x7d") (returnedWired "\x7d") :=
    ⟨by decide, ⟨.qa, by decide, _, rfl⟩, by decide, by decide, by decide, by decide⟩
  have hfirm : (returned "\x7d\r\n").Firm := by decide
  have hwired : Wires identifierSetter (returned "\x7d\r\n") (returnedWired "\x7d\r\n") :=
    ⟨by decide, ⟨.qa, by decide, _, rfl⟩, by decide, by decide, by decide, by decide⟩
  have hpaged : Wires pageObject (returnedWired "\x7d\r\n").lines (returnedPaged "\x7d\r\n") :=
    ⟨by decide, ⟨.qa, by decide, _, rfl⟩, by decide, by decide, by decide, by decide⟩
  have huniform : Uniform .returnNewline (returned "\x7d\r\n") := by decide
  have hrun : Relation.ReflTransGen Rewrites (returned "\x7d\r\n")
      (returnedPaged "\x7d\r\n").lines :=
    .tail (.single ⟨_, _, hwired, rfl⟩) ⟨_, _, hpaged, rfl⟩
  refine ⟨hopen, ((wires_in_own_ending hopen).1 _ _ hopenWired).1, hfirm, huniform, ?_⟩
  exact ((wires_in_own_ending hfirm).2 _ hrun).2 .returnNewline huniform (by decide)

def setterSignature : Text :=
  "func setAccessibilityIdentifiers()"

/-- The enum is added at the end, but the signature of the setter, the last line of the file, is not
terminated for it: the binding that is put in after it comes first. And a page object that is added
to no lines at all is written with newlines. -/
theorem signature_not_closed :
    (returned setterSignature).Firm ∧ (returnedWired setterSignature).verdict = .completed ∧
      (Identifiers.enumBlock (returnedWired setterSignature).subject).map
        (Lines.withEnding .returnNewline) <:+ (returnedWired setterSignature).lines ∧
      ¬ (returned (setterSignature ++ "\r\n")).Sublist (returnedWired setterSignature).lines ∧
      Uniform .returnNewline [] ∧
      ¬ Uniform .returnNewline (apply pageObject .qa [] (returnedWired "\x7d").subject).lines := by
  decide +kernel

end Stage

end OutletWiring

import OutletWiring.Proofs.Conformance.WellCut
import OutletWiring.Proofs.Run.Changed
import OutletWiring.Proofs.Setter.WellCut

/-!
# Whether a run keeps lines well cut

There are three ways in which lines that were well cut come out of a run otherwise. A declaration of
two words takes the capability behind its newline. The name of a class that stands last in its line
holds the newline, and every page object holds the name. And lines that go right behind an
unterminated last line do not terminate it. A run keeps lines well cut exactly if none of the three
occurs (`Stage.wellCut_iff_not_disrupted`).
-/

namespace OutletWiring

open Lines (WellCut)

/-! ## The page object -/

namespace PageObject

variable {variant : Variant} {lines : Lines} {subject : Subject}

theorem run_lines_of_outlets_nil (h : subject.outlets = []) :
    (run variant lines subject).lines = lines := by
  rcases run_cases variant lines subject with ⟨-, _, hrun⟩ | ⟨ho, -⟩
  · rw [hrun]
  · exact absurd h ho

theorem run_lines_of_outlets (hc : subject.hasClass = true) (ho : subject.outlets ≠ []) :
    (run variant lines subject).lines = lines.appendBlock (Page.block variant subject) := by
  rcases run_cases variant lines subject with ⟨hnone, -⟩ | ⟨-, hrun⟩
  · simp [hc, ho] at hnone
  · rw [hrun]

/-- Where a page object is added, lines stay well cut exactly if they are and the name of the class
holds no newline. -/
theorem wellCut_run_iff (hc : subject.hasClass = true) (ho : subject.outlets ≠ [])
    (hm : ∀ module ∈ variant.viewModules, '\n' ∉ module)
    (hn : '\n' ∉ subject.className → subject.Lacks .newline) :
    WellCut (run variant lines subject).lines ↔ WellCut lines ∧ '\n' ∉ subject.className := by
  rw [run_lines_of_outlets hc ho]
  constructor
  · intro h
    have hblock := h.complete_of_appendBlock (Page.block_ne_nil variant subject)
      (Page.terminated_block variant subject)
    exact ⟨h.of_appendBlock (Page.block_ne_nil variant subject),
      Page.newline_not_mem_of_block hblock⟩
  · rintro ⟨h, hname⟩
    exact h.appendBlock (Page.complete_block (hn hname) hm)

end PageObject

/-! ## The run -/

namespace Stage

variable {variant : Variant} {lines : Lines} {outcome : Outcome}

/-- The ways in which a run leaves lines that are no longer well cut. -/
inductive Disrupted (variant : Variant) (lines : Lines) : Prop
  /-- The declaration that takes the capability is two words and a newline. -/
  | declaration {declared : Lines.ClassDeclaration} (hc : lines.classDeclaration? = some declared)
      (hs : Conformance.Splits lines (Conformance.target lines declared))
  /-- The name of the class holds the newline of its line, and a page object is written. -/
  | className (hn : '\n' ∈ (extended variant lines).subject.className)
      (ho : (extended variant lines).subject.outlets ≠ [])
  /-- Bindings or cases go behind a last line that is not terminated. -/
  | lastLine (ho : (extended variant lines).subject.outlets ≠ [])
      (he : IdentifierSetter.Exposed (conformed variant lines).lines
        (extended variant lines).subject.enumName)

theorem disrupted_iff :
    Disrupted variant lines ↔
      (∃ declared ∈ lines.classDeclaration?,
        Conformance.Splits lines (Conformance.target lines declared)) ∨
      (extended variant lines).subject.outlets ≠ [] ∧
        ('\n' ∈ (extended variant lines).subject.className ∨
          IdentifierSetter.Exposed (conformed variant lines).lines
            (extended variant lines).subject.enumName) := by
  constructor
  · intro h
    cases h with
    | declaration hc hs => exact .inl ⟨_, hc, hs⟩
    | className hn ho => exact .inr ⟨ho, .inl hn⟩
    | lastLine ho he => exact .inr ⟨ho, .inr he⟩
  · rintro (⟨declared, hc, hs⟩ | ⟨ho, hn | he⟩)
    · exact .declaration hc hs
    · exact .className hn ho
    · exact .lastLine ho he

instance (variant : Variant) (lines : Lines) : Decidable (Disrupted variant lines) :=
  decidable_of_iff' _ disrupted_iff

/-- The lines that a run ends with are those of its third stage, which leaves them if there is
nothing to add. -/
theorem Course.lines_eq (h : Course variant lines outcome) :
    outcome.lines = (PageObject.run variant (extended variant lines).lines
      (extended variant lines).subject).lines := by
  cases h with
  | conformance hfirst hlines hsubject hends =>
    obtain ⟨reason, hrun⟩ := Conformance.run_of_none variant {} (eq_none_of_declined hfirst)
    rw [hlines, extended, conformed, hrun]
    rfl
  | identifierSetter hf hfirst hs hsecond hlines hsubject hends =>
    subst hf hs
    have hclass : (conformed variant lines).subject.hasClass = true := by
      simpa [Subject.hasClass] using className_ne_nil_of_completed hfirst
    have hwired := IdentifierSetter.wiredOutlets_eq_nil_of_declined hclass hsecond
    rw [hlines, extended, IdentifierSetter.run_of_wiredOutlets_nil hclass hwired,
      PageObject.run_lines_of_outlets_nil rfl]
  | pageObject hf hfirst hs hsecond ht hthird hlines hsubject hends =>
    subst hf hs ht
    exact hlines
  | complete hf hfirst hs hsecond ht hthird hlines hsubject hends =>
    subst hf hs ht
    exact hlines

theorem conformed_fresh (variant : Variant) (lines : Lines) :
    (conformed variant lines).subject.outlets = [] ∧
      (conformed variant lines).subject.enumName = [] := by
  cases hc : lines.classDeclaration? with
  | none =>
    obtain ⟨reason, hrun⟩ := Conformance.run_of_none variant {} hc
    rw [conformed, hrun]
    exact ⟨rfl, rfl⟩
  | some declared =>
    rw [conformed, Conformance.run_subject_of_some hc]
    exact ⟨rfl, rfl⟩

theorem hasClass_of_outlets (ho : (extended variant lines).subject.outlets ≠ []) :
    (extended variant lines).subject.hasClass = true := by
  cases hc : lines.classDeclaration? with
  | none =>
    obtain ⟨reason, hrun⟩ := Conformance.run_of_none variant {} hc
    rw [extended, conformed, hrun] at ho
    exact absurd rfl ho
  | some declared =>
    have hname := name_ne_nil_of_declared hc
    simp [Subject.hasClass, (extended_className hc).1, hname]

/-- Lines that are well cut after the first stage come out of the others so, exactly if the name of
the class holds no newline and nothing goes behind an unterminated last line. -/
theorem wellCut_pageObject_iff (hv : variant.Worded) (h : WellCut (conformed variant lines).lines)
    (ho : (extended variant lines).subject.outlets ≠ []) :
    WellCut (PageObject.run variant (extended variant lines).lines
        (extended variant lines).subject).lines ↔
      '\n' ∉ (extended variant lines).subject.className ∧
        ¬ IdentifierSetter.Exposed (conformed variant lines).lines
          (extended variant lines).subject.enumName := by
  obtain ⟨houtlets, henum⟩ := conformed_fresh variant lines
  have hspace := Conformance.not_mem_className variant lines
  have hlacks : '\n' ∉ (extended variant lines).subject.className →
      (extended variant lines).subject.Lacks .newline := by
    intro hname
    rw [(IdentifierSetter.run_className ..).1] at hname
    exact IdentifierSetter.lacks_newline_run h.2 hname houtlets henum
  rw [PageObject.wellCut_run_iff (hasClass_of_outlets ho) ho
    (fun module hm => (hv.2 module hm).2.1.1) hlacks, and_comm]
  refine and_congr_right fun hname => ?_
  exact IdentifierSetter.wellCut_run_iff h hspace houtlets ho (hlacks hname)

/-- A run keeps lines well cut exactly if it does not disrupt them. -/
theorem wellCut_iff_not_disrupted (hv : variant.Worded) (h : Course variant lines outcome)
    (hl : WellCut lines) (hne : ∀ line ∈ lines, line ≠ []) :
    WellCut outcome.lines ↔ ¬ Disrupted variant lines := by
  obtain ⟨edited, hconformed⟩ := Conformance.conformed_run h.verdict_ne_stuck
  have hfirst := hconformed.wellCut_iff hv.1 hl hne
  rw [h.lines_eq]
  constructor
  · intro hcut hdisrupted
    have hsecond : WellCut (extended variant lines).lines := by
      by_cases ho : (extended variant lines).subject.outlets = []
      · rwa [PageObject.run_lines_of_outlets_nil ho] at hcut
      · rw [PageObject.run_lines_of_outlets (hasClass_of_outlets ho) ho] at hcut
        exact hcut.of_appendBlock (Page.block_ne_nil _ _)
    have hconformed := IdentifierSetter.wellCut_of_run hsecond
    cases hdisrupted with
    | declaration hc hs => exact hfirst.1 hconformed ⟨_, hc, hs⟩
    | className hn ho => exact ((wellCut_pageObject_iff hv hconformed ho).1 hcut).1 hn
    | lastLine ho he => exact ((wellCut_pageObject_iff hv hconformed ho).1 hcut).2 he
  · intro hdisrupted
    have hconformed : WellCut (conformed variant lines).lines := by
      refine hfirst.2 ?_
      rintro ⟨declared, hc, hs⟩
      exact hdisrupted (.declaration hc hs)
    by_cases ho : (extended variant lines).subject.outlets = []
    · rw [PageObject.run_lines_of_outlets_nil ho, IdentifierSetter.run_lines_of_outlets_nil ho]
      exact hconformed
    · rw [wellCut_pageObject_iff hv hconformed ho]
      exact ⟨fun hn => hdisrupted (.className hn ho), fun he => hdisrupted (.lastLine ho he)⟩

/-- No line that comes out of a run is empty, if none was. -/
theorem Course.lines_ne_nil (h : Course variant lines outcome) (hne : ∀ line ∈ lines, line ≠ []) :
    ∀ line ∈ outcome.lines, line ≠ [] := by
  obtain ⟨edited, hconformed⟩ := Conformance.conformed_run h.verdict_ne_stuck
  obtain ⟨additions, -, hlines | hlines⟩ := h.exists_additions
  · rw [hlines]
    exact Lines.Additions.apply_ne_nil (hconformed.ne_nil hne)
  · rw [hlines]
    exact Lines.Additions.apply_ne_nil (hconformed.ne_nil hne)

end Stage

namespace Catalogue

/-- What a run over the lines of a text leaves is well cut, and is the lines of its own text,
exactly if the run does not disrupt the lines. -/
theorem dispatch_wellCut_iff {selector source : Text} {variant : Variant} {generated : Generated}
    (hr : standard.resolve? selector = some variant)
    (h : standard.dispatch selector (Lines.ofText source) = .ok generated) :
    (WellCut generated.lines ↔ ¬ Stage.Disrupted variant (Lines.ofText source)) ∧
      (Lines.reparse generated.lines = generated.lines ↔
        ¬ Stage.Disrupted variant (Lines.ofText source)) := by
  have hrun : variant.run (Lines.ofText source) = some generated := by
    rw [dispatch, hr] at h
    cases hg : variant.run (Lines.ofText source) with
    | none => simp [hg] at h
    | some found => simpa [hg] using h
  obtain ⟨outcome, hsequence, rfl⟩ := Option.map_eq_some_iff.1 hrun
  have hcourse := Stage.course_of_sequence hsequence
  have hne : ∀ line ∈ Lines.ofText source, line ≠ [] := fun line hline =>
    (Lines.single_of_mem_ofText hline).1
  have hworded := worded_of_mem_standard (List.mem_of_find?_eq_some hr)
  have hcut := Stage.wellCut_iff_not_disrupted hworded hcourse (Lines.wellCut_ofText source) hne
  exact ⟨hcut, (Lines.reparse_eq_self_iff (hcourse.lines_ne_nil hne)).trans hcut⟩

/-- A file that is wired already but for one outlet, and ends in a brace without a terminator. -/
def endsInBrace : Text :=
  "class A: B \x7b\n\t@IBOutlet weak var x: T!\n" ++
    "\tfunc setAccessibilityIdentifiers() \x7b\n\t\x7d\n\x7d"

theorem dispatch_wellCut_iff_endsInBrace :
    standard.resolve? Variant.qa.selector = some .qa ∧
      ¬ Stage.Disrupted .qa (Lines.ofText endsInBrace) ∧
      ∃ generated, standard.dispatch Variant.qa.selector (Lines.ofText endsInBrace) =
          .ok generated ∧
        generated.report.completed = Stage.standard ∧ WellCut generated.lines ∧
        Lines.reparse generated.lines = generated.lines := by
  have hr : standard.resolve? Variant.qa.selector = some .qa := rfl
  have hkept : ¬ Stage.Disrupted .qa (Lines.ofText endsInBrace) := by decide +kernel
  have hok : ∃ generated, standard.dispatch Variant.qa.selector (Lines.ofText endsInBrace) =
      .ok generated ∧ generated.report.completed = Stage.standard := ⟨_, rfl, by decide +kernel⟩
  obtain ⟨generated, hdispatch, hcompleted⟩ := hok
  obtain ⟨hcut, hsame⟩ := dispatch_wellCut_iff hr hdispatch
  exact ⟨hr, hkept, generated, hdispatch, hcompleted, hcut.2 hkept, hsame.2 hkept⟩

/-- The declaration of a class goes on in the next line, after two words. -/
def declaredInTwoWords : Text :=
  "class A:\n\tUIView \x7b\n\x7d\n"

/-- The name of a class stands last in its line, and there is an outlet to wire. -/
def namedLast : Text :=
  "final class A:\n\tUIView \x7b\n\t@IBOutlet weak var x: T!\n\x7d\n"

/-- The last line is the enum, opened below the setter and without a terminator. -/
def endsInEnum : Text :=
  "class A: B \x7b\n\t@IBOutlet weak var x: T!\n" ++
    "\tfunc setAccessibilityIdentifiers() \x7b \x7d\n\x7d\n" ++
    "enum AAccessibilityIdentifier: String, UIElement \x7b case y \x7d"

/-- What a run over the text leaves is not the lines of its own text. -/
def CutsAnew (source : Text) : Prop :=
  ∃ generated ∈ (standard.dispatch Variant.qa.selector (Lines.ofText source)).toOption,
    ¬ WellCut generated.lines ∧ Lines.reparse generated.lines ≠ generated.lines

instance (source : Text) : Decidable (CutsAnew source) :=
  inferInstanceAs (Decidable (∃ _ ∈ _, _))

/-- Each of the three can happen in a run that is not stuck. -/
theorem dispatch_cuts_lines_anew :
    CutsAnew declaredInTwoWords ∧ CutsAnew namedLast ∧ CutsAnew endsInEnum := by
  decide +kernel

end Catalogue

end OutletWiring

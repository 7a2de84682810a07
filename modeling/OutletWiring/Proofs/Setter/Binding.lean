import OutletWiring.Proofs.Identifiers.Probe
import OutletWiring.Proofs.Line.Kind
import OutletWiring.Proofs.Lines.Insertion
import OutletWiring.Stage.IdentifierSetter

/-!
# Binding what is missing

The setter stage binds one outlet after the other, each time looking through the lines as they are by
then and putting the new lines in at a place that moves on. It comes to one block at the first place
(`bindMissing_lines`). Where no two of the outlets share a probe, the outlets that are bound are
those that no line bound before (`bindMissing_outlets`).
-/

namespace OutletWiring

namespace Identifiers

theorem plain_bindingLines (outlet : Outlet) : ∀ line ∈ bindingLines outlet, Lines.Plain line := by
  have hplain : ∀ target name, Lines.Plain (bindingRow target name) := fun target name =>
    Lines.plain_row (by rw [List.getLast?_append]; simp)
  intro line hline
  rw [bindingLines_eq, List.mem_cons] at hline
  rcases hline with rfl | hline
  · exact hplain _ _
  · split_ifs at hline
    · rw [List.mem_singleton] at hline
      exact hline ▸ hplain _ _
    · simp at hline

theorem unbroken_bindingProbe {outlet : Outlet} (h : Lines.Unbroken outlet.name) :
    Lines.Unbroken (Line.bindingProbe outlet) := by
  have hmark : Lines.Unbroken Line.Mark.binding := by decide
  simp only [Lines.Unbroken] at h hmark ⊢
  unfold Line.bindingProbe
  split_ifs <;> simp [h, hmark]

theorem bindingProbe_ne_nil (outlet : Outlet) : Line.bindingProbe outlet ≠ [] := by
  rw [bindingProbe_eq, binding_eq]
  simp

theorem ignoresEnding_bindingProbe {outlet : Outlet} (h : Lines.Unbroken outlet.name) :
    Lines.IgnoresEnding (Text.occursIn (Line.bindingProbe outlet)) :=
  Lines.ignoresEnding_occursIn (unbroken_bindingProbe h) (bindingProbe_ne_nil outlet)

/-- The lines that bind an outlet hold its own probe. -/
theorem exists_probe_bindingLines (outlet : Outlet) :
    ∃ line ∈ bindingLines outlet, Text.occursIn (Line.bindingProbe outlet) line = true := by
  have hrow : bindingRow outlet.target outlet.name ∈ bindingLines outlet := by
    rw [bindingLines_eq]
    exact List.mem_cons_self
  refine ⟨_, hrow, ?_⟩
  rw [Text.occursIn_iff]
  unfold Line.bindingProbe Outlet.target bindingRow Draft.row
  split_ifs
  · exact ⟨List.replicate 2 '\t', ['\n'], by simp⟩
  · exact ⟨List.replicate 2 '\t', " using: ." ++ outlet.name ++ ")" ++ ['\n'], by simp⟩

end Identifiers

namespace IdentifierSetter

open Identifiers (bindingLines caseLines enumBlock setterBlock plain_bindingLines
  ignoresEnding_bindingProbe)
open Line (bindingProbe)

/-- The binding of one outlet is taken for that of another. -/
def Shadows (a b : Outlet) : Prop :=
  ∃ line ∈ bindingLines a, Text.occursIn (bindingProbe b) line = true

theorem isBound_iff {lines : Lines} {outlet : Outlet} :
    isBound lines outlet = true ↔
      ∃ line ∈ lines, Text.occursIn (bindingProbe outlet) line = true := by
  simp [isBound]

theorem isBound_insertBlock {lines block : Lines} {index : Nat} {outlet : Outlet}
    (h : Lines.Unbroken outlet.name) :
    isBound (lines.insertBlock index block) outlet = true ↔
      isBound lines outlet = true ∨ isBound block outlet = true := by
  have hprobe := ignoresEnding_bindingProbe h
  simp only [isBound_iff, Lines.mem_insertBlock]
  constructor
  · rintro ⟨line, hline | ⟨raw, hraw, rfl⟩, hocc⟩
    · exact .inl ⟨line, hline, hocc⟩
    · rw [hprobe.on_withEnding] at hocc
      exact .inr ⟨raw, hraw, hocc⟩
  · rintro (⟨line, hline, hocc⟩ | ⟨raw, hraw, hocc⟩)
    · exact ⟨line, .inl hline, hocc⟩
    · refine ⟨_, .inr ⟨raw, hraw, rfl⟩, ?_⟩
      rwa [hprobe.on_withEnding]

theorem plain_head_bindings (outlets : List Outlet) :
    ∀ line ∈ (outlets.flatMap bindingLines).head?, Lines.Plain line := by
  intro line hline
  obtain ⟨outlet, -, hmem⟩ := List.mem_flatMap.1 (List.mem_of_mem_head? hline)
  exact plain_bindingLines outlet line hmem

/-- All that is bound comes to one block at the first place, in the order of the outlets. -/
theorem bindMissing_lines (lines : Lines) {cursor : Nat} (hc : cursor ≤ lines.length)
    (outlets : List Outlet) :
    (bindMissing lines cursor outlets).lines =
      lines.insertBlock cursor ((bindMissing lines cursor outlets).outlets.flatMap bindingLines) := by
  induction outlets generalizing lines cursor with
  | nil => simp [bindMissing_nil, Lines.insertBlock_nil]
  | cons outlet outlets ih =>
    by_cases hb : isBound lines outlet = true
    · simpa [bindMissing_cons, hb] using ih lines hc
    · have hlen : cursor + (bindingLines outlet).length ≤
          (lines.insertBlock cursor (bindingLines outlet)).length := by
        rw [Lines.length_insertBlock]
        omega
      have hplain : ∀ line ∈ (bindingLines outlet).head?, Lines.Plain line := fun line hline =>
        plain_bindingLines outlet line (List.mem_of_mem_head? hline)
      simp only [bindMissing_cons, hb, Bool.false_eq_true, if_false, List.flatMap_cons]
      rw [ih _ hlen, Lines.insertBlock_insertBlock hc hplain]

theorem bindMissing_outlets_subset (lines : Lines) (cursor : Nat) (outlets : List Outlet) :
    (bindMissing lines cursor outlets).outlets.Sublist outlets := by
  induction outlets generalizing lines cursor with
  | nil => simp [bindMissing_nil]
  | cons outlet outlets ih =>
    by_cases hb : isBound lines outlet = true
    · simpa [bindMissing_cons, hb] using (ih lines cursor).cons outlet
    · simpa [bindMissing_cons, hb] using (ih _ _).cons_cons outlet

/-- Outlets that do not shadow each other are bound exactly if no line bound them before. -/
theorem bindMissing_outlets {outlets : List Outlet} (hu : ∀ o ∈ outlets, Lines.Unbroken o.name)
    (hs : outlets.Pairwise fun a b => ¬ Shadows a b) (lines : Lines) (cursor : Nat) :
    (bindMissing lines cursor outlets).outlets = outlets.filter (!isBound lines ·) := by
  induction outlets generalizing lines cursor with
  | nil => simp [bindMissing_nil]
  | cons outlet outlets ih =>
    rw [List.pairwise_cons] at hs
    have hu' : ∀ o ∈ outlets, Lines.Unbroken o.name := fun o ho => hu o (by simp [ho])
    by_cases hb : isBound lines outlet = true
    · simp [bindMissing_cons, hb, ih hu' hs.2]
    · have hsame : ∀ o ∈ outlets,
          isBound (lines.insertBlock cursor (bindingLines outlet)) o = isBound lines o := by
        intro o ho
        rw [Bool.eq_iff_iff, isBound_insertBlock (hu' o ho)]
        refine or_iff_left ?_
        rw [isBound_iff]
        exact hs.1 o ho
      have hfilter : outlets.filter
          (!isBound (lines.insertBlock cursor (bindingLines outlet)) ·) =
          outlets.filter (!isBound lines ·) :=
        List.filter_congr fun o ho => by rw [hsame o ho]
      simp [bindMissing_cons, hb, ih hu' hs.2, hfilter]

theorem isBound_bindMissing_of_isBound {lines : Lines} {outlet : Outlet}
    (hu : Lines.Unbroken outlet.name) {cursor : Nat} (hc : cursor ≤ lines.length)
    (outlets : List Outlet) (h : isBound lines outlet = true) :
    isBound (bindMissing lines cursor outlets).lines outlet = true := by
  rw [bindMissing_lines lines hc, isBound_insertBlock hu]
  exact .inl h

/-- Every outlet is bound afterwards. -/
theorem isBound_bindMissing {outlets : List Outlet} (hu : ∀ o ∈ outlets, Lines.Unbroken o.name)
    {lines : Lines} {cursor : Nat} (hc : cursor ≤ lines.length) :
    ∀ o ∈ outlets, isBound (bindMissing lines cursor outlets).lines o = true := by
  induction outlets generalizing lines cursor with
  | nil => simp
  | cons outlet outlets ih =>
    have hu' : ∀ o ∈ outlets, Lines.Unbroken o.name := fun o ho => hu o (by simp [ho])
    have hhead : Lines.Unbroken outlet.name := hu outlet (by simp)
    by_cases hb : isBound lines outlet = true
    · have hlines : (bindMissing lines cursor (outlet :: outlets)).lines =
          (bindMissing lines cursor outlets).lines := by
        simp [bindMissing_cons, hb]
      rw [hlines, List.forall_mem_cons]
      exact ⟨isBound_bindMissing_of_isBound hhead hc outlets hb, ih hu' hc⟩
    · have hlines : (bindMissing lines cursor (outlet :: outlets)).lines =
          (bindMissing (lines.insertBlock cursor (bindingLines outlet))
            (cursor + (bindingLines outlet).length) outlets).lines := by
        simp [bindMissing_cons, hb]
      have hlen : cursor + (bindingLines outlet).length ≤
          (lines.insertBlock cursor (bindingLines outlet)).length := by
        rw [Lines.length_insertBlock]
        omega
      rw [hlines, List.forall_mem_cons]
      refine ⟨isBound_bindMissing_of_isBound hhead hlen outlets ?_, ih hu' hlen⟩
      rw [isBound_insertBlock hhead]
      exact .inr (isBound_iff.2 (Identifiers.exists_probe_bindingLines outlet))

/-- Nothing is written for outlets that are all bound. -/
theorem bindMissing_of_isBound {lines : Lines} {outlets : List Outlet}
    (h : ∀ o ∈ outlets, isBound lines o = true) (cursor : Nat) :
    (bindMissing lines cursor outlets).lines = lines ∧
      (bindMissing lines cursor outlets).outlets = [] := by
  induction outlets with
  | nil => simp [bindMissing_nil]
  | cons outlet outlets ih =>
    have hb := h outlet (by simp)
    simpa [bindMissing_cons, hb] using ih fun o ho => h o (by simp [ho])

/-! ## The ends of a run -/

theorem addCases_of_none {lines : Lines} {subject : Subject}
    (h : lines.enum? subject.enumName = none) :
    addCases subject lines = lines.appendBlock (enumBlock subject) := by
  rw [addCases, addCasesM, h, Lines.run_appendBlockM]

theorem addCases_of_some {lines : Lines} {subject : Subject} {index : Nat}
    (h : lines.enum? subject.enumName = some index) :
    addCases subject lines =
      lines.insertBlock (casesIndex lines index) (caseLines subject) := by
  rw [addCases, addCasesM, h, Lines.run_insertBlockM]

theorem lines_writeFresh (subject : Subject) (lines : Lines) :
    (writeFresh subject lines).lines =
      (lines.appendBlock (setterBlock (writeFresh subject lines).subject)).appendBlock
        (enumBlock (writeFresh subject lines).subject) :=
  rfl

/-- The cases of what was bound follow the bindings, if something was. -/
theorem lines_extendExisting (variant : Variant) (subject : Subject) (lines : Lines)
    (index : Nat) :
    (extendExisting variant subject lines index).lines =
      if (extendExisting variant subject lines index).subject.outlets.isEmpty then
        (bindMissing lines (index + 1) subject.outlets).lines
      else addCases (extendExisting variant subject lines index).subject
        (bindMissing lines (index + 1) subject.outlets).lines :=
  rfl

theorem run_of_wiredOutlets_nil {variant : Variant} {lines : Lines} {subject : Subject}
    (hc : subject.hasClass = true) (hw : wiredOutlets variant subject lines = []) :
    run variant lines subject = ⟨lines, { subject with outlets := [] }, .declined .noOutlets, []⟩ := by
  simp [run, runM, hc, hw]

section Wired

variable {variant : Variant} {lines : Lines} {subject : Subject} (hc : subject.hasClass = true)
  (hw : wiredOutlets variant subject lines ≠ [])
include hc hw

theorem run_of_setter_none (hs : lines.setter? = none) :
    run variant lines subject =
      writeFresh { subject with outlets := wiredOutlets variant subject lines } lines := by
  simp [run, runM, hc, hw, hs]

theorem run_of_setter_some {index : Nat} (hs : lines.setter? = some index) :
    run variant lines subject =
      extendExisting variant { subject with outlets := wiredOutlets variant subject lines } lines
        index := by
  simp [run, runM, hc, hw, hs]

/-- A run that finds every outlet bound leaves the lines and has no outlets left. -/
theorem run_of_isBound (hs : lines.setter? ≠ none)
    (hb : ∀ o ∈ wiredOutlets variant subject lines, isBound lines o = true) :
    (run variant lines subject).verdict = .completed ∧ (run variant lines subject).lines = lines ∧
      (run variant lines subject).subject.outlets = [] ∧
      (run variant lines subject).subject.alreadyGenerated = true := by
  obtain ⟨index, hindex⟩ := Option.ne_none_iff_exists'.1 hs
  obtain ⟨hlines, houtlets⟩ := bindMissing_of_isBound hb (index + 1)
  rw [run_of_setter_some hc hw hindex]
  simp [extendExisting, extendExistingM, hlines, houtlets]

end Wired

theorem wiredOutlets_eq_nil_of_declined {variant : Variant} {lines : Lines} {subject : Subject}
    {reason : Reason} (hc : subject.hasClass = true)
    (h : (run variant lines subject).verdict = .declined reason) :
    wiredOutlets variant subject lines = [] := by
  by_contra hw
  cases hs : lines.setter? with
  | none =>
    rw [run_of_setter_none hc hw hs] at h
    cases h
  | some index =>
    rw [run_of_setter_some hc hw hs] at h
    cases h

/-- A run that leaves no outlets to the page object has written nothing. -/
theorem run_lines_of_outlets_nil {variant : Variant} {lines : Lines} {subject : Subject}
    (ho : (run variant lines subject).subject.outlets = []) :
    (run variant lines subject).lines = lines := by
  by_cases hc : subject.hasClass = true
  · by_cases hw : wiredOutlets variant subject lines = []
    · rw [run_of_wiredOutlets_nil hc hw]
    · cases hs : lines.setter? with
      | none =>
        rw [run_of_setter_none hc hw hs] at ho
        exact absurd ho hw
      | some index =>
        rw [run_of_setter_some hc hw hs] at ho ⊢
        have hnil : (bindMissing lines (index + 1) (wiredOutlets variant subject lines)).outlets = [] :=
          ho
        have hlines := bindMissing_lines lines (Lines.lt_length_of_findKind? hs)
          (wiredOutlets variant subject lines)
        rw [hnil, List.flatMap_nil, Lines.insertBlock_nil] at hlines
        simp [extendExisting, extendExistingM, hnil, hlines]
  · simp [run, runM, hc]

/-- A run leaves the lines as they are, writes a new setter, or extends the one that is there. -/
theorem run_cases (variant : Variant) (lines : Lines) (subject : Subject) :
    ((run variant lines subject).lines = lines ∧
        (run variant lines subject).verdict ≠ .completed) ∨
      (lines.setter? = none ∧ run variant lines subject =
        writeFresh { subject with outlets := wiredOutlets variant subject lines } lines) ∨
      ∃ index, lines.setter? = some index ∧ run variant lines subject =
        extendExisting variant { subject with outlets := wiredOutlets variant subject lines } lines
          index := by
  by_cases hc : subject.hasClass = true
  · by_cases hw : wiredOutlets variant subject lines = []
    · exact .inl (by simp [run_of_wiredOutlets_nil hc hw])
    · cases hs : lines.setter? with
      | none => exact .inr (.inl ⟨rfl, run_of_setter_none hc hw hs⟩)
      | some index => exact .inr (.inr ⟨index, rfl, run_of_setter_some hc hw hs⟩)
  · exact .inl (by simp [run, runM, hc])

end IdentifierSetter

end OutletWiring

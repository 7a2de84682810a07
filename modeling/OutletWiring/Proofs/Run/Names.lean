import OutletWiring.Proofs.Capability
import OutletWiring.Proofs.Page.Block
import OutletWiring.Proofs.Run.Frame
import OutletWiring.Proofs.Run.Steady

/-!
# What is written between and after the lines

The names of a subject are clear if they hold no blank, no attribute and no colon. Then what a run
puts between the lines of a file stands there without being taken for a declaration, and what it
puts after them is neither an outlet nor the interface protocol.
-/

namespace OutletWiring

open Line (IsWord QuietLine QuietRow Beside)
open Lines (Ending withEnding)

/-- The name holds no blank, no attribute and no colon. -/
def Naming.Clear (name : Text) : Prop :=
  ∀ c ∈ name, Text.isBlank c = false ∧ c ≠ '@' ∧ c ≠ ':'

instance : DecidablePred Naming.Clear := fun _ => inferInstanceAs (Decidable (∀ _ ∈ _, _))

namespace Naming.Clear

variable {name : Text}

theorem isWord (h : Clear name) : IsWord name :=
  ⟨fun hm => absurd (h _ hm).1 (by decide),
    ⟨fun hm => absurd (h _ hm).1 (by decide), fun hm => absurd (h _ hm).1 (by decide)⟩,
    fun hm => (h _ hm).2.1 rfl⟩

theorem colon_not_mem (h : Clear name) : ':' ∉ name :=
  fun hm => (h _ hm).2.2 rfl

end Naming.Clear

structure Subject.Clear (subject : Subject) : Prop extends subject.Worded where
  className_colon : ':' ∉ subject.className
  outlets_colon : ∀ o ∈ subject.outlets, ':' ∉ o.name

namespace Line

variable {line : Text}

theorem kind_of_occursIn_binding (h : Text.occursIn Mark.binding line = true) :
    kind line = .setterSignature ∨ kind line = .binding := by
  unfold kind
  split_ifs <;> simp_all

theorem colon_mem_of_kind (h : kind line = .classDeclaration) : ':' ∈ line := by
  unfold kind at h
  split_ifs at h with _ _ _ _ _ _ hclass
  rw [Bool.and_eq_true, List.contains_iff_mem] at hclass
  exact hclass.2

theorem isImport_of_kind (h : kind line = .moduleImport) : isImport line = true := by
  unfold kind at h
  split_ifs at h
  assumption

theorem QuietLine.beside {name : Text} (h : QuietLine name line)
    (hc : kind line ≠ .classDeclaration) (hi : kind line ≠ .moduleImport) : Beside name line :=
  ⟨h.single, h.terminated, h.kind_ne_outlet, hc, hi, h.declaresProtocol_eq_false⟩

end Line

namespace Identifiers

open Line (Mark.binding)

theorem occursIn_binding_bindingLines (outlet : Outlet) :
    ∀ line ∈ bindingLines outlet, Text.occursIn Mark.binding line = true := by
  have hrow : ∀ target name, Text.occursIn Mark.binding (bindingRow target name) = true := by
    intro target name
    rw [Text.occursIn_iff]
    exact ⟨List.replicate 2 '\t', target ++ ", using: ." ++ name ++ ")" ++ ['\n'], by
      simp [bindingRow, Draft.row]⟩
  intro line hline
  rw [bindingLines_eq, List.mem_cons] at hline
  rcases hline with rfl | hline
  · exact hrow _ _
  · split_ifs at hline
    · rw [List.mem_singleton] at hline
      exact hline ▸ hrow _ _
    · cases hline

theorem beside_bindingLines {outlet : Outlet} (h : IsWord outlet.name) (name : Text)
    (ending : Ending) : ∀ line ∈ bindingLines outlet, Beside name (withEnding ending line) := by
  intro line hline
  have hocc : Text.occursIn Mark.binding (withEnding ending line) = true := by
    rw [(Lines.ignoresEnding_occursIn (by decide) (by decide)).on_withEnding]
    exact occursIn_binding_bindingLines outlet line hline
  have hquiet : QuietRow name line := (inertRow_bindingLines h line hline).quiet
  rcases Line.kind_of_occursIn_binding hocc with hk | hk <;>
    exact (hquiet.quietLine ending).beside (by simp [hk]) (by simp [hk])

section Clear

variable {subject : Subject} (h : subject.Clear)
include h

theorem colon_not_mem_cases {name : Text} (hn : name ∈ subject.cases) : ':' ∉ name := by
  simp only [Subject.cases, List.mem_append, List.mem_flatMap] at hn
  rcases hn with ⟨outlet, hmem, hn⟩ | hn
  · have ho := h.outlets_colon outlet hmem
    unfold Outlet.cases at hn
    split_ifs at hn
    · simp only [List.mem_cons, List.not_mem_nil, or_false] at hn
      rcases hn with rfl | rfl
      · exact ho
      · simp [Outlet.textFieldCase, ho]
    · rw [List.mem_singleton] at hn
      exact hn ▸ ho
  · split_ifs at hn
    · rw [List.mem_singleton] at hn
      exact hn ▸ fun hm => h.className_colon (Naming.mem_of_mem_cellIdentifier (by decide) hm)
    · cases hn

theorem beside_caseLines (name : Text) (ending : Ending) :
    ∀ line ∈ caseLines subject, Beside name (withEnding ending line) := by
  intro line hline
  have hquiet : QuietRow name line := (inertRow_caseLines h.toWorded line hline).quiet
  rw [caseLines_eq, List.mem_map] at hline
  obtain ⟨case, hcase, rfl⟩ := hline
  have hword := isWord_of_mem_cases h.toWorded hcase
  have hrow : withEnding ending (caseRow case) =
      List.replicate 2 '\t' ++ ("case " ++ case) ++ ending.text :=
    Line.withEnding_row (by simp [hword.2.1.2]) ending
  refine (hquiet.quietLine ending).beside (fun hk => ?_) fun hk => ?_
  · have hcolon := Line.colon_mem_of_kind hk
    rw [hrow] at hcolon
    cases ending <;> simp [colon_not_mem_cases h hcase, Ending.text] at hcolon
  · have himport := Line.isImport_of_kind hk
    have hmark : Line.Mark.importWord = 'i' :: ("mport" : Text) := by decide
    rw [hrow] at himport
    simp [Line.isImport, Text.trimStart, Text.isBlank, Text.afterPrefix?, hmark] at himport

end Clear

end Identifiers

/-! ## The subject of a run -/

namespace IdentifierSetter

open Identifiers

variable {variant : Variant} {lines : Lines} {subject : Subject}

theorem run_className (variant : Variant) (lines : Lines) (subject : Subject) :
    (run variant lines subject).subject.className = subject.className ∧
      (run variant lines subject).subject.viewKind = subject.viewKind := by
  unfold run runM
  simp only
  split_ifs
  · exact ⟨rfl, rfl⟩
  · exact ⟨rfl, rfl⟩
  · split <;> exact ⟨rfl, rfl⟩

theorem run_outlets_subset (h : subject.outlets = []) :
    (run variant lines subject).subject.outlets ⊆ wiredOutlets variant subject lines := by
  unfold run runM
  simp only
  split_ifs
  · exact h ▸ List.nil_subset _
  · exact List.Subset.refl _
  · split
    · exact List.Subset.refl _
    · exact (bindMissing_outlets_subset lines _ _).subset

/-- What the stage puts between the lines stands beside them. -/
theorem Adds.beside_gaps {after : Subject} {additions : Lines.Additions} (h : Adds lines after additions)
    (hc : after.Clear) (name : Text) : ∀ gap, ∀ line ∈ additions.gaps gap, Beside name line := by
  intro gap line hline
  obtain ⟨raw, hraw, ending, rfl⟩ := h.gaps gap line hline
  rcases List.mem_append.1 hraw with hraw | hraw
  · obtain ⟨outlet, hmem, hraw⟩ := List.mem_flatMap.1 hraw
    exact beside_bindingLines (hc.outlets outlet hmem) name ending raw hraw
  · exact beside_caseLines hc name ending raw hraw

theorem Adds.quiet_tail {after : Subject} {additions : Lines.Additions} (h : Adds lines after additions)
    (hw : after.Worded) (name : Text) : ∀ line ∈ additions.tail, QuietLine name line := by
  intro line hline
  obtain ⟨raw, hraw, ending, rfl⟩ := h.tail line hline
  rcases List.mem_append.1 hraw with hraw | hraw
  · exact (inertRow_setterBlock hw raw hraw).quiet.quietLine ending
  · exact (inertRow_enumBlock hw raw hraw).quiet.quietLine ending

end IdentifierSetter

end OutletWiring

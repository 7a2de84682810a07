import OutletWiring.Proofs.Conformance.Ending
import OutletWiring.Proofs.Lines.WellCut

/-!
# Whether a declaration stays one line

A declaration of two words that takes the capability gets its colon behind the newline, so if it was
terminated it is no longer one line. The stage keeps lines well cut exactly if it rewrites no such
line (`Conformed.wellCut_iff`).
-/

namespace OutletWiring

open Lines (Complete WellCut terminated)

namespace Conformance

open Line (Mark.capability)

variable {variant : Variant} {lines edited conformed : Lines} {line next : Text}

/-- A declaration of two words that takes the capability holds a newline before its end exactly if
it was terminated. -/
theorem newline_mem_of_pair (h : Lines.Single line) {first second : Text}
    (hw : Text.words line = [first, second]) :
    '\n' ∈ (pairLine first second).dropLast ↔ terminated line = true := by
  have hcapability : '\n' ∉ Mark.capability := by decide
  rw [pairLine_eq, List.dropLast_concat]
  constructor
  · intro hm
    have hline : '\n' ∈ line := by
      simp only [List.mem_append, hcapability, false_or] at hm
      rcases hm with (hm | hm) | hm | hm
      · exact (Text.infix_of_mem_words (by simp [hw])).subset hm
      · exact absurd hm (by decide)
      · exact absurd hm (by decide)
      · exact (Text.infix_of_mem_words (by simp [hw])).subset hm
    obtain ⟨init, c, rfl⟩ := (List.eq_nil_or_concat' line).resolve_left h.1
    have hinit := h.2
    rw [List.dropLast_concat] at hinit
    rw [List.mem_append, List.mem_singleton] at hline
    rw [← hline.resolve_left hinit]
    exact Lines.terminated_append_newline init
  · intro ht
    have hsecond : Lines.EndsIn (Lines.endingOf line) second :=
      Lines.EndsIn.last_word ⟨ht, rfl⟩ (show Text.words line = [first] ++ [second] from hw)
    obtain ⟨text, rfl⟩ := Lines.exists_append_newline hsecond.1
    simp

/-- Lines stay well cut when a declaration of two words takes the capability, exactly if it was not
terminated. -/
theorem wellCut_set_pairLine_iff (h : WellCut lines) {index : Nat}
    (hline : lines[index]? = some line) (hs : Lines.Single line) {first second : Text}
    (hw : Text.words line = [first, second]) :
    WellCut (lines.set index (pairLine first second)) ↔ ¬ terminated line = true := by
  have hpair := newline_mem_of_pair hs hw
  have hmem : pairLine first second ∈ lines.set index (pairLine first second) :=
    List.mem_set (List.getElem?_eq_some_iff.1 hline).1 _
  constructor
  · exact fun hcut ht => hcut.2 _ hmem (hpair.2 ht)
  · exact fun ht => h.set hline (mt hpair.1 ht) fun hterminated => absurd hterminated ht

/-- The declaration at the place would be taken apart: it has to take the capability, and its two
words leave no place for it but behind the newline. -/
def Splits (lines : Lines) (index : Nat) : Prop :=
  ∃ line ∈ lines[index]?, Text.occursIn Mark.capability line = false ∧
    terminated line = true ∧ (Text.words line).length = 2

instance (lines : Lines) (index : Nat) : Decidable (Splits lines index) :=
  inferInstanceAs (Decidable (∃ _ ∈ _, _))

theorem wellCut_declareAt?_iff (h : WellCut lines) (hne : ∀ line ∈ lines, line ≠ [])
    {index : Nat} {events : List Event}
    (he : declareAt? lines index = some (edited, events)) :
    WellCut edited ↔ ¬ Splits lines index := by
  obtain ⟨line, hline, -⟩ := declareAt?_eq_some he
  have hsingle : Lines.Single line :=
    ⟨hne line (List.mem_of_getElem? hline), h.2 line (List.mem_of_getElem? hline)⟩
  have hsplits : Splits lines index ↔ Text.occursIn Mark.capability line = false ∧
      terminated line = true ∧ (Text.words line).length = 2 := by
    simp [Splits, hline]
  rw [hsplits]
  rw [declareAt?_eq hline] at he
  split_ifs at he with hocc
  · rw [Option.some.injEq, Prod.mk.injEq] at he
    simpa [← he.1, hocc] using h
  · obtain ⟨next, hnext, hedited⟩ := Option.map_eq_some_iff.1 he
    obtain ⟨rfl, -⟩ := Prod.mk.inj hedited
    rw [Bool.not_eq_true] at hocc
    by_cases htwo : (Text.words line).length = 2
    · obtain ⟨first, second, hw⟩ := List.length_eq_two.1 htwo
      rw [eq_pairLine hw hnext, wellCut_set_pairLine_iff h hline hsingle hw]
      simp [htwo, hocc]
    · have hintact : '\n' ∉ next.dropLast := by
        rcases (single_of_addCapability? hsingle hnext).2 with hnext' | ⟨first, second, hw, -⟩
        · exact hnext'.2
        · exact absurd (by simp [hw]) htwo
      simp only [htwo, and_false, not_false_iff, iff_true]
      exact h.set hline hintact fun ht => (endsIn_of_addCapability? ⟨ht, rfl⟩ htwo hnext).1

/-- The import of a framework is a complete line and goes in front of another. -/
theorem wellCut_import_iff {module : Text} {index : Nat} (hm : '\n' ∉ module)
    (hi : index < edited.length) (ending : Lines.Ending) :
    WellCut (edited.take index ++
        Lines.withEnding ending (Line.importLine module) :: edited.drop index) ↔
      WellCut edited := by
  have himport : Complete (Lines.withEnding ending (Line.importLine module)) := by
    refine Lines.Complete.withEnding (Lines.complete_append_newline.2 ?_) ending
    have hword : '\n' ∉ Line.Mark.importWord := by decide
    simp [hword, hm]
  have hdrop : edited.drop index ≠ [] := by simpa using hi
  have hsplit : WellCut edited ↔ WellCut (edited.take index ++ edited.drop index) := by
    rw [List.take_append_drop]
  rw [hsplit, Lines.wellCut_append (List.cons_ne_nil _ _), Lines.wellCut_append hdrop,
    ← List.singleton_append, Lines.wellCut_append hdrop, List.forall_mem_singleton]
  simp [himport]

/-- The stage keeps lines well cut exactly if it takes no declaration apart. -/
theorem Conformed.wellCut_iff (hc : Conformed variant lines edited conformed)
    (hv : ∀ module ∈ variant.frameworkModule?, Line.IsWord module)
    (h : WellCut lines) (hne : ∀ line ∈ lines, line ≠ []) :
    WellCut conformed ↔
      ¬ ∃ declared ∈ lines.classDeclaration?, Splits lines (target lines declared) := by
  cases hc with
  | unchanged hc => simpa [hc] using h
  | declared hc he => simpa [hc] using wellCut_declareAt?_iff h hne he
  | @imported declared edited events module index hc hm hi he =>
    have hlt : index < edited.length :=
      length_of_declareAt? he ▸ (lt_of_firstImport? hi).2
    rw [wellCut_import_iff (hv module hm).2.1.1 hlt]
    simpa [hc] using wellCut_declareAt?_iff h hne he
  | importTarget hc hm hi hp he =>
    rw [((quiet_importLine (hv _ hm)).quietLine _).declaresProtocol_eq_false] at hp
    cases hp

end Conformance

end OutletWiring

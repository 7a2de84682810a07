import OutletWiring.Proofs.Conformance
import OutletWiring.Proofs.Lines.Filling

/-!
# Lines that conform already

Lines are steady for a subject if the conformance stage, knowing nothing, leaves them as they are
and finds the class of the subject in them. They stay so when lines are put in between that declare
nothing, and lines after them that do not declare the interface protocol.
-/

namespace OutletWiring

/-- The line stands among those of a file without being taken for a declaration of its own. -/
structure Line.Beside (name line : Text) : Prop where
  single : Lines.Single line
  terminated : Lines.terminated line = true
  kind_ne_outlet : kind line ≠ .outlet
  kind_ne_classDeclaration : kind line ≠ .classDeclaration
  kind_ne_moduleImport : kind line ≠ .moduleImport
  declaresProtocol_eq_false : declaresProtocol name line = false

namespace Conformance

open Lines (ClassDeclaration Filled)
open Line (Beside)

variable {variant : Variant} {lines : Lines} {subject : Subject}

/-- The stage leaves the lines as they are and finds the class of the subject. -/
def Steady (variant : Variant) (lines : Lines) (subject : Subject) : Prop :=
  (run variant lines {}).verdict ≠ .stuck ∧ (run variant lines {}).lines = lines ∧
    (run variant lines {}).subject.className = subject.className ∧
    (run variant lines {}).subject.viewKind = subject.viewKind

instance (variant : Variant) (lines : Lines) (subject : Subject) :
    Decidable (Steady variant lines subject) :=
  inferInstanceAs (Decidable (_ ∧ _))

/-- The declared class leaves nothing to do. -/
structure Conforms (variant : Variant) (lines : Lines) (declared : ClassDeclaration) : Prop where
  declares : lines.classDeclaration? = some declared
  framework : frameworkImport? variant lines declared.index = none
  capability : ∃ events, declareAt? lines (target lines declared) = some (lines, events)

theorem Conforms.run_eq {declared : ClassDeclaration} (h : Conforms variant lines declared) :
    ∃ events, run variant lines subject = ⟨lines, found subject declared, .completed, events⟩ := by
  obtain ⟨events, hevents⟩ := h.capability
  have hdeclared := (declaredIn_of_none h.framework).trans hevents
  exact ⟨events, by rw [run_of_some h.declares, hdeclared]⟩

theorem Steady.exists_conforms (h : Steady variant lines subject) (hc : subject.className ≠ []) :
    ∃ declared, Conforms variant lines declared ∧ declared.name = subject.className := by
  obtain ⟨hv, hl, hn, -⟩ := h
  cases hd : lines.classDeclaration? with
  | none =>
    obtain ⟨reason, hrun⟩ := run_of_none variant {} hd
    rw [hrun] at hn
    exact absurd hn.symm hc
  | some declared =>
    rw [run_of_some hd] at hv hl hn
    cases hin : declaredIn variant lines declared with
    | none => simp [hin] at hv
    | some result =>
      obtain ⟨conforming, events⟩ := result
      simp only [hin] at hl hn
      subst hl
      cases hf : frameworkImport? variant conforming declared.index with
      | some found =>
        -- the lines would be one more
        obtain ⟨index, line⟩ := found
        rw [declaredIn, importFramework_of_some hf] at hin
        have hlen := length_of_declareAt? hin
        rw [Lines.length_insertBlock] at hlen
        simp at hlen
      | none =>
        rw [declaredIn_of_none hf] at hin
        exact ⟨declared, ⟨hd, hf, events, hin⟩, hn⟩

/-! ## More lines -/

section Filled

variable {name : Text} {base filled : Lines} (hf : Filled (Beside name) base filled)
include hf

/-- A search that passes over what was put in and over the tail finds what it found. -/
theorem getElem?_of_findIdx? (tail : Lines) {q : Text → Bool}
    (hq : ∀ line, Beside name line → q line = false) {index : Nat}
    (hi : base.findIdx? q = some index) :
    ∃ place, (filled ++ tail).findIdx? q = some place ∧ (filled ++ tail)[place]? = base[index]? ∧
      Filled (Beside name) (base.take index) ((filled ++ tail).take place) := by
  obtain ⟨place, hplace, heq, htake⟩ := hf.findIdx?_eq_some hq hi
  have hlt : place < filled.length := (List.findIdx?_eq_some_iff_getElem.1 hplace).1
  refine ⟨place, by simp [List.findIdx?_append, hplace], ?_, ?_⟩
  · rw [List.getElem?_append_left hlt, heq]
  · rwa [List.take_append_of_le_length (Nat.le_of_lt hlt)]

theorem frameworkImport?_filled {tail : Lines} {index place : Nat}
    (htake : Filled (Beside name) (base.take index) ((filled ++ tail).take place))
    (h : frameworkImport? variant base index = none) :
    frameworkImport? variant (filled ++ tail) place = none := by
  unfold frameworkImport? at h ⊢
  cases hm : variant.frameworkModule? with
  | none => rfl
  | some module =>
    simp only [hm, Option.bind_eq_bind, Option.bind_some] at h ⊢
    by_cases hany : base.any (Text.occursIn (Text.trimEnd (Line.importLine module))) = true
    · have : (filled ++ tail).any (Text.occursIn (Text.trimEnd (Line.importLine module))) = true := by
        rw [List.any_eq_true] at hany ⊢
        obtain ⟨line, hline, hocc⟩ := hany
        exact ⟨line, List.mem_append_left _ (hf.sublist.subset hline), hocc⟩
      rw [if_pos this]
    · rw [if_neg hany] at h
      have himport : Lines.firstImport? (base.take index) = none := by
        cases hi : Lines.firstImport? (base.take index) with
        | none => rfl
        | some before => simp [hi] at h
      have hplace : Lines.firstImport? ((filled ++ tail).take place) = none :=
        htake.findIdx?_eq_none (fun line hline => by simp [hline.kind_ne_moduleImport]) himport
      rw [hplace]
      simp

end Filled

theorem declareAt?_same {others : Lines} {index place : Nat} {events : List Event}
    (h : declareAt? lines index = some (lines, events)) (heq : others[place]? = lines[index]?) :
    ∃ events', declareAt? others place = some (others, events') := by
  unfold declareAt? at h ⊢
  rw [heq]
  cases hline : lines[index]? with
  | none => simp [hline] at h
  | some line =>
    simp only [hline, Option.bind_eq_bind, Option.bind_some] at h ⊢
    split_ifs at h ⊢ with hcap
    · exact ⟨_, rfl⟩
    · cases hadd : addCapability? line with
      | none => simp [hadd] at h
      | some next =>
        simp only [hadd, Option.bind_some, Option.pure_def, Option.some.injEq, Prod.mk.injEq] at h ⊢
        have hnext : next = line := by
          have hset := congrArg (·[index]?) h.1
          have hlt := (List.getElem?_eq_some_iff.1 hline).1
          simpa [hline, List.getElem?_set_self hlt] using hset
        refine ⟨_, ?_, rfl⟩
        obtain ⟨hlt, hget⟩ := List.getElem?_eq_some_iff.1 (heq.trans hline)
        rw [hnext, ← hget, List.set_getElem_self]

/-- Nothing is left to do either where lines were put in that declare nothing. -/
theorem Conforms.filled {declared : ClassDeclaration} {base filled tail : Lines}
    (h : Conforms variant base declared)
    (hf : Filled (Beside (Naming.viewProtocol declared.name)) base filled)
    (ht : ∀ line ∈ tail, Line.declaresProtocol (Naming.viewProtocol declared.name) line = false) :
    ∃ place, Conforms variant (filled ++ tail) ⟨declared.name, place⟩ := by
  obtain ⟨hkind, line, hline, hname⟩ := Lines.classDeclaration?_eq_some_iff.1 h.declares
  obtain ⟨place, hplace, hget, htake⟩ := getElem?_of_findIdx? hf tail
    (fun line hline => by simp [hline.kind_ne_classDeclaration]) hkind
  obtain ⟨events, hevents⟩ := h.capability
  refine ⟨place, ?_, frameworkImport?_filled hf htake h.framework, ?_⟩
  · exact Lines.classDeclaration?_eq_some_iff.2 ⟨hplace, line, hget.trans hline, hname⟩
  · refine declareAt?_same hevents ?_
    unfold target
    cases hp : base.protocol? (Naming.viewProtocol declared.name) with
    | some index =>
      obtain ⟨found, hfound, hsame, -⟩ := getElem?_of_findIdx? hf tail
        (fun line hline => hline.declaresProtocol_eq_false) hp
      rw [Lines.protocol?, hfound]
      exact hsame
    | none =>
      have hnone : Lines.protocol? (Naming.viewProtocol declared.name) (filled ++ tail) = none := by
        rw [Lines.protocol?, List.findIdx?_append, hf.findIdx?_eq_none
          (fun line hline => hline.declaresProtocol_eq_false) hp, List.findIdx?_eq_none_iff.2 ht]
        rfl
      rw [hnone]
      exact hget

end Conformance

end OutletWiring

import Mathlib.Data.List.Nodup
import OutletWiring.Proofs.Identifiers.Worded
import OutletWiring.Proofs.Setter.Count

/-!
# Coherent files

What holds of every file that the setter stage has worked on is `Coherent`: a file without a setter
binds nothing, no line names an enum and binds at once, and no outlet is bound twice. The first two
keep the third going, since a new setter is written only where nothing is bound and an enum name
that was read off a line cannot hold a binding.
-/

namespace OutletWiring.IdentifierSetter

open Identifiers
open Line (Mark.binding Mark.setter Mark.typealias bindingProbe)
open Naming (IsIdentifier)

/-- The name of the outlet can stand in what is written for it without being taken for anything
else. -/
structure Fit (outlet : Outlet) : Prop where
  bare : Bare outlet.name
  word : Line.IsWord outlet.name
  equals_not_mem : '=' ∉ outlet.name
  ne_self : outlet.isRootView = false → outlet.name ≠ ("self" : Text)

theorem Fit.unbroken {outlet : Outlet} (h : Fit outlet) : Lines.Unbroken outlet.name :=
  h.word.2.1

theorem Fit.of_isIdentifier {outlet : Outlet} (h : IsIdentifier outlet.name)
    (hself : outlet.name ≠ ("self" : Text)) : Fit outlet where
  bare := ⟨h.not_mem (by decide), h.not_mem (by decide), h.not_mem (by decide),
    h.not_mem (by decide)⟩
  word := .of_isIdentifier h
  equals_not_mem := h.not_mem (by decide)
  ne_self _ := hself

def Distinct (outlets : List Outlet) : Prop :=
  (outlets.map Outlet.name).Nodup ∧ ∀ o ∈ outlets, Fit o

/-- Distinct names bind an outlet at most once. -/
theorem Distinct.countP_sameBinding_le_one {outlets : List Outlet} (h : Distinct outlets)
    (outlet : Outlet) : outlets.countP (sameBinding · outlet) ≤ 1 := by
  have hcount := List.nodup_iff_count_le_one.1 h.1 outlet.name
  rw [List.count_eq_countP, List.countP_map] at hcount
  refine le_trans (List.countP_mono_left fun o _ hsame => ?_) hcount
  simp [(sameBinding_iff.1 hsame).1]

theorem Distinct.pairwise_not_shadows {outlets : List Outlet} (h : Distinct outlets) :
    outlets.Pairwise fun a b => ¬ Shadows a b := by
  have hnames : outlets.Pairwise fun a b => a.name ≠ b.name := by
    simpa [List.Nodup, List.pairwise_map] using h.1
  refine hnames.imp_of_mem fun {a b} ha hb hne hshadows => hne ?_
  obtain ⟨line, hline, hprobe⟩ := hshadows
  exact (same_of_probe_occursIn (h.2 a ha).bare (h.2 b hb).bare hline hprobe).1

/-- The line both names an enum and holds the call that binds. -/
def tangled (line : Text) : Bool :=
  Text.occursIn Mark.typealias line && Text.occursIn Mark.binding line

/-- What every file that the stage has worked on satisfies. -/
structure Coherent (lines : Lines) : Prop where
  bindsNothing : lines.setter? = none → BindsNothing lines
  untangled : lines.countP tangled = 0
  once : ∀ o : Outlet, Fit o → boundTimes lines o ≤ 1

/-! ## Lines that name an enum -/

theorem ignoresEnding_tangled : Lines.IgnoresEnding tangled :=
  (Lines.ignoresEnding_occursIn (by decide) (by decide)).and
    (Lines.ignoresEnding_occursIn (by decide) (by decide))

theorem tangled_of_bindsNothing {lines : Lines} (h : BindsNothing lines) :
    lines.countP tangled = 0 := by
  rw [List.countP_eq_zero]
  intro line hline
  simp [tangled, h line hline]

theorem tangled_of_not_mem {line : Text} (h : '=' ∉ line) : tangled line = false := by
  have : Text.occursIn Mark.typealias line = false :=
    Text.occursIn_eq_false_of_not_mem (c := '=') (by decide) h
  simp [tangled, this]

theorem equals_not_mem_binding : '=' ∉ Mark.binding := by
  decide

theorem countP_tangled_bindingLines {outlets : List Outlet} (h : ∀ o ∈ outlets, '=' ∉ o.name) :
    (outlets.flatMap bindingLines).countP tangled = 0 := by
  rw [List.countP_eq_zero]
  intro line hline
  obtain ⟨outlet, hmem, hline⟩ := List.mem_flatMap.1 hline
  have hname := h outlet hmem
  have htarget : '=' ∉ outlet.target := by
    unfold Outlet.target
    split_ifs
    · decide
    · exact hname
  have hmark := equals_not_mem_binding
  rw [bindingLines_eq, List.mem_cons] at hline
  rw [Bool.not_eq_true]
  rcases hline with rfl | hline
  · exact tangled_of_not_mem (by simp [bindingRow, Draft.row, hmark, htarget, hname])
  · split_ifs at hline
    · rw [List.mem_singleton] at hline
      subst hline
      exact tangled_of_not_mem (by
        simp [bindingRow, Draft.row, hmark, hname, Outlet.textFieldCase])
    · cases hline

theorem countP_tangled_cellRows {subject : Subject} (hc : '=' ∉ subject.className) :
    (cellRows subject).countP tangled = 0 := by
  have hcell : '=' ∉ subject.cellIdentifier := fun h =>
    hc (Naming.mem_of_mem_cellIdentifier (by decide) h)
  have hmark := equals_not_mem_binding
  rw [List.countP_eq_zero]
  intro line hline
  rw [Bool.not_eq_true]
  unfold cellRows at hline
  split_ifs at hline
  · simp only [List.mem_cons, List.not_mem_nil, or_false] at hline
    rcases hline with rfl | rfl | rfl | rfl
    · exact tangled_of_not_mem (by simp [Draft.row])
    · exact tangled_of_not_mem (by simp [Draft.row])
    · exact tangled_of_not_mem (by simp [cellRow, Draft.row, hmark, hcell])
    · exact tangled_of_not_mem (by simp [Draft.row])
  · cases hline

theorem countP_tangled_setterBlock {subject : Subject} (hc : IsIdentifier subject.className)
    (he : Text.occursIn Mark.binding subject.enumName = false)
    (ho : ∀ o ∈ subject.outlets, '=' ∉ o.name) :
    (setterBlock subject).countP tangled = 0 := by
  have hclose : ∀ level, [Draft.row level "\x7d"].countP tangled = 0 := fun level => by
    rw [List.countP_singleton, tangled_of_not_mem (by simp [Draft.row, List.mem_replicate])]
    rfl
  have hhead := tangled_of_bindsNothing (bindsNothing_setterHead (hc.not_mem (by decide)) he)
  have hbindings := countP_tangled_bindingLines ho
  have hcell : (cellRows subject).countP tangled = 0 :=
    countP_tangled_cellRows (hc.not_mem (by decide))
  rw [setterBlock_eq, ← List.singleton_append]
  simp only [List.countP_append, hhead, hbindings, hcell, hclose]

/-! ## What a run keeps -/

namespace Coherent

variable {lines : Lines}

theorem of_bindsNothing (h : BindsNothing lines) : Coherent lines where
  bindsNothing _ := h
  untangled := tangled_of_bindsNothing h
  once o _ := by simp [boundTimes_of_bindsNothing h o]

theorem typealias_bindsNothing (h : Coherent lines) : ∀ line ∈ lines,
    Text.occursIn Mark.typealias line = true → Text.occursIn Mark.binding line = false := by
  intro line hline hmark
  have := List.countP_eq_zero.1 h.untangled line hline
  simpa [tangled, hmark] using this

/-- Lines that neither bind nor are a setter change nothing, wherever they stand. -/
theorem iff_of_perm {after idle : Lines} (hp : after.Perm (idle ++ lines)) (hb : BindsNothing idle)
    (hs : idle.setter? = none) : Coherent after ↔ Coherent lines := by
  have hsetter : after.setter? = none ↔ lines.setter? = none := by
    rw [Lines.setter?_eq_none_iff] at hs
    rw [Lines.setter?_eq_none_iff, Lines.setter?_eq_none_iff, hp.countP_eq, List.countP_append, hs,
      Nat.zero_add]
  have hbinds : BindsNothing after ↔ BindsNothing lines := by
    constructor
    · exact fun h line hline => h line (hp.symm.subset (by simp [hline]))
    · exact fun h line hline => (List.mem_append.1 (hp.subset hline)).elim (hb line) (h line)
  have htangled : after.countP tangled = lines.countP tangled := by
    rw [hp.countP_eq, List.countP_append, tangled_of_bindsNothing hb, Nat.zero_add]
  have honce : ∀ o, boundTimes after o = boundTimes lines o := fun o => by
    have hidle := boundTimes_of_bindsNothing hb o
    rw [boundTimes] at hidle
    rw [boundTimes, hp.countP_eq, List.countP_append, hidle, Nat.zero_add, boundTimes]
  constructor
  · rintro ⟨h1, h2, h3⟩
    exact ⟨fun h => hbinds.1 (h1 (hsetter.2 h)), htangled ▸ h2, fun o => honce o ▸ h3 o⟩
  · rintro ⟨h1, h2, h3⟩
    exact ⟨fun h => hbinds.2 (h1 (hsetter.1 h)), htangled ▸ h2, fun o => (honce o).symm ▸ h3 o⟩

/-- Outlet declarations are such lines. -/
theorem idle_of_outlets {declarations : Lines}
    (h : ∀ line ∈ declarations, Line.kind line = .outlet) :
    BindsNothing declarations ∧ declarations.setter? = none := by
  refine ⟨fun line hline => (Line.kind_eq_outlet_iff.1 (h line hline)).2.1, ?_⟩
  rw [Lines.setter?_eq_none_iff, List.countP_eq_zero]
  intro line hline
  simp [(Line.kind_eq_outlet_iff.1 (h line hline)).1]

section Run

variable {variant : Variant} {subject : Subject} (h : Coherent lines)
  (hc : IsIdentifier subject.className) (hw : Distinct (wiredOutlets variant subject lines))
include h hc hw

theorem boundTimes_run_eq {outlet : Outlet} (ho : Fit outlet)
    (hv : (run variant lines subject).verdict = .completed) :
    boundTimes (run variant lines subject).lines outlet = boundTimes lines outlet +
      (run variant lines subject).subject.outlets.countP (sameBinding · outlet) :=
  boundTimes_run (hc.not_mem (by decide)) h.typealias_bindsNothing
    (fun o hmem => (hw.2 o hmem).bare) ho.bare ho.unbroken ho.ne_self hv

omit h hc in
/-- What a run that extends a setter leaves in the subject: the outlets that were not bound. -/
theorem outlets_extendExisting (index : Nat) :
    (extendExisting variant { subject with outlets := wiredOutlets variant subject lines } lines
      index).subject.outlets = (wiredOutlets variant subject lines).filter (!isBound lines ·) :=
  bindMissing_outlets (fun o hmem => (hw.2 o hmem).unbroken)
    hw.pairwise_not_shadows lines (index + 1)

theorem once_run {outlet : Outlet} (ho : Fit outlet)
    (hv : (run variant lines subject).verdict = .completed) :
    boundTimes (run variant lines subject).lines outlet ≤ 1 := by
  rw [boundTimes_run_eq h hc hw ho hv]
  rcases run_cases variant lines subject with ⟨-, hd⟩ | ⟨hs, hrun⟩ | ⟨index, hs, hrun⟩
  · exact absurd hv hd
  · have hbefore := boundTimes_of_bindsNothing (h.bindsNothing hs) outlet
    have hadded := hw.countP_sameBinding_le_one outlet
    rw [hrun, hbefore, Nat.zero_add]
    exact hadded
  · rw [hrun, outlets_extendExisting hw]
    have hadded : ((wiredOutlets variant subject lines).filter (!isBound lines ·)).countP
        (sameBinding · outlet) ≤ 1 :=
      le_trans (List.filter_sublist.countP_le) (hw.countP_sameBinding_le_one outlet)
    -- an outlet that is bound now was not bound before
    by_cases hzero : ((wiredOutlets variant subject lines).filter (!isBound lines ·)).countP
        (sameBinding · outlet) = 0
    · rw [hzero, Nat.add_zero]
      exact h.once outlet ho
    · obtain ⟨missing, hmem, hsame⟩ := List.countP_pos_iff.1 (Nat.pos_of_ne_zero hzero)
      have hunbound : isBound lines missing = false := by simpa using (List.mem_filter.1 hmem).2
      have hbefore : boundTimes lines outlet = 0 := by
        rw [boundTimes, ← bindingProbe_eq_of_sameBinding hsame]
        exact boundTimes_eq_zero_iff.2 hunbound
      omega

theorem untangled_run : (run variant lines subject).lines.countP tangled = 0 := by
  have hparen : '(' ∉ subject.className := hc.not_mem (by decide)
  have hbare : ∀ o ∈ wiredOutlets variant subject lines, Bare o.name := fun o hmem =>
    (hw.2 o hmem).bare
  rcases run_cases variant lines subject with ⟨hl, -⟩ | ⟨hs, hrun⟩ | ⟨index, hs, hrun⟩
  · rw [hl]
    exact h.untangled
  · have hname := occursIn_binding_freshEnumName hparen
    let fresh := (writeFresh
      { subject with outlets := wiredOutlets variant subject lines } lines).subject
    have hblock : (setterBlock fresh).countP tangled = 0 :=
      countP_tangled_setterBlock hc hname fun o hmem => (hw.2 o hmem).equals_not_mem
    have henum : BindsNothing (enumBlock fresh) := bindsNothing_enumBlock hparen hname hbare
    rw [hrun, countP_writeFresh ignoresEnding_tangled, h.untangled, hblock,
      tangled_of_bindsNothing henum]
  · let extended := (extendExisting variant
      { subject with outlets := wiredOutlets variant subject lines } lines index).subject
    have hmem : ∀ o ∈ extended.outlets, o ∈ wiredOutlets variant subject lines := fun o ho =>
      (bindMissing_outlets_subset lines (index + 1) _).subset ho
    have hcases : ∀ lines, BindsNothing (casesBlock extended lines) :=
      bindsNothing_casesBlock hparen
        (occursIn_binding_existingEnumName hparen h.typealias_bindsNothing)
        fun o ho => hbare o (hmem o ho)
    have hbindings : (extended.outlets.flatMap bindingLines).countP tangled = 0 :=
      countP_tangled_bindingLines fun o ho => (hw.2 o (hmem o ho)).equals_not_mem
    have hblock : ∀ lines, (extensionBlock extended lines).countP tangled = 0 := by
      intro lines
      rw [extensionBlock, List.countP_append, hbindings]
      split_ifs
      · rfl
      · rw [tangled_of_bindsNothing (hcases lines)]
    rw [hrun, countP_extendExisting ignoresEnding_tangled _ _ _ (Lines.lt_length_of_findKind? hs),
      h.untangled, hblock]

/-- A run keeps a file coherent. -/
theorem run_lines : Coherent (run variant lines subject).lines := by
  by_cases hv : (run variant lines subject).verdict = .completed
  · exact ⟨fun hnone => absurd hnone (setter?_run_ne_none hv), untangled_run h hc hw,
      fun o ho => once_run h hc hw ho hv⟩
  · rcases run_cases variant lines subject with ⟨hl, -⟩ | ⟨-, hrun⟩ | ⟨index, -, hrun⟩
    · rw [hl]
      exact h
    · exact absurd (by rw [hrun]; rfl) hv
    · exact absurd (by rw [hrun]; rfl) hv

end Run

end Coherent

end OutletWiring.IdentifierSetter

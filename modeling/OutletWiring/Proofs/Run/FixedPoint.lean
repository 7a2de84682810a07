import OutletWiring.Generator
import OutletWiring.Proofs.Run.Names

/-!
# A second run changes nothing

What a run has written is read by the next: the lines of the user, with the binding of every outlet
among them and a page object after them. The conformance stage finds the class where it was and
nothing to do, and the setter stage finds every outlet bound.

The one thing that a second run sees otherwise is the last line, if the first had to terminate it.
A class name that ends the file, or a protocol without a name, takes the terminator for a part of
itself. So the lines have to be steady with a terminator at their end as well.
-/

namespace OutletWiring

open Conformance (Conforms Steady found)
open IdentifierSetter (isBound wiredOutlets)
open Lines (Additions ClassDeclaration Ending reparse terminateLast)

variable {variant : Variant} {lines : Lines}

def Variant.Worded (variant : Variant) : Prop :=
  (∀ module ∈ variant.frameworkModule?, Line.IsWord module) ∧
    ∀ module ∈ variant.viewModules, Line.IsWord module

theorem Catalogue.worded_of_mem_standard (h : variant ∈ standard) : variant.Worded := by
  simp only [standard, List.mem_cons, List.not_mem_nil, or_false] at h
  rcases h with rfl | rfl <;> exact ⟨by decide, by decide⟩

/-! ## The second run -/

namespace Stage

section Conforms

variable {declared : ClassDeclaration} (hc : Conforms variant lines declared)
include hc

theorem hasClass_of_conforms : (found {} declared).hasClass = true := by
  obtain ⟨-, line, -, hname⟩ := Lines.classDeclaration?_eq_some_iff.1 hc.declares
  have hne : declared.name ≠ [] := (Line.className?_eq_some hname).1
  simp [Subject.hasClass, found, hne]

/-- The conformance stage passes the lines on as they are. -/
theorem exists_sequence_of_conforms {rest : Outcome}
    (h : runAll variant lines (found {} declared) [.identifierSetter, .pageObject] = some rest) :
    ∃ outcome, sequence variant standard lines = some outcome ∧ outcome.lines = rest.lines ∧
      outcome.subject = rest.subject ∧ outcome.completed = .conformance :: rest.completed ∧
      outcome.declined? = rest.declined? := by
  obtain ⟨events, hfirst⟩ := @Conforms.run_eq variant lines {} declared hc
  have happly : apply .conformance variant lines {} = Conformance.run variant lines {} := rfl
  refine runAll_of_completed _ ?_ ?_
  · rw [happly, hfirst]
  · rw [happly, hfirst, h]

/-- With no outlets to wire, the setter stage declines. -/
theorem sequence_of_wiredOutlets_nil (hw : wiredOutlets variant (found {} declared) lines = []) :
    ∃ outcome, sequence variant standard lines = some outcome ∧ outcome.lines = lines ∧
      outcome.subject.outlets = [] := by
  have hsecond : apply .identifierSetter variant lines (found {} declared) = _ :=
    IdentifierSetter.run_of_wiredOutlets_nil (hasClass_of_conforms hc) hw
  obtain ⟨rest, hrest, hl, hs, -, -⟩ := @runAll_of_declined variant lines (found {} declared)
    .identifierSetter [.pageObject] .noOutlets (by rw [hsecond])
  obtain ⟨outcome, houtcome, hl', hs', -, -⟩ := exists_sequence_of_conforms hc hrest
  refine ⟨outcome, houtcome, ?_, ?_⟩
  · rw [hl', hl, hsecond]
  · rw [hs', hs, hsecond]

/-- With every outlet bound, the setter stage leaves nothing for the page object. -/
theorem sequence_of_isBound (hw : wiredOutlets variant (found {} declared) lines ≠ [])
    (hs : lines.setter? ≠ none)
    (hb : ∀ o ∈ wiredOutlets variant (found {} declared) lines, isBound lines o = true) :
    ∃ outcome, sequence variant standard lines = some outcome ∧ outcome.lines = lines ∧
      outcome.subject.outlets = [] ∧ outcome.subject.alreadyGenerated = true ∧
      outcome.completed = [.conformance, .identifierSetter] ∧
      outcome.declined? = some ⟨.pageObject, .noOutlets⟩ := by
  have hclass := hasClass_of_conforms hc
  let second := apply .identifierSetter variant lines (found {} declared)
  obtain ⟨hverdict, hlines, houtlets, hgenerated⟩ :
      second.verdict = .completed ∧ second.lines = lines ∧ second.subject.outlets = [] ∧
        second.subject.alreadyGenerated = true :=
    IdentifierSetter.run_of_isBound hclass hw hs hb
  have hpage : apply .pageObject variant second.lines second.subject =
      ⟨lines, second.subject, .declined .noOutlets, []⟩ := by
    have hname : second.subject.hasClass = true := by
      have hsame : second.subject.className = (found {} declared).className :=
        (IdentifierSetter.run_className variant lines (found {} declared)).1
      rw [Subject.hasClass, hsame]
      exact hclass
    simp [apply, applyM, PageObject.runM, hname, houtlets, hlines]
  obtain ⟨last, hlast, hl, hs, hcompleted, hdeclined⟩ := @runAll_of_declined variant second.lines
    second.subject .pageObject [] .noOutlets (by rw [hpage])
  obtain ⟨rest, hrest, hl', hs', hcompleted', hdeclined'⟩ :=
    runAll_of_completed [.pageObject] hverdict hlast
  obtain ⟨outcome, houtcome, hl'', hs'', hcompleted'', hdeclined''⟩ :=
    exists_sequence_of_conforms hc hrest
  have hsubject : outcome.subject = second.subject := by
    rw [hs'', hs', hs, hpage]
  refine ⟨outcome, houtcome, ?_, by rw [hsubject, houtlets], by rw [hsubject, hgenerated], ?_, ?_⟩
  · rw [hl'', hl', hl, hpage]
  · rw [hcompleted'', hcompleted', hcompleted]
  · rw [hdeclined'', hdeclined', hdeclined]

end Conforms

/-! ## The first run -/

abbrev conformed (variant : Variant) (lines : Lines) : Result :=
  Conformance.run variant lines {}

variable {outcome : Outcome}

/-- The names that a run finds are clear: that of the class, those of the outlets, which are read if
there is a class, and that of the enum. -/
structure Named (variant : Variant) (lines : Lines) (outcome : Outcome) : Prop where
  className : Naming.Clear (conformed variant lines).subject.className
  outlets : (conformed variant lines).verdict = .completed →
    ∀ o ∈ (conformed variant lines).lines.outlets, Naming.Clear o.name
  enumName : Naming.Clear outcome.subject.enumName

theorem Named.wiredOutlets (h : Named variant lines outcome)
    (hfirst : (conformed variant lines).verdict = .completed) :
    ∀ o ∈ wiredOutlets variant (conformed variant lines).subject (conformed variant lines).lines,
      Line.IsWord o.name ∧ ':' ∉ o.name := by
  intro outlet hmem
  rcases (IdentifierSetter.mem_wiredOutlets.1 hmem).1 with hdeclared | ⟨-, rfl⟩
  · have hclear := h.outlets hfirst outlet hdeclared
    exact ⟨hclear.isWord, hclear.colon_not_mem⟩
  · exact ⟨h.className.isWord.of_signs fun _ hc => Naming.mem_of_mem_rootViewIdentifier hc,
      fun hm => h.className.colon_not_mem (Naming.mem_of_mem_rootViewIdentifier (by decide) hm)⟩

theorem exists_found_of_completed (h : (conformed variant lines).verdict = .completed) :
    ∃ declared, lines.classDeclaration? = some declared ∧
      (conformed variant lines).subject = found {} declared := by
  cases hc : lines.classDeclaration? with
  | none =>
    obtain ⟨reason, hrun⟩ := Conformance.run_of_none variant {} hc
    simp [hrun] at h
  | some declared =>
    exact ⟨declared, rfl, Conformance.run_subject_of_some hc⟩

theorem className_ne_nil_of_completed (h : (conformed variant lines).verdict = .completed) :
    (conformed variant lines).subject.className ≠ [] := by
  obtain ⟨declared, hc, hfound⟩ := exists_found_of_completed h
  obtain ⟨-, line, -, hname⟩ := Lines.classDeclaration?_eq_some_iff.1 hc
  rw [hfound]
  exact (Line.className?_eq_some hname).1

theorem eq_none_of_declined {reason : Reason}
    (h : (conformed variant lines).verdict = .declined reason) : lines.classDeclaration? = none := by
  cases hc : lines.classDeclaration? with
  | none => rfl
  | some declared =>
    rw [conformed, Conformance.run_of_some hc] at h
    cases hd : Conformance.declaredIn variant lines declared <;> simp [hd] at h

section Completed

variable (h : Course variant lines outcome) (hm : .identifierSetter ∈ outcome.completed)
include h hm

/-- Up to the setter stage, and what the page object stage keeps of it. -/
theorem Course.of_identifierSetter_mem :
    (conformed variant lines).verdict = .completed ∧ ∃ second : Result,
      second = IdentifierSetter.run variant (conformed variant lines).lines
        (conformed variant lines).subject ∧
      second.verdict = .completed ∧ outcome.subject = second.subject ∧
      ∀ p : Text → Bool, Lines.IgnoresEnding p → second.lines.countP p ≤ outcome.lines.countP p := by
  have hpage : ∀ (lines : Lines) (subject : Subject) (p : Text → Bool), Lines.IgnoresEnding p →
      lines.countP p ≤ (PageObject.run variant lines subject).lines.countP p := by
    intro lines subject p hp
    rcases PageObject.run_cases variant lines subject with ⟨-, _, hrun⟩ | ⟨-, hrun⟩
    · rw [hrun]
    · rw [hrun, Lines.countP_appendBlock hp]
      exact Nat.le_add_right _ _
  cases h with
  | conformance _ _ _ hends => simp [hends.1] at hm
  | identifierSetter _ _ _ _ _ _ hends => simp [hends.1] at hm
  | pageObject hf hfirst hs hsecond ht _ hlines hsubject =>
    subst hf hs ht
    refine ⟨hfirst, _, rfl, hsecond, ?_, fun p hp => ?_⟩
    · rw [hsubject, PageObject.run_subject]
    · rw [hlines]
      exact hpage _ _ p hp
  | complete hf hfirst hs hsecond ht _ hlines hsubject =>
    subst hf hs ht
    refine ⟨hfirst, _, rfl, hsecond, ?_, fun p hp => ?_⟩
    · rw [hsubject, PageObject.run_subject]
    · rw [hlines]
      exact hpage _ _ p hp

/-- Without a page object nothing was written after the conformance stage. -/
theorem Course.lines_of_pageObject_not_mem (hp : .pageObject ∉ outcome.completed) :
    outcome.lines = (conformed variant lines).lines := by
  cases h with
  | conformance _ _ _ hends => simp [hends.1] at hm
  | identifierSetter _ _ _ _ _ _ hends => simp [hends.1] at hm
  | @pageObject _ second _ _ hf hfirst hs hsecond ht hthird hlines hsubject =>
    have hcases := PageObject.run_cases variant second.lines second.subject
    subst hf hs ht
    obtain ⟨hname, -⟩ := IdentifierSetter.run_className variant (conformed variant lines).lines
      (conformed variant lines).subject
    have hclass := className_ne_nil_of_completed hfirst
    rw [← hname] at hclass
    rw [hlines]
    rcases hcases with ⟨hnone | houtlets, _, hrun⟩ | ⟨-, hrun⟩
    · simp [Subject.hasClass, hclass] at hnone
    · rw [hrun]
      exact IdentifierSetter.run_lines_of_outlets_nil houtlets
    · rw [hrun] at hthird
      cases hthird
  | complete _ _ _ _ _ _ _ _ hends => simp [hends.1, standard] at hp

variable (hn : Named variant lines outcome)
include hn

theorem Course.isBound : ∀ o ∈ wiredOutlets variant (conformed variant lines).subject
    (conformed variant lines).lines, isBound outcome.lines o = true := by
  obtain ⟨hfirst, second, rfl, hv, -, hcount⟩ := h.of_identifierSetter_mem hm
  have hu : ∀ o ∈ wiredOutlets variant (conformed variant lines).subject
      (conformed variant lines).lines, Lines.Unbroken o.name := fun o ho =>
    (hn.wiredOutlets hfirst o ho).1.2.1
  intro outlet hmem
  have hbound := IdentifierSetter.isBound_of_completed hv hu hmem
  have hle := hcount _ (Identifiers.ignoresEnding_bindingProbe (hu outlet hmem))
  rw [IdentifierSetter.isBound_iff, ← List.countP_pos_iff] at hbound ⊢
  omega

theorem Course.clear : outcome.subject.Clear ∧
    outcome.subject.className = (conformed variant lines).subject.className ∧
    outcome.subject.viewKind = ViewKind.ofClassName outcome.subject.className := by
  obtain ⟨hfirst, second, rfl, -, hsubject, -⟩ := h.of_identifierSetter_mem hm
  obtain ⟨declared, -, hfound⟩ := exists_found_of_completed hfirst
  obtain ⟨hname, hkind⟩ := IdentifierSetter.run_className variant (conformed variant lines).lines
    (conformed variant lines).subject
  have hsubset := @IdentifierSetter.run_outlets_subset variant (conformed variant lines).lines
    (conformed variant lines).subject (by rw [hfound]; rfl)
  have henum := hn.enumName.isWord
  rw [hsubject] at henum ⊢
  refine ⟨⟨⟨?_, henum, fun o ho => (hn.wiredOutlets hfirst o (hsubset ho)).1⟩, ?_,
    fun o ho => (hn.wiredOutlets hfirst o (hsubset ho)).2⟩, hname, ?_⟩
  · rw [hname]
    exact hn.className.isWord
  · rw [hname]
    exact hn.className.colon_not_mem
  · rw [hkind, hname, hfound]
    rfl

end Completed

/-- What a run leaves, read back, is the lines that the conformance stage left, read back, with
lines put in that declare nothing and lines after them that are neither outlets nor the interface
protocol. -/
theorem Course.exists_filled (h : Course variant lines outcome)
    (hm : .identifierSetter ∈ outcome.completed) (hn : Named variant lines outcome)
    (hv : ∀ module ∈ variant.viewModules, Line.IsWord module)
    (hne : ∀ line ∈ (conformed variant lines).lines, line ≠ []) {name : Text}
    (hname : name = Naming.viewProtocol (conformed variant lines).subject.className) :
    ∃ base filled tail, Lines.Filled (Line.Beside name) base filled ∧
      reparse outcome.lines = filled ++ tail ∧
      (∀ line ∈ tail, Line.QuietLine name line) ∧
      (base = reparse (conformed variant lines).lines ∨ .pageObject ∈ outcome.completed ∧
        ∃ ending, base = terminateLast ending (reparse (conformed variant lines).lines)) := by
  by_cases hp : .pageObject ∈ outcome.completed
  swap
  · refine ⟨_, _, [], .refl _, ?_, by simp, .inl rfl⟩
    rw [h.lines_of_pageObject_not_mem hm hp, List.append_nil]
  obtain ⟨additions, hadds, hlines⟩ := h.exists_additions
  obtain ⟨hclear, hclass, hkind⟩ := h.clear hm hn
  have hgaps := hadds.beside_gaps hclear name
  have hquiet := hadds.quiet_tail hclear.toWorded name
  obtain ⟨all, hgaps, htail, hall⟩ : ∃ all : Additions,
      (∀ gap, ∀ line ∈ all.gaps gap, Line.Beside name line) ∧
      (∀ line ∈ all.tail, Line.QuietLine name line) ∧
      outcome.lines = all.apply (conformed variant lines).lines := by
    rcases hlines with hlines | hlines
    · exact ⟨additions, hgaps, hquiet, hlines⟩
    · refine ⟨PageObject.withPage variant (conformed variant lines).lines outcome.subject additions,
        hgaps, fun line hline => ?_, hlines⟩
      rcases List.mem_append.1 hline with hline | hline
      · exact hquiet line hline
      · obtain ⟨raw, hraw, rfl⟩ := List.mem_map.1 hline
        rw [hname, ← hclass]
        exact (Page.quietRow_block hclear.toWorded hv hkind raw hraw).quietLine _
  obtain ⟨base, filled, hfilled, heq, hbase⟩ := Lines.exists_filled_reparse_apply hne
    (fun line hline => ⟨hline.single, hline.terminated⟩) hgaps fun line hline =>
      (htail line hline).single
  exact ⟨base, filled, all.tail, hfilled, hall ▸ heq, htail, hbase.imp_right fun h => ⟨hp, h⟩⟩

theorem Named.readable (hn : Named variant lines outcome) (h : Course variant lines outcome)
    (hs : ∀ line ∈ lines, Lines.Single line)
    (hv : ∀ module ∈ variant.frameworkModule?, Line.IsWord module) :
    ∀ line ∈ (conformed variant lines).lines, Conformance.Readable line := by
  obtain ⟨edited, hconformed⟩ := Conformance.conformed_run h.verdict_ne_stuck
  refine hconformed.readable hv hs fun declared hc hm => ?_
  have hname := hn.className
  rw [conformed, Conformance.run_subject_of_some hc] at hname
  exact (hname _ hm).2.1 rfl

/-- The outlets of the first run are those of the second. -/
theorem wiredOutlets_eq_of_outlets {others : Lines} {declared : ClassDeclaration}
    (hfirst : (conformed variant lines).verdict = .completed)
    (hname : declared.name = (conformed variant lines).subject.className)
    (ho : others.outlets = (conformed variant lines).lines.outlets) :
    wiredOutlets variant (found {} declared) others =
      wiredOutlets variant (conformed variant lines).subject (conformed variant lines).lines := by
  obtain ⟨first, -, hfound⟩ := exists_found_of_completed hfirst
  refine IdentifierSetter.wiredOutlets_congr hname ?_ ho
  rw [hfound] at hname ⊢
  exact congrArg ViewKind.ofClassName hname

/-- The setter is found again. -/
theorem Course.setter?_reparse_ne_none (h : Course variant lines outcome)
    (hm : .identifierSetter ∈ outcome.completed) : (reparse outcome.lines).setter? ≠ none := by
  obtain ⟨-, second, rfl, hv, -, hcount⟩ := h.of_identifierSetter_mem hm
  have hsetter := IdentifierSetter.setter?_run_ne_none hv
  have hle := hcount (Text.occursIn Line.Mark.setter)
    (Lines.ignoresEnding_occursIn (by decide) (by decide))
  have hpos : 0 < outcome.lines.countP (Text.occursIn Line.Mark.setter) := by
    rw [Ne, Lines.setter?_eq_none_iff] at hsetter
    omega
  rw [Ne, Lines.setter?_eq_none_iff, ← Ne, ← Nat.pos_iff_ne_zero, List.countP_pos_iff,
    ← List.any_eq_true] at *
  rwa [Lines.any_occursIn_reparse (by decide) (by decide)]

section Settled

variable (h : Course variant lines outcome) (hn : Named variant lines outcome)
  (hs : ∀ line ∈ lines, Lines.Single line)
  (hv : ∀ module ∈ variant.frameworkModule?, Line.IsWord module)
  (hsteady : Steady variant (reparse (conformed variant lines).lines)
    (conformed variant lines).subject)
include h hn hs hv hsteady

/-- A run that has wired the outlets leaves nothing to do for the next. -/
theorem Course.again_of_completed (hm : .identifierSetter ∈ outcome.completed)
    (hv' : ∀ module ∈ variant.viewModules, Line.IsWord module)
    (hclosed : .pageObject ∈ outcome.completed → ∀ ending, Steady variant
      (terminateLast ending (reparse (conformed variant lines).lines))
      (conformed variant lines).subject) :
    ∃ again, sequence variant standard (reparse outcome.lines) = some again ∧
      again.lines = reparse outcome.lines ∧ again.subject.outlets = [] ∧
      again.subject.alreadyGenerated = true ∧
      again.completed = [.conformance, .identifierSetter] ∧
      again.declined? = some ⟨.pageObject, .noOutlets⟩ := by
  have hread := hn.readable h hs hv
  obtain ⟨hfirst, second, rfl, hsecond, -, -⟩ := h.of_identifierSetter_mem hm
  obtain ⟨base, filled, tail, hfilled, heq, htail, hbase⟩ :=
    h.exists_filled hm hn hv' (fun line hline => (hread line hline).1) rfl
  have hbaseSteady : Steady variant base (conformed variant lines).subject := by
    rcases hbase with rfl | ⟨hp, ending, rfl⟩
    · exact hsteady
    · exact hclosed hp ending
  have houtlets : (reparse outcome.lines).outlets = (conformed variant lines).lines.outlets := by
    have hbaseOutlets : base.outlets = (conformed variant lines).lines.outlets := by
      have hreparse := Lines.outlets_reparse (fun line hline => (hread line hline).1)
        fun line hline => (hread line hline).2
      rcases hbase with rfl | ⟨-, ending, rfl⟩
      · exact hreparse
      · rw [Lines.outlets_terminateLast, hreparse]
    rw [heq, Lines.outlets_append, hfilled.outlets_eq fun line hline => hline.kind_ne_outlet,
      Lines.outlets_eq_nil fun line hline => (htail line hline).kind_ne_outlet, List.append_nil,
      hbaseOutlets]
  obtain ⟨declared, hconforms, hname⟩ :=
    hbaseSteady.exists_conforms (className_ne_nil_of_completed hfirst)
  obtain ⟨place, hconforms⟩ := hconforms.filled (hname ▸ hfilled) fun line hline =>
    hname ▸ (htail line hline).declaresProtocol_eq_false
  rw [← heq] at hconforms
  have hwired := @wiredOutlets_eq_of_outlets variant lines (reparse outcome.lines)
    ⟨declared.name, place⟩ hfirst hname houtlets
  refine sequence_of_isBound hconforms ?_ (h.setter?_reparse_ne_none hm) ?_
  · intro hnil
    rw [hwired] at hnil
    have hclass : (conformed variant lines).subject.hasClass = true := by
      simpa [Subject.hasClass] using className_ne_nil_of_completed hfirst
    rw [IdentifierSetter.run_of_wiredOutlets_nil hclass hnil] at hsecond
    cases hsecond
  · intro outlet hmem
    rw [hwired] at hmem
    have hunbroken := Identifiers.unbroken_bindingProbe (hn.wiredOutlets hfirst outlet hmem).1.2.1
    have hbound := h.isBound hm hn outlet hmem
    unfold IdentifierSetter.isBound at hbound ⊢
    rwa [Lines.any_occursIn_reparse (Identifiers.bindingProbe_ne_nil outlet) hunbroken.1]

end Settled

/-- What a run leaves is left as it is by the next. -/
theorem sequence_again (hl : reparse lines = lines) (h : sequence variant standard lines = some outcome)
    (hn : Named variant lines outcome) (hv : variant.Worded)
    (hsteady : Steady variant (reparse (conformed variant lines).lines)
      (conformed variant lines).subject)
    (hclosed : .pageObject ∈ outcome.completed → ∀ ending, Steady variant
      (terminateLast ending (reparse (conformed variant lines).lines))
      (conformed variant lines).subject) :
    ∃ again, sequence variant standard (reparse outcome.lines) = some again ∧
      again.lines = reparse outcome.lines ∧ again.subject.outlets = [] ∧
      (.identifierSetter ∈ outcome.completed → again.subject.alreadyGenerated = true ∧
        again.completed = [.conformance, .identifierSetter] ∧
        again.declined? = some ⟨.pageObject, .noOutlets⟩) := by
  have hs : ∀ line ∈ lines, Lines.Single line := by
    rw [← hl]
    exact fun line hline => Lines.single_of_mem_ofText hline
  have hcourse := course_of_sequence h
  by_cases hm : .identifierSetter ∈ outcome.completed
  · obtain ⟨again, hagain, hlines, houtlets, hends⟩ :=
      hcourse.again_of_completed hn hs hv.1 hsteady hm hv.2 hclosed
    exact ⟨again, hagain, hlines, houtlets, fun _ => hends⟩
  · have hread := hn.readable hcourse hs hv.1
    cases hcourse with
    | conformance hfirst hlines hsubject hends =>
      -- no class was found, and the file is as it was
      obtain ⟨reason, hrun⟩ := Conformance.run_of_none variant {} (eq_none_of_declined hfirst)
      rw [hrun] at hlines hsubject
      rw [hlines, hl]
      exact ⟨outcome, h, hlines, by rw [hsubject], fun hmem => absurd hmem hm⟩
    | identifierSetter hf hfirst hsecond hdeclined hlines hsubject hends =>
      -- there were no outlets, and there are none in what the conformance stage left
      subst hf hsecond
      have hclass : (conformed variant lines).subject.hasClass = true := by
        simpa [Subject.hasClass] using className_ne_nil_of_completed hfirst
      have hwired := IdentifierSetter.wiredOutlets_eq_nil_of_declined hclass hdeclined
      rw [IdentifierSetter.run_of_wiredOutlets_nil hclass hwired] at hlines
      obtain ⟨declared, hconforms, hname⟩ :=
        hsteady.exists_conforms (className_ne_nil_of_completed hfirst)
      have houtlets := Lines.outlets_reparse (fun line hline => (hread line hline).1)
        fun line hline => (hread line hline).2
      obtain ⟨again, hagain, hsame, hnil⟩ := sequence_of_wiredOutlets_nil hconforms
        ((wiredOutlets_eq_of_outlets hfirst hname houtlets).trans hwired)
      rw [hlines]
      exact ⟨again, hagain, hsame, hnil, fun hmem => absurd hmem hm⟩
    | pageObject _ _ _ _ _ _ _ _ hends => exact absurd (by simp [hends.1]) hm
    | complete _ _ _ _ _ _ _ _ hends => exact absurd (by simp [hends.1, standard]) hm

end Stage

/-! ## Generating twice -/

theorem Catalogue.resolve?_standard (h : variant ∈ standard) :
    standard.resolve? variant.selector = some variant := by
  simp only [standard, List.mem_cons, List.not_mem_nil, or_false] at h
  rcases h with rfl | rfl <;> decide

theorem generate_eq_ok_iff (hv : variant ∈ Catalogue.standard) {source text : Text}
    {report : Report} :
    generate source variant.selector = .ok (text, report) ↔
      ∃ outcome, Stage.sequence variant Stage.standard (Lines.ofText source) = some outcome ∧
        text = outcome.lines.toText ∧ report = variant.report (Lines.ofText source) outcome := by
  unfold generate Catalogue.dispatch Variant.run
  rw [Catalogue.resolve?_standard hv]
  cases hs : Stage.sequence variant Stage.standard (Lines.ofText source) with
  | none => simp [hs, Except.map]
  | some outcome => simp [hs, Except.map, eq_comm]

/-- What is generated from a source is generated from itself, with nothing left to wire, if the
names in the source are clear and the conformance stage leaves its own lines as they are when they
are read back. Where a page object is added, it has to leave them with a terminator at their end
too. -/
theorem generate_again (hv : variant ∈ Catalogue.standard) {source text : Text} {report : Report}
    (h : generate source variant.selector = .ok (text, report))
    (hn : ∀ outcome ∈ Stage.sequence variant Stage.standard (Lines.ofText source),
      Stage.Named variant (Lines.ofText source) outcome)
    (hsteady : Steady variant (reparse (Stage.conformed variant (Lines.ofText source)).lines)
      (Stage.conformed variant (Lines.ofText source)).subject)
    (hclosed : .pageObject ∈ report.completed → ∀ ending, Steady variant
      (terminateLast ending (reparse (Stage.conformed variant (Lines.ofText source)).lines))
      (Stage.conformed variant (Lines.ofText source)).subject) :
    ∃ again, generate text variant.selector = .ok (text, again) ∧ again.changed = false ∧
      again.outlets = [] ∧
      (.identifierSetter ∈ report.completed → again.alreadyGenerated = true ∧
        again.completed = [.conformance, .identifierSetter] ∧
        again.declined? = some ⟨.pageObject, .noOutlets⟩) := by
  obtain ⟨outcome, hsequence, rfl, rfl⟩ := (generate_eq_ok_iff hv).1 h
  have hl : reparse (Lines.ofText source) = Lines.ofText source := by
    rw [reparse, Lines.toText_ofText]
  obtain ⟨again, hagain, hlines, houtlets, hends⟩ := Stage.sequence_again hl hsequence
    (hn outcome hsequence) (Catalogue.worded_of_mem_standard hv) hsteady hclosed
  refine ⟨variant.report (reparse outcome.lines) again, ?_, ?_, ?_, hends⟩
  · refine (generate_eq_ok_iff hv).2 ⟨again, hagain, ?_, rfl⟩
    rw [hlines, reparse, Lines.toText_ofText]
  · simp [Variant.report, hlines]
  · simp [Variant.report, houtlets]

/-- A file with an interface protocol, one outlet declared twice and a setter that binds none, whose
last line is not terminated. -/
def halfWired : Lines :=
  ["import UIKit\r\n", "protocol LoginView: AnyObject \x7b\x7d\r\n",
    "class LoginViewController: Base \x7b\r\n", "\t@IBOutlet weak var name: UILabel!\r\n",
    "\t@IBOutlet weak var name: UILabel!\r\n", "\tfunc setAccessibilityIdentifiers() \x7b\r\n",
    "\t\x7d\r\n", "\x7d"]

theorem generate_again_halfWired :
    ∃ text report, generate halfWired.toText Variant.dev.selector = .ok (text, report) ∧
      report.completed = Stage.standard ∧
      ∃ again, generate text Variant.dev.selector = .ok (text, again) ∧ again.changed = false ∧
        again.outlets = [] ∧ (.identifierSetter ∈ report.completed →
          again.alreadyGenerated = true ∧ again.completed = [.conformance, .identifierSetter] ∧
          again.declined? = some ⟨.pageObject, .noOutlets⟩) := by
  have hv : Variant.dev ∈ Catalogue.standard := by decide
  have hread : Lines.ofText halfWired.toText = halfWired :=
    Lines.reparse_of_single (by decide) (by decide)
  have hrun : ∃ outcome ∈ Stage.sequence .dev Stage.standard halfWired,
      outcome.completed = Stage.standard ∧ Naming.Clear outcome.subject.enumName := by
    decide
  obtain ⟨outcome, houtcome, hcompleted, henum⟩ := hrun
  have hok := (generate_eq_ok_iff hv).2 ⟨outcome, hread ▸ houtcome, rfl, rfl⟩
  refine ⟨_, _, hok, hcompleted, generate_again hv hok ?_ ?_ ?_⟩
  · rw [hread, houtcome]
    rintro other ⟨⟩
    exact ⟨by decide, by decide, henum⟩
  · rw [hread]
    decide
  · rintro - ending
    rw [hread]
    cases ending <;> decide

def endsInName : Lines :=
  ["protocol A: AccessibilityIdentifiable \x7b\n", "\tfunc setAccessibilityIdentifiers()\n", "\x7d\n",
    "\t@IBOutlet weak var x: T!\n", "class A:"]

set_option maxRecDepth 1024 in
/-- The names are clear and the conformance stage leaves its own lines as they are. But the run
terminates the last line, and the next reads the terminator as a part of the class name. -/
theorem className_read_with_terminator :
    Lines.ofText endsInName.toText = endsInName ∧
    (∀ outcome ∈ Stage.sequence .qa Stage.standard endsInName,
      Stage.Named .qa endsInName outcome) ∧
    Steady .qa (reparse (Stage.conformed .qa endsInName).lines)
      (Stage.conformed .qa endsInName).subject ∧
    ∃ first second,
      generate endsInName.toText Variant.qa.selector = .ok first ∧
      generate first.1 Variant.qa.selector = .ok second ∧ second.1 ≠ first.1 ∧
      second.2.className? = some "A\n".toList := by
  have hv : Variant.qa ∈ Catalogue.standard := by decide
  have hread : Lines.ofText endsInName.toText = endsInName :=
    Lines.reparse_of_single (by decide) (by decide)
  have hrun : ∃ outcome ∈ Stage.sequence .qa Stage.standard endsInName,
      Naming.Clear outcome.subject.enumName ∧ (∀ line ∈ outcome.lines, Lines.Single line) ∧
      (∀ line ∈ outcome.lines.dropLast, Lines.terminated line = true) ∧
      ∃ again ∈ Stage.sequence .qa Stage.standard outcome.lines,
        again.lines.toText ≠ outcome.lines.toText ∧ again.subject.className = "A\n".toList := by
    decide
  obtain ⟨outcome, houtcome, henum, hsingle, hterminated, again, hagain, htext, hname⟩ := hrun
  have hfirst := (generate_eq_ok_iff hv).2 ⟨outcome, hread ▸ houtcome, rfl, rfl⟩
  have hreread : Lines.ofText outcome.lines.toText = outcome.lines :=
    Lines.reparse_of_single hsingle hterminated
  have hsecond := (generate_eq_ok_iff hv).2 ⟨again, hreread.symm ▸ hagain, rfl, rfl⟩
  refine ⟨hread, ?_, by decide, _, _, hfirst, hsecond, htext, ?_⟩
  · rw [houtcome]
    rintro other ⟨⟩
    exact ⟨by decide, by decide, henum⟩
  · simp [Variant.report, Subject.hasClass, hname]

end OutletWiring

import OutletWiring.Proofs.Run.FixedPoint

/-!
# What the report of a run tells

Four questions decide the report: whether there are lines, whether they declare a class, which
outlets there are to wire after the conformance stage, and whether the lines have a setter by then
that binds them all. The setter stage looks for each binding in lines that it adds to itself, but
nothing is added before the first outlet that is not bound, so the lines it starts from decide
(`bindMissing_outlets_eq_nil_iff`).
-/

namespace OutletWiring

open IdentifierSetter (isBound wiredOutlets)

/-! ## How each stage ends -/

namespace Lines

theorem length_appendBlock (lines block : Lines) :
    (lines.appendBlock block).length = lines.length + block.length := by
  simp [appendBlock_eq]

end Lines

namespace Conformance

variable {variant : Variant} {lines : Lines} {subject : Subject}

theorem run_of_classless (hne : lines ≠ []) (hc : lines.classDeclaration? = none) :
    run variant lines subject = ⟨lines, subject, .declined .noClassDeclaration, []⟩ := by
  have hempty : lines.isEmpty = false := List.isEmpty_eq_false_iff.2 hne
  simp [run, runM, hempty, hc]

theorem Conformed.length_eq {edited conformed : Lines}
    (h : Conformed variant lines edited conformed) : edited.length = lines.length := by
  cases h with
  | unchanged => rfl
  | declared hc he => exact length_of_declareAt? he
  | imported hc hm hi he => exact length_of_declareAt? he
  | importTarget => rfl

theorem length_le_run (h : (run variant lines subject).verdict ≠ .stuck) :
    lines.length ≤ (run variant lines subject).lines.length := by
  obtain ⟨edited, hconformed⟩ := conformed_run h
  exact hconformed.length_eq ▸ hconformed.sublist.length_le

end Conformance

namespace IdentifierSetter

variable {variant : Variant} {lines : Lines} {subject : Subject}

/-- No outlet is bound exactly if all were bound before: the first that was not is looked for in
lines to which nothing has been added yet. -/
theorem bindMissing_outlets_eq_nil_iff (lines : Lines) (cursor : Nat) (outlets : List Outlet) :
    (bindMissing lines cursor outlets).outlets = [] ↔ ∀ o ∈ outlets, isBound lines o = true := by
  refine ⟨fun h => ?_, fun h => (bindMissing_of_isBound h cursor).2⟩
  induction outlets with
  | nil => simp
  | cons outlet outlets ih =>
    by_cases hb : isBound lines outlet = true
    · have hrest : (bindMissing lines cursor outlets).outlets = [] := by
        simpa [bindMissing_cons, hb] using h
      exact List.forall_mem_cons.2 ⟨hb, ih hrest⟩
    · simp [bindMissing_cons, hb] at h

section Wired

variable (hc : subject.hasClass = true) (hw : wiredOutlets variant subject lines ≠ [])
include hc hw

/-- A stage that writes a setter passes all outlets on and leaves more lines. -/
theorem run_fresh (hs : lines.setter? = none) :
    (run variant lines subject).verdict = .completed ∧
      (run variant lines subject).subject.outlets = wiredOutlets variant subject lines ∧
      (run variant lines subject).subject.alreadyGenerated = false ∧
      lines.length < (run variant lines subject).lines.length := by
  rw [run_of_setter_none hc hw hs]
  refine ⟨rfl, rfl, rfl, ?_⟩
  rw [lines_writeFresh, Lines.length_appendBlock, Lines.length_appendBlock]
  have hblock := List.length_pos_iff.2 (setterBlock_ne_nil (writeFresh
    { subject with outlets := wiredOutlets variant subject lines } lines).subject)
  omega

/-- A stage that finds a setter passes no outlet on exactly if all are bound. -/
theorem run_extended (hs : lines.setter? ≠ none) :
    (run variant lines subject).verdict = .completed ∧
      (run variant lines subject).subject.alreadyGenerated = true ∧
      ((run variant lines subject).subject.outlets = [] ↔
        ∀ o ∈ wiredOutlets variant subject lines, isBound lines o = true) := by
  obtain ⟨index, hindex⟩ := Option.ne_none_iff_exists'.1 hs
  rw [run_of_setter_some hc hw hindex]
  exact ⟨rfl, rfl, bindMissing_outlets_eq_nil_iff lines (index + 1) _⟩

end Wired

end IdentifierSetter

namespace PageObject

variable {variant : Variant} {lines : Lines} {subject : Subject}

/-- The stage declines exactly if there is nothing to add. -/
theorem run_verdict (hc : subject.hasClass = true) :
    (run variant lines subject).verdict =
      if subject.outlets = [] then .declined .noOutlets else .completed := by
  unfold run runM
  by_cases ho : subject.outlets = [] <;> simp [hc, ho]

theorem length_le_run (variant : Variant) (lines : Lines) (subject : Subject) :
    lines.length ≤ (run variant lines subject).lines.length := by
  rcases run_cases variant lines subject with ⟨-, _, hrun⟩ | ⟨-, hrun⟩
  · rw [hrun]
  · rw [hrun, Lines.length_appendBlock]
    exact Nat.le_add_right _ _

end PageObject

/-! ## The run -/

namespace Stage

variable {variant : Variant} {lines : Lines} {outcome : Outcome}

abbrev wired (variant : Variant) (lines : Lines) : List Outlet :=
  wiredOutlets variant (conformed variant lines).subject (conformed variant lines).lines

abbrev extended (variant : Variant) (lines : Lines) : Result :=
  IdentifierSetter.run variant (conformed variant lines).lines (conformed variant lines).subject

section Declared

variable {declared : Lines.ClassDeclaration} (hd : lines.classDeclaration? = some declared)
include hd

theorem name_ne_nil_of_declared : declared.name ≠ [] := by
  obtain ⟨-, line, -, hname⟩ := Lines.classDeclaration?_eq_some_iff.1 hd
  exact (Line.className?_eq_some hname).1

/-- The class that is declared is the one that the setter stage passes on. -/
theorem extended_className :
    (extended variant lines).subject.className = declared.name ∧
      (extended variant lines).subject.viewKind = ViewKind.ofClassName declared.name := by
  obtain ⟨hname, hkind⟩ := IdentifierSetter.run_className variant (conformed variant lines).lines
    (conformed variant lines).subject
  rw [hname, hkind, Conformance.run_subject_of_some hd]
  exact ⟨rfl, rfl⟩

theorem hasClass_conformed : (conformed variant lines).subject.hasClass = true := by
  have hne := name_ne_nil_of_declared hd
  rw [Conformance.run_subject_of_some hd]
  simp [Subject.hasClass, Conformance.found, hne]

variable (h : Course variant lines outcome)
include h

/-- How a run over lines that declare a class ends, by how the setter stage ends in it. -/
theorem Course.ends :
    outcome.subject = (extended variant lines).subject ∧
      ((∃ reason, (extended variant lines).verdict = .declined reason ∧
          outcome.completed = [.conformance] ∧
          outcome.declined? = some ⟨.identifierSetter, reason⟩) ∨
        (extended variant lines).verdict = .completed ∧
          (extended variant lines).lines.length ≤ outcome.lines.length ∧
          if outcome.subject.outlets = [] then
            outcome.completed = [.conformance, .identifierSetter] ∧
              outcome.declined? = some ⟨.pageObject, .noOutlets⟩
          else outcome.completed = standard ∧ outcome.declined? = none) := by
  have hclass : (extended variant lines).subject.hasClass = true := by
    have hne := name_ne_nil_of_declared hd
    simp [Subject.hasClass, (extended_className hd).1, hne]
  cases h with
  | conformance hfirst =>
    rw [eq_none_of_declined hfirst] at hd
    cases hd
  | identifierSetter hf hfirst hs hsecond hlines hsubject hends =>
    subst hf hs
    exact ⟨hsubject, .inl ⟨_, hsecond, hends⟩⟩
  | pageObject hf hfirst hs hsecond ht hthird hlines hsubject hends =>
    subst hf hs ht
    rw [PageObject.run_subject] at hsubject
    rw [PageObject.run_verdict hclass] at hthird
    split_ifs at hthird with houtlets
    cases hthird
    refine ⟨hsubject, .inr ⟨hsecond, hlines ▸ PageObject.length_le_run .., ?_⟩⟩
    rw [if_pos (by rw [hsubject, houtlets])]
    exact hends
  | complete hf hfirst hs hsecond ht hthird hlines hsubject hends =>
    subst hf hs ht
    rw [PageObject.run_subject] at hsubject
    rw [PageObject.run_verdict hclass] at hthird
    split_ifs at hthird with houtlets
    refine ⟨hsubject, .inr ⟨hsecond, hlines ▸ PageObject.length_le_run .., ?_⟩⟩
    rw [if_neg (by rwa [hsubject])]
    exact hends

/-- If the setter stage completes, the outlets that it passes on decide whether the run does. -/
theorem Course.ends_of_completed (hv : (extended variant lines).verdict = .completed) :
    (extended variant lines).lines.length ≤ outcome.lines.length ∧
      if outcome.subject.outlets = [] then
        outcome.completed = [.conformance, .identifierSetter] ∧
          outcome.declined? = some ⟨.pageObject, .noOutlets⟩
      else outcome.completed = standard ∧ outcome.declined? = none := by
  obtain ⟨-, ⟨reason, hdeclined, -⟩ | ⟨-, hends⟩⟩ := h.ends hd
  · rw [hv] at hdeclined
    cases hdeclined
  · exact hends

theorem Course.ends_unwired (hw : wired variant lines = []) :
    outcome.declined? = some ⟨.identifierSetter, .noOutlets⟩ ∧
      outcome.completed = [.conformance] ∧ outcome.subject.outlets = [] := by
  have hrun : extended variant lines = _ :=
    IdentifierSetter.run_of_wiredOutlets_nil (hasClass_conformed hd) hw
  obtain ⟨hsubject, ⟨reason, hdeclined, hcompleted, hends⟩ | ⟨hcompleted, -⟩⟩ := h.ends hd
  · rw [hrun] at hsubject hdeclined
    cases hdeclined
    exact ⟨hends, hcompleted, by rw [hsubject]⟩
  · rw [hrun] at hcompleted
    cases hcompleted

theorem Course.ends_fresh (hw : wired variant lines ≠ [])
    (hs : (conformed variant lines).lines.setter? = none) :
    outcome.declined? = none ∧ outcome.completed = standard ∧
      outcome.subject.outlets = wired variant lines ∧ outcome.subject.alreadyGenerated = false ∧
      lines.length < outcome.lines.length := by
  obtain ⟨hverdict, houtlets, hgenerated, hlength⟩ :=
    IdentifierSetter.run_fresh (hasClass_conformed hd) hw hs
  obtain ⟨hsubject, -⟩ := h.ends hd
  obtain ⟨hmore, hends⟩ := h.ends_of_completed hd hverdict
  rw [← hsubject] at houtlets hgenerated
  rw [if_neg (houtlets ▸ hw)] at hends
  have hfirst := Conformance.length_le_run h.verdict_ne_stuck
  exact ⟨hends.2, hends.1, houtlets, hgenerated, hfirst.trans_lt (hlength.trans_le hmore)⟩

theorem Course.ends_extended (hw : wired variant lines ≠ [])
    (hs : (conformed variant lines).lines.setter? ≠ none) :
    outcome.subject.alreadyGenerated = true ∧
      if ∀ o ∈ wired variant lines, IdentifierSetter.isBound (conformed variant lines).lines o = true then
        outcome.declined? = some ⟨.pageObject, .noOutlets⟩ ∧ outcome.subject.outlets = [] ∧
          outcome.completed = [.conformance, .identifierSetter]
      else outcome.declined? = none ∧ outcome.completed = standard := by
  obtain ⟨hverdict, hgenerated, houtlets⟩ :=
    IdentifierSetter.run_extended (hasClass_conformed hd) hw hs
  obtain ⟨hsubject, -⟩ := h.ends hd
  obtain ⟨-, hends⟩ := h.ends_of_completed hd hverdict
  rw [← hsubject] at houtlets hgenerated
  refine ⟨hgenerated, ?_⟩
  split_ifs with hbound
  · have hnil := houtlets.2 hbound
    rw [if_pos hnil] at hends
    exact ⟨hends.2, hnil, hends.1⟩
  · rw [if_neg (mt houtlets.1 hbound)] at hends
    exact ⟨hends.2, hends.1⟩

end Declared

end Stage

/-! ## The report -/

open Stage (conformed wired)

/-- The report says where a run over the lines ended and why, and what it has wired. -/
structure Report.Exact (variant : Variant) (lines : Lines) (report : Report) : Prop where
  empty : lines = [] → report.declined? = some ⟨.conformance, .emptyBuffer⟩
  classless : lines ≠ [] → lines.classDeclaration? = none →
    report.declined? = some ⟨.conformance, .noClassDeclaration⟩
  unnamed : lines.classDeclaration? = none →
    report.completed = [] ∧ report.className? = none ∧ report.viewKind? = none
  named : ∀ declared ∈ lines.classDeclaration?, report.className? = some declared.name ∧
    report.viewKind? = some (ViewKind.ofClassName declared.name)
  /-- There is no outlet to wire. -/
  unwired : lines.classDeclaration? ≠ none → wired variant lines = [] →
    report.declined? = some ⟨.identifierSetter, .noOutlets⟩ ∧
      report.completed = [.conformance] ∧ report.outlets = []
  /-- There are outlets, and no setter that could bind one. -/
  fresh : lines.classDeclaration? ≠ none → wired variant lines ≠ [] →
    (conformed variant lines).lines.setter? = none →
      report.declined? = none ∧ report.completed = Stage.standard ∧
        report.outlets = (wired variant lines).map Outlet.name ∧
        report.alreadyGenerated = false ∧ report.changed = true
  /-- There are outlets and a setter. -/
  extended : lines.classDeclaration? ≠ none → wired variant lines ≠ [] →
    (conformed variant lines).lines.setter? ≠ none →
      report.alreadyGenerated = true ∧
        (report.declined? = some ⟨.pageObject, .noOutlets⟩ ∧ report.outlets = [] ∧
            report.completed = [.conformance, .identifierSetter] ↔
          ∀ o ∈ wired variant lines, isBound (conformed variant lines).lines o = true) ∧
        ((∃ o ∈ wired variant lines, isBound (conformed variant lines).lines o = false) →
          report.declined? = none ∧ report.completed = Stage.standard)
  /-- Nothing else is given as a reason. -/
  only : ∀ declined ∈ report.declined?, declined ∈ ([⟨.conformance, .emptyBuffer⟩,
    ⟨.conformance, .noClassDeclaration⟩, ⟨.identifierSetter, .noOutlets⟩,
    ⟨.pageObject, .noOutlets⟩] : List Stage.Declined)

namespace Stage

variable {variant : Variant} {lines : Lines} {outcome : Outcome}

/-- Without a class, the conformance stage ends the run and knows nothing. -/
theorem Course.report_of_none (h : Course variant lines outcome)
    (hd : lines.classDeclaration? = none) :
    (variant.report lines outcome).Exact variant lines := by
  have hrun : ∃ reason, conformed variant lines = ⟨lines, {}, .declined reason, []⟩ ∧
      reason = if lines = [] then .emptyBuffer else .noClassDeclaration := by
    by_cases hne : lines = []
    · subst hne
      exact ⟨_, rfl, rfl⟩
    · exact ⟨_, Conformance.run_of_classless hne hd, by rw [if_neg hne]⟩
  obtain ⟨reason, hrun, hreason⟩ := hrun
  cases h with
  | conformance hfirst hlines hsubject hends =>
    have hsame : Verdict.declined reason = .declined _ :=
      (congrArg Result.verdict hrun).symm.trans hfirst
    cases hsame
    have hempty : outcome.subject = {} := hsubject.trans (congrArg Result.subject hrun)
    have hdeclined : (variant.report lines outcome).declined? = some ⟨.conformance, reason⟩ := hends.2
    refine ⟨fun hnil => ?_, fun hne _ => ?_, fun _ => ⟨hends.1, ?_, ?_⟩, ?_, ?_, ?_, ?_, ?_⟩
    · rw [hdeclined, hreason, if_pos hnil]
    · rw [hdeclined, hreason, if_neg hne]
    · simp [Variant.report, hempty, Subject.hasClass]
    · simp [Variant.report, hempty, Subject.hasClass]
    · simp [hd]
    · exact fun hne => absurd hd hne
    · exact fun hne => absurd hd hne
    · exact fun hne => absurd hd hne
    · intro declined hmem
      rw [hdeclined, Option.mem_some_iff] at hmem
      rw [← hmem, hreason]
      split_ifs <;> simp
  | identifierSetter hf hfirst => simp [hf, hrun] at hfirst
  | pageObject hf hfirst => simp [hf, hrun] at hfirst
  | complete hf hfirst => simp [hf, hrun] at hfirst

/-- With a class, the report follows the stage in which the run ends. -/
theorem Course.report_of_some (h : Course variant lines outcome) {declared : Lines.ClassDeclaration}
    (hd : lines.classDeclaration? = some declared) :
    (variant.report lines outcome).Exact variant lines := by
  have hne := name_ne_nil_of_declared hd
  obtain ⟨hname, hkind⟩ := @extended_className variant lines declared hd
  rw [← (h.ends hd).1] at hname hkind
  refine ⟨fun hnil => ?_, fun _ hnone => ?_, fun hnone => ?_, fun other hother => ?_,
    fun _ hw => ?_, fun _ hw hs => ?_, fun _ hw hs => ?_, ?_⟩
  · rw [hnil] at hd
    cases hd
  · rw [hd] at hnone
    cases hnone
  · rw [hd] at hnone
    cases hnone
  · rw [hd, Option.mem_some_iff] at hother
    subst hother
    simp [Variant.report, Subject.hasClass, hname, hkind, hne]
  · obtain ⟨hdeclined, hcompleted, houtlets⟩ := h.ends_unwired hd hw
    exact ⟨hdeclined, hcompleted, by simp [Variant.report, houtlets]⟩
  · obtain ⟨hdeclined, hcompleted, houtlets, hgenerated, hlength⟩ := h.ends_fresh hd hw hs
    refine ⟨hdeclined, hcompleted, by simp [Variant.report, houtlets], hgenerated, ?_⟩
    have hlines : outcome.lines ≠ lines := fun heq => by simp [heq] at hlength
    simpa [Variant.report] using hlines
  · obtain ⟨hgenerated, hends⟩ := h.ends_extended hd hw hs
    refine ⟨hgenerated, ⟨?_, fun hbound => ?_⟩, ?_⟩
    · rintro ⟨hdeclined, -⟩
      by_contra hbound
      rw [if_neg hbound] at hends
      have hnone : outcome.declined? = some ⟨.pageObject, .noOutlets⟩ := hdeclined
      rw [hends.1] at hnone
      cases hnone
    · rw [if_pos hbound] at hends
      exact ⟨hends.1, by simp [Variant.report, hends.2.1], hends.2.2⟩
    · rintro ⟨o, ho, hbound⟩
      rw [if_neg fun hall => by simp [hall o ho] at hbound] at hends
      exact hends
  · intro declined hmem
    have hmem' : outcome.declined? = some declined := hmem
    by_cases hw : wired variant lines = []
    · rw [(h.ends_unwired hd hw).1, Option.some.injEq] at hmem'
      simp [← hmem']
    · by_cases hs : (conformed variant lines).lines.setter? = none
      · rw [(h.ends_fresh hd hw hs).1] at hmem'
        cases hmem'
      · have hends := (h.ends_extended hd hw hs).2
        split_ifs at hends
        · rw [hends.1, Option.some.injEq] at hmem'
          simp [← hmem']
        · rw [hends.1] at hmem'
          cases hmem'

end Stage

/-- The report of a run tells exactly what happened in it. -/
theorem Variant.run_report_exact {variant : Variant} {lines : Lines} {generated : Generated}
    (h : variant.run lines = some generated) : generated.report.Exact variant lines := by
  obtain ⟨outcome, hsequence, rfl⟩ := Option.map_eq_some_iff.1 h
  have hcourse := Stage.course_of_sequence hsequence
  cases hd : lines.classDeclaration? with
  | none => exact hcourse.report_of_none hd
  | some declared => exact hcourse.report_of_some hd

/-- One of two outlets has no binding in the setter that is there, so the run goes on to its end. -/
theorem Variant.run_report_exact_wiredBefore :
    ∃ generated, Variant.dev.run Stage.wiredBefore = some generated ∧
      generated.report.Exact .dev Stage.wiredBefore ∧
      generated.report.alreadyGenerated = true ∧ generated.report.completed = Stage.standard := by
  obtain ⟨outcome, hsequence⟩ := Stage.exists_sequence Stage.not_stuck_wiredBefore
  have h : Variant.dev.run Stage.wiredBefore = some _ := Option.map_eq_some_iff.2 ⟨_, hsequence, rfl⟩
  have hexact := Variant.run_report_exact h
  have hclass : Stage.wiredBefore.classDeclaration? ≠ none := by decide +kernel
  have hextends : Stage.wired .dev Stage.wiredBefore ≠ [] ∧
      (Stage.conformed .dev Stage.wiredBefore).lines.setter? ≠ none ∧
      ∃ o ∈ Stage.wired .dev Stage.wiredBefore,
        IdentifierSetter.isBound (Stage.conformed .dev Stage.wiredBefore).lines o = false := by
    decide +kernel
  obtain ⟨hwired, hsetter, hunbound⟩ := hextends
  obtain ⟨hgenerated, -, hcompleted⟩ := hexact.extended hclass hwired hsetter
  exact ⟨_, h, hexact, hgenerated, (hcompleted hunbound).2⟩

end OutletWiring

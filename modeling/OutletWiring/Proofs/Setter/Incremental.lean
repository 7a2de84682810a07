import OutletWiring.Proofs.Line.Quiet
import OutletWiring.Proofs.Setter.Coherent
import OutletWiring.Proofs.Setter.Wired

/-!
# Wiring in two steps

Outlets can be wired at once, by a setter that is written new, or some of them later, into the
setter that is there by then. The two ways are separate code and put their lines in different
places, but up to its order a file gets the same bindings and the same cases.

The bindings and the cases are two forms of lines (`Form`). For each, a run adds the lines of the
outlets that it leaves in its subject, and that of the cell if it identifies the cell.
-/

namespace OutletWiring.IdentifierSetter

open Identifiers
open Draft (row)
open Lines (Uniform withEnding)
open Line (Mark.binding)
open Naming (IsIdentifier)
open scoped List

/-- Nothing in the subject can be taken for the call that binds. -/
structure Clean (subject : Subject) : Prop where
  className : '(' ∉ subject.className
  enumName : Text.occursIn Mark.binding subject.enumName = false
  outlets : ∀ o ∈ subject.outlets, Bare o.name

/-- A form of lines that runs leave behind: how such a line is told from others, the lines of an
outlet, and the line of a cell by the name of its class. -/
structure Form where
  holds : Text → Bool
  ofOutlet : Outlet → Lines
  ofCell : Text → Text

namespace Form

def rows (form : Form) (subject : Subject) : Lines :=
  subject.outlets.flatMap form.ofOutlet ++
    if subject.identifiesCell then [form.ofCell subject.className] else []

/-- Both ways of wiring write exactly the lines of the form, and recognising them does not depend
on the terminator. -/
structure Lawful (form : Form) : Prop where
  ignores : Lines.IgnoresEnding form.holds
  fresh : ∀ {subject : Subject}, Clean subject →
    (setterBlock subject ++ enumBlock subject).filter form.holds = form.rows subject
  extension : ∀ {subject : Subject}, Clean subject → subject.alreadyGenerated = true →
    ∀ lines, (extensionBlock subject lines).filter form.holds = form.rows subject

def bindings : Form where
  holds := Text.occursIn Mark.binding
  ofOutlet := bindingLines
  ofCell className := cellRow { className }

def cases : Form where
  holds := ("\t\tcase " : Text).isPrefixOf
  ofOutlet outlet := outlet.cases.map caseRow
  ofCell className := caseRow (Naming.cellIdentifier className)

theorem filter_bindsNothing {block : Lines} (h : BindsNothing block) :
    block.filter bindings.holds = [] :=
  List.filter_eq_nil_iff.2 fun line hline => by simp [bindings, h line hline]

theorem holds_row_binding (rest : Text) : bindings.holds (row 2 (Mark.binding ++ rest)) = true :=
  Text.occursIn_append_left (Text.occursIn_append_right (Text.occursIn_append_left
    (Text.occursIn_iff.2 (List.infix_refl _))))

theorem filter_bindingLines (outlets : List Outlet) :
    (outlets.flatMap bindingLines).filter bindings.holds = outlets.flatMap bindingLines := by
  have hrow : ∀ target name, bindings.holds (bindingRow target name) = true := fun target name => by
    have := holds_row_binding (target ++ ", using: ." ++ name ++ ")")
    simpa only [bindingRow, List.append_assoc] using this
  rw [List.filter_eq_self]
  intro line hline
  obtain ⟨outlet, -, hline⟩ := List.mem_flatMap.1 hline
  rw [bindingLines_eq, List.mem_cons] at hline
  rcases hline with rfl | hline
  · exact hrow _ _
  · split_ifs at hline
    · rw [List.mem_singleton] at hline
      exact hline ▸ hrow _ _
    · cases hline

theorem filter_cellRows (subject : Subject) :
    (cellRows subject).filter bindings.holds =
      if subject.identifiesCell then [cellRow subject] else [] := by
  have hcell : bindings.holds (cellRow subject) = true := by
    have := holds_row_binding ("self, using: ." ++ subject.cellIdentifier ++ ", index: index)")
    simpa only [cellRow, List.append_assoc] using this
  unfold cellRows
  split_ifs
  · rw [List.filter_cons_of_neg (by decide), List.filter_cons_of_neg (by decide),
      List.filter_cons_of_pos hcell, List.filter_cons_of_neg (by decide), List.filter_nil]
  · rfl

theorem lawful_bindings : Lawful bindings where
  ignores := Lines.ignoresEnding_occursIn (by decide) (by decide)
  fresh {subject} h := by
    have henum := filter_bindsNothing (bindsNothing_enumBlock h.className h.enumName h.outlets)
    have hhead := filter_bindsNothing (bindsNothing_setterHead h.className h.enumName)
    have hclose : ∀ level < 2, bindings.holds (row level "\x7d") = false := by decide
    rw [List.filter_append, henum, List.append_nil, setterBlock_eq, List.filter_append,
      List.filter_append, hhead, filter_bindingLines, List.nil_append,
      List.filter_cons_of_neg (by simp only [hclose 1 (by decide)]; decide), List.filter_append,
      filter_cellRows, List.filter_cons_of_neg (by simp only [hclose 0 (by decide)]; decide)]
    rw [List.filter_nil, List.append_nil]
    rfl
  extension {subject} h hgenerated lines := by
    have hcell : subject.identifiesCell = false := by simp [Subject.identifiesCell, hgenerated]
    have hcases : (if subject.outlets.isEmpty then [] else casesBlock subject lines).filter
        bindings.holds = [] := by
      split_ifs
      · rfl
      · exact filter_bindsNothing (bindsNothing_casesBlock h.className h.enumName h.outlets lines)
    rw [extensionBlock, List.filter_append, filter_bindingLines, hcases, rows, hcell]
    rfl

theorem cases_holds_caseRow (name : Text) : cases.holds (caseRow name) = true := by
  simp [cases, caseRow, row]

theorem filter_caseLines (subject : Subject) :
    (caseLines subject).filter cases.holds = cases.rows subject := by
  rw [caseLines_eq, List.filter_eq_self.2]
  · unfold rows Subject.cases
    rw [List.map_append, List.map_flatMap]
    split_ifs <;> rfl
  · intro line hline
    obtain ⟨name, -, rfl⟩ := List.mem_map.1 hline
    exact cases_holds_caseRow name

theorem cases_holds_row_binding (rest : Text) :
    cases.holds (row 2 (Mark.binding ++ rest)) = false := by
  rw [binding_eq]
  simp [cases, row, List.isPrefixOf]

theorem filter_cases_bindingLines (outlets : List Outlet) :
    (outlets.flatMap bindingLines).filter cases.holds = [] := by
  have hrow : ∀ target name, cases.holds (bindingRow target name) = false := fun target name => by
    have := cases_holds_row_binding (target ++ ", using: ." ++ name ++ ")")
    simpa only [bindingRow, List.append_assoc] using this
  rw [List.filter_eq_nil_iff]
  intro line hline
  obtain ⟨outlet, -, hline⟩ := List.mem_flatMap.1 hline
  rw [bindingLines_eq, List.mem_cons] at hline
  rw [Bool.not_eq_true]
  rcases hline with rfl | hline
  · exact hrow _ _
  · split_ifs at hline
    · rw [List.mem_singleton] at hline
      exact hline ▸ hrow _ _
    · cases hline

theorem filter_cases_setterBlock (subject : Subject) :
    (setterBlock subject).filter cases.holds = [] := by
  have hcell : cases.holds (cellRow subject) = false := by
    have := cases_holds_row_binding ("self, using: ." ++ subject.cellIdentifier ++ ", index: index)")
    simpa only [cellRow, List.append_assoc] using this
  have hcells : (cellRows subject).filter cases.holds = [] := by
    unfold cellRows
    split_ifs
    · rw [List.filter_cons_of_neg (by decide), List.filter_cons_of_neg (by decide),
        List.filter_cons_of_neg (by simp [hcell]), List.filter_cons_of_neg (by decide),
        List.filter_nil]
    · rfl
  have hhead : (setterHead subject).filter cases.holds = [] := by
    rw [List.filter_eq_nil_iff]
    intro line hline
    simp only [setterHead, List.mem_cons, List.not_mem_nil, or_false] at hline
    rcases hline with rfl | rfl | rfl | rfl | rfl | rfl
    · decide
    · decide
    · simp [cases, row]
    · rw [typealias_eq]
      simp [cases, row]
    · decide
    · decide
  rw [setterBlock_eq, List.filter_append, List.filter_append, hhead, filter_cases_bindingLines,
    List.filter_cons_of_neg (by decide), List.filter_append, hcells,
    List.filter_cons_of_neg (by decide)]
  rfl

theorem filter_cases_enumBlock (subject : Subject) :
    (enumBlock subject).filter cases.holds = cases.rows subject := by
  have hhead : (enumHead subject).filter cases.holds = [] := by
    rw [List.filter_eq_nil_iff]
    intro line hline
    simp only [enumHead, List.mem_cons, List.not_mem_nil, or_false] at hline
    rcases hline with rfl | rfl | rfl | rfl
    · decide
    · decide
    · simp [cases, row]
    · simp [cases, row]
  rw [enumBlock_eq, List.filter_append, List.filter_append, hhead, filter_caseLines,
    List.filter_cons_of_neg (by decide), List.filter_cons_of_neg (by decide)]
  simp

theorem lawful_cases : Lawful cases where
  ignores line ending := by
    have hnewline : '\n' ∉ ("\t\tcase " : Text) := by decide
    have hreturn : '\r' ∉ ("\t\tcase " : Text) := by decide
    show ("\t\tcase " : Text).isPrefixOf _ = ("\t\tcase " : Text).isPrefixOf _
    rw [Bool.eq_iff_iff, List.isPrefixOf_iff_prefix, List.isPrefixOf_iff_prefix]
    cases ending with
    | newline => exact Text.prefix_append_cons_iff line [] hnewline
    | returnNewline => exact Text.prefix_append_cons_iff line ['\n'] hreturn
  fresh {subject} _ := by
    rw [List.filter_append, filter_cases_setterBlock, filter_cases_enumBlock, List.nil_append]
  extension {subject} _ hgenerated lines := by
    rw [extensionBlock, List.filter_append, filter_cases_bindingLines, List.nil_append]
    by_cases hempty : subject.outlets.isEmpty = true
    · rw [if_pos hempty, List.filter_nil]
      simp [rows, List.isEmpty_iff.1 hempty, Subject.identifiesCell, hgenerated]
    · rw [if_neg hempty]
      unfold casesBlock
      split_ifs
      · exact filter_caseLines subject
      · exact filter_cases_enumBlock subject

end Form

/-! ## What a run adds -/

theorem Form.Lawful.filter_map_withEnding {form : Form} (h : form.Lawful) (mark : Lines.Ending)
    (block : Lines) : (block.map (withEnding mark)).filter form.holds =
      (block.filter form.holds).map (withEnding mark) := by
  rw [List.filter_map]
  congr 2
  funext line
  exact h.ignores.on_withEnding mark line

section Uniform

variable {mark : Lines.Ending} {lines : Lines} (hu : lines.Uniform mark) (hne : lines ≠ [])
  (subject : Subject)
include hu hne

theorem writeFresh_lines (hplain : ∀ line ∈ setterBlock (writeFresh subject lines).subject,
      Lines.Plain line) :
    (writeFresh subject lines).lines = lines ++
      (setterBlock (writeFresh subject lines).subject ++
        enumBlock (writeFresh subject lines).subject).map (withEnding mark) := by
  have hsetter := hu.append (Uniform.map_withEnding hplain)
  rw [List.map_append, ← List.append_assoc, ← hsetter.appendBlock_eq (by simp [hne]),
    ← hu.appendBlock_eq hne]
  rfl

theorem addCases_perm : (addCases subject lines).Perm
    (lines ++ (casesBlock subject lines).map (withEnding mark)) := by
  unfold casesBlock
  cases henum : lines.enum? subject.enumName with
  | none =>
    rw [addCases_of_none henum, hu.appendBlock_eq hne]
    exact List.Perm.refl _
  | some index =>
    rw [addCases_of_some henum]
    have := Lines.perm_insertBlock lines (caseLines subject) (casesIndex lines index)
    rwa [hu.ending_eq hne] at this

theorem extendExisting_perm (variant : Variant) {index : Nat} (hi : index < lines.length) :
    (extendExisting variant subject lines index).lines.Perm
      (lines ++ (extensionBlock (extendExisting variant subject lines index).subject
        (bindMissing lines (index + 1) subject.outlets).lines).map (withEnding mark)) := by
  let extended := (extendExisting variant subject lines index).subject
  let bound := (bindMissing lines (index + 1) subject.outlets).lines
  have hbound : bound.Perm
      (lines ++ (extended.outlets.flatMap bindingLines).map (withEnding mark)) := by
    have := Lines.perm_insertBlock lines (extended.outlets.flatMap bindingLines) (index + 1)
    rw [hu.ending_eq hne] at this
    have hinsert : bound = lines.insertBlock (index + 1) (extended.outlets.flatMap bindingLines) :=
      bindMissing_lines lines (by omega) subject.outlets
    rwa [hinsert]
  have hplain : ∀ line ∈ extended.outlets.flatMap bindingLines, Lines.Plain line := by
    intro line hline
    obtain ⟨outlet, -, hline⟩ := List.mem_flatMap.1 hline
    exact plain_bindingLines outlet line hline
  have huniform : bound.Uniform mark := (hu.append (Uniform.map_withEnding hplain)).of_perm hbound
  have hlines : (extendExisting variant subject lines index).lines =
      if extended.outlets.isEmpty then bound else addCases extended bound := rfl
  have hblock : extensionBlock extended bound = extended.outlets.flatMap bindingLines ++
      if extended.outlets.isEmpty then [] else casesBlock extended bound := rfl
  show (extendExisting variant subject lines index).lines.Perm
    (lines ++ (extensionBlock extended bound).map (withEnding mark))
  rw [hlines, hblock, List.map_append, ← List.append_assoc]
  split_ifs
  · simpa using hbound
  · have hne' : bound ≠ [] := fun h => hne (List.append_eq_nil_iff.1 (h ▸ hbound).nil_eq.symm).1
    exact (addCases_perm huniform hne' extended).trans (hbound.append_right _)

end Uniform

/-! ## Declared outlets -/

/-- The outlets that the lines declare are distinct identifiers, and none is called like the class
itself or its root view. -/
structure Declared (className : Text) (lines : Lines) : Prop where
  nodup : (lines.outlets.map Outlet.name).Nodup
  identifiers : ∀ o ∈ lines.outlets, IsIdentifier o.name ∧ o.name ≠ ("self" : Text) ∧
    o.name ≠ Naming.rootViewIdentifier className

theorem fit_rootView {className : Text} (h : IsIdentifier className) :
    Fit (rootViewOutlet className) := by
  have hsign : ∀ c, Letter.isSign c = true → Naming.isWordChar c = false →
      c ∉ Naming.rootViewIdentifier className := fun c hc hw hm =>
    h.not_mem hw (Naming.mem_of_mem_rootViewIdentifier hc hm)
  refine ⟨⟨?_, ?_, ?_, ?_⟩, ?_, ?_, ?_⟩
  · exact hsign _ (by decide) (by decide)
  · exact hsign _ (by decide) (by decide)
  · exact hsign _ (by decide) (by decide)
  · exact hsign _ (by decide) (by decide)
  · exact (Line.IsWord.of_isIdentifier h).of_signs fun _ => Naming.mem_of_mem_rootViewIdentifier
  · exact hsign _ (by decide) (by decide)
  · intro hroot
    simp [Outlet.isRootView, rootViewOutlet] at hroot

theorem Declared.distinct {variant : Variant} {subject : Subject} {lines : Lines}
    (h : Declared subject.className lines) (hc : IsIdentifier subject.className) :
    Distinct (wiredOutlets variant subject lines) := by
  constructor
  · have hroot : ((lines.outlets ++ if wiresRoot variant subject lines.outlets then
        [rootViewOutlet subject.className] else []).map Outlet.name).Nodup := by
      rw [List.map_append, List.nodup_append]
      refine ⟨h.nodup, by split_ifs <;> simp, ?_⟩
      intro name hname other hother
      obtain ⟨o, ho, rfl⟩ := List.mem_map.1 hname
      split_ifs at hother
      · rw [List.map_singleton, List.mem_singleton] at hother
        exact hother ▸ (h.identifiers o ho).2.2
      · cases hother
    rw [wiredOutlets_eq]
    exact (List.filter_sublist.map _).nodup hroot
  · intro o ho
    rcases (mem_wiredOutlets.1 ho).1 with hdeclared | ⟨-, rfl⟩
    · exact .of_isIdentifier (h.identifiers o hdeclared).1 (h.identifiers o hdeclared).2.1
    · exact fit_rootView hc

theorem Declared.of_perm {className : Text} {lines part removed : Lines}
    (h : Declared className lines) (hp : lines.Perm (part ++ removed)) : Declared className part := by
  have houtlets := Lines.outlets_perm hp
  rw [Lines.outlets_append] at houtlets
  refine ⟨?_, fun o ho => h.identifiers o (houtlets.symm.subset (by simp [ho]))⟩
  have hnodup := (houtlets.map Outlet.name).nodup_iff.1 h.nodup
  rw [List.map_append] at hnodup
  exact hnodup.of_append_left

/-! ## One step and two -/

section Run

variable {form : Form} (hform : form.Lawful) {mark : Lines.Ending} {variant : Variant}
  {lines : Lines} {subject : Subject} (hc : IsIdentifier subject.className)
  (hu : lines.Uniform mark) (hw : Distinct (wiredOutlets variant subject lines))
  (hwired : wiredOutlets variant subject lines ≠ [])

theorem hasClass_of_isIdentifier {subject : Subject} (hc : IsIdentifier subject.className) :
    subject.hasClass = true := by
  simp [Subject.hasClass, hc.ne_nil]

theorem ne_nil_of_wiredOutlets (hwired : wiredOutlets variant subject lines ≠ []) :
    lines ≠ [] := by
  rintro rfl
  exact outlets_ne_nil_of_wiredOutlets hwired rfl

include hc hw hwired in
theorem worded_run (hs : lines.setter? = none) :
    (run variant lines subject).subject.Worded := by
  rw [run_of_setter_none (hasClass_of_isIdentifier hc) hwired hs]
  exact ⟨.of_isIdentifier hc, Variant.isWord_freshEnumName (.of_isIdentifier hc),
    fun o ho => (hw.2 o ho).word⟩

include hc hu hw hwired in
theorem run_lines_of_setter_none (hs : lines.setter? = none) :
    (run variant lines subject).lines = lines ++
      (setterBlock (run variant lines subject).subject ++
        enumBlock (run variant lines subject).subject).map (withEnding mark) := by
  have hworded := worded_run hc hw hwired hs
  rw [run_of_setter_none (hasClass_of_isIdentifier hc) hwired hs] at hworded ⊢
  exact writeFresh_lines hu (ne_nil_of_wiredOutlets hwired) _ fun line hline =>
    (inertRow_setterBlock hworded line hline).plain

include hform hc hu hw hwired in
/-- A run adds, of each form, the lines for the subject that it leaves. -/
theorem filter_run_perm (h : Coherent lines) :
    ((run variant lines subject).lines.filter form.holds).Perm
      (lines.filter form.holds ++
        (form.rows (run variant lines subject).subject).map (withEnding mark)) := by
  have hparen : '(' ∉ subject.className := hc.not_mem (by decide)
  have hclass := hasClass_of_isIdentifier hc
  cases hs : lines.setter? with
  | none =>
    have hclean : Clean (run variant lines subject).subject := by
      rw [run_of_setter_none hclass hwired hs]
      exact ⟨hparen, occursIn_binding_freshEnumName hparen, fun o ho => (hw.2 o ho).bare⟩
    rw [run_lines_of_setter_none hc hu hw hwired hs, List.filter_append,
      hform.filter_map_withEnding, hform.fresh hclean]
  | some index =>
    have hi := Lines.lt_length_of_findKind? hs
    rw [run_of_setter_some hclass hwired hs]
    let extended := (extendExisting variant
      { subject with outlets := wiredOutlets variant subject lines } lines index).subject
    have hclean : Clean extended :=
      ⟨hparen, occursIn_binding_existingEnumName hparen h.typealias_bindsNothing, fun o ho =>
        (hw.2 o ((bindMissing_outlets_subset lines (index + 1) _).subset ho)).bare⟩
    have hlines := extendExisting_perm hu (ne_nil_of_wiredOutlets hwired)
      { subject with outlets := wiredOutlets variant subject lines } variant hi
    have hfilter := hlines.filter form.holds
    rw [List.filter_append, hform.filter_map_withEnding, hform.extension hclean rfl] at hfilter
    exact hfilter

end Run

theorem Form.rows_perm (form : Form) {subject other : Subject}
    (hname : subject.className = other.className)
    (hcell : subject.identifiesCell = other.identifiesCell)
    (hp : subject.outlets.Perm other.outlets) : (form.rows subject).Perm (form.rows other) := by
  simp only [rows, hname, hcell]
  exact (hp.flatMap_right _).append_right _

/-- Lines of a form are those of the parts, if no part but the first identifies the cell. -/
theorem Form.rows_append_perm (form : Form) {first later whole : Subject}
    (hname : first.className = whole.className)
    (hcell : first.identifiesCell = whole.identifiesCell) (hlater : later.identifiesCell = false)
    (hp : (first.outlets ++ later.outlets).Perm whole.outlets) :
    (form.rows first ++ form.rows later).Perm (form.rows whole) := by
  have hrows : (first.outlets.flatMap form.ofOutlet ++ later.outlets.flatMap form.ofOutlet).Perm
      (whole.outlets.flatMap form.ofOutlet) := by
    rw [← List.flatMap_append]
    exact hp.flatMap_right _
  simp only [rows, hname, hcell, hlater, Bool.false_eq_true, if_false, List.append_nil]
  rw [List.append_assoc]
  exact (List.perm_append_comm.append_left _).trans
    (by rw [← List.append_assoc]; exact hrows.append_right _)

/-- A file without a setter in which nothing is bound, all its lines in one terminator, and what is
left of it when some of its outlet declarations are taken out. -/
structure Split (mark : Lines.Ending) (className : Text) (lines part removed : Lines) : Prop where
  uniform : lines.Uniform mark
  setter : lines.setter? = none
  bindsNothing : BindsNothing lines
  declared : Declared className lines
  outlets : ∀ line ∈ removed, Line.kind line = .outlet
  perm : lines.Perm (part ++ removed)

namespace Split

variable {mark : Lines.Ending} {variant : Variant} {lines part removed after : Lines}
  {subject later : Subject} (h : Split mark subject.className lines part removed)
include h

theorem coherent_part : Coherent part :=
  .of_bindsNothing fun line hline => h.bindsNothing line (h.perm.symm.subset (by simp [hline]))

theorem setter?_part : part.setter? = none := by
  have hs := h.setter
  rw [Lines.setter?_eq_none_iff, h.perm.countP_eq, List.countP_append] at hs
  rw [Lines.setter?_eq_none_iff]
  omega

theorem uniform_part : part.Uniform mark :=
  fun line hline => h.uniform line (h.perm.symm.subset (by simp [hline]))

theorem uniform_removed : removed.Uniform mark :=
  fun line hline => h.uniform line (h.perm.symm.subset (by simp [hline]))

theorem wiredOutlets_part_subset :
    wiredOutlets variant subject part ⊆ wiredOutlets variant subject lines :=
  wiredOutlets_subset fun o ho => (Lines.outlets_perm h.perm).symm.subset (by simp [ho])

variable (hc : IsIdentifier subject.className)
include hc

theorem distinct (variant : Variant) : Distinct (wiredOutlets variant subject lines) :=
  h.declared.distinct hc

theorem distinct_part (variant : Variant) : Distinct (wiredOutlets variant subject part) :=
  (h.declared.of_perm h.perm).distinct hc

variable (hwired : wiredOutlets variant subject part ≠ [])
include hwired

theorem inertRow_first : ∀ line ∈ setterBlock (run variant part subject).subject ++
    enumBlock (run variant part subject).subject, Line.InertRow line := by
  have hworded := worded_run hc (h.distinct_part hc variant) hwired h.setter?_part
  intro line hline
  exact (List.mem_append.1 hline).elim (inertRow_setterBlock hworded line)
    (inertRow_enumBlock hworded line)

theorem completed_first : (run variant part subject).verdict = .completed ∧
    (run variant part subject).subject.outlets = wiredOutlets variant subject part := by
  rw [run_of_setter_none (hasClass_of_isIdentifier hc) hwired h.setter?_part]
  exact ⟨rfl, rfl⟩

variable (hafter : after.Perm ((run variant part subject).lines ++ removed))
include hafter

theorem after_perm : after.Perm (part ++ (setterBlock (run variant part subject).subject ++
    enumBlock (run variant part subject).subject).map (withEnding mark) ++ removed) := by
  rwa [run_lines_of_setter_none hc h.uniform_part (h.distinct_part hc variant) hwired
    h.setter?_part] at hafter

theorem uniform_after : after.Uniform mark :=
  ((h.uniform_part.append (Uniform.map_withEnding fun line hline =>
    (h.inertRow_first hc hwired line hline).plain)).append h.uniform_removed).of_perm
      (h.after_perm hc hwired hafter)

/-- What the first step has written declares no outlets, so putting the others back gives all. -/
theorem outlets_after_perm : after.outlets.Perm lines.outlets := by
  have hblocks : Lines.outlets ((setterBlock (run variant part subject).subject ++
      enumBlock (run variant part subject).subject).map (withEnding mark)) = [] := by
    refine Lines.outlets_eq_nil fun line hline => ?_
    obtain ⟨raw, hraw, rfl⟩ := List.mem_map.1 hline
    have hquiet : Line.QuietRow [] raw := (h.inertRow_first hc hwired raw hraw).quiet
    exact (hquiet.quietLine mark).kind_ne_outlet
  have houtlets := Lines.outlets_perm (h.after_perm hc hwired hafter)
  rw [Lines.outlets_append, Lines.outlets_append, hblocks, List.append_nil,
    ← Lines.outlets_append] at houtlets
  exact houtlets.trans (Lines.outlets_perm h.perm.symm)

omit hwired in
theorem coherent_after : Coherent after := by
  have hfirst := h.coherent_part.run_lines hc (h.distinct_part hc variant)
  obtain ⟨hb, hs⟩ := Coherent.idle_of_outlets h.outlets
  exact (Coherent.iff_of_perm (hafter.trans List.perm_append_comm) hb hs).2 hfirst

theorem setter?_after_ne_none : after.setter? ≠ none := by
  have hfirst := setter?_run_ne_none (h.completed_first hc hwired).1
  rw [Ne, Lines.setter?_eq_none_iff] at hfirst ⊢
  rw [hafter.countP_eq, List.countP_append]
  omega

/-- After the first step exactly the outlets that it wired are bound. -/
theorem isBound_after_iff {outlet : Outlet} (hmem : outlet ∈ wiredOutlets variant subject lines) :
    isBound after outlet = true ↔ outlet ∈ wiredOutlets variant subject part := by
  have hnames := List.inj_on_of_nodup_map (h.distinct hc variant).1
  have hv := h.completed_first hc hwired
  have hcount : boundTimes after outlet =
      (wiredOutlets variant subject part).countP (sameBinding · outlet) := by
    have hfirst := h.coherent_part.boundTimes_run_eq hc (h.distinct_part hc variant)
      ((h.distinct hc variant).2 outlet hmem) hv.1
    have hpart := boundTimes_of_bindsNothing
      (h.coherent_part.bindsNothing h.setter?_part) outlet
    have hremoved := boundTimes_of_bindsNothing (Coherent.idle_of_outlets h.outlets).1 outlet
    rw [boundTimes] at hremoved
    rw [boundTimes, hafter.countP_eq, List.countP_append, hremoved, Nat.add_zero]
    rw [boundTimes, hpart, Nat.zero_add, hv.2] at hfirst
    exact hfirst
  rw [← Bool.not_eq_false, ← boundTimes_eq_zero_iff, hcount, ← ne_eq,
    ← Nat.pos_iff_ne_zero, List.countP_pos_iff]
  constructor
  · rintro ⟨o, ho, hsame⟩
    rwa [← hnames (h.wiredOutlets_part_subset ho) hmem (sameBinding_iff.1 hsame).1]
  · exact fun ho => ⟨outlet, ho, sameBinding_iff.2 ⟨rfl, rfl⟩⟩

section Later

variable (hname : later.className = subject.className)
  (hkind : later.viewKind = subject.viewKind)
include hname hkind

theorem wiredOutlets_after_perm :
    (wiredOutlets variant later after).Perm (wiredOutlets variant subject lines) :=
  wiredOutlets_perm hname hkind (h.outlets_after_perm hc hwired hafter)

theorem distinct_after : Distinct (wiredOutlets variant later after) := by
  have hp := h.wiredOutlets_after_perm hc hwired hafter hname hkind
  have hd := h.distinct hc variant
  exact ⟨(hp.map _).nodup_iff.2 hd.1, fun o ho => hd.2 o (hp.subset ho)⟩

theorem wiredOutlets_after_ne_nil : wiredOutlets variant later after ≠ [] := by
  obtain ⟨outlet, hmem⟩ := List.exists_mem_of_ne_nil _ hwired
  exact List.ne_nil_of_mem ((h.wiredOutlets_after_perm hc hwired hafter hname hkind).symm.subset
    (h.wiredOutlets_part_subset hmem))

/-- The second step extends the setter of the first and leaves in its subject the outlets that the
first had not wired. -/
theorem subject_after : (run variant after later).subject.alreadyGenerated = true ∧
    (wiredOutlets variant subject part ++ (run variant after later).subject.outlets).Perm
      (wiredOutlets variant subject lines) := by
  obtain ⟨index, hs⟩ := Option.ne_none_iff_exists'.1
    (h.setter?_after_ne_none hc hwired hafter)
  have hp := h.wiredOutlets_after_perm hc hwired hafter hname hkind
  have hd := h.distinct_after hc hwired hafter hname hkind
  have hrun := run_of_setter_some (hasClass_of_isIdentifier (hname ▸ hc))
    (h.wiredOutlets_after_ne_nil hc hwired hafter hname hkind) hs
  have hmissing : (run variant after later).subject.outlets =
      (wiredOutlets variant later after).filter (!isBound after ·) := by
    rw [hrun]
    exact Coherent.outlets_extendExisting hd index
  have hbound : ∀ o ∈ wiredOutlets variant later after,
      isBound after o = true ↔ o ∈ wiredOutlets variant subject part := fun o ho =>
    h.isBound_after_iff hc hwired hafter (hp.subset ho)
  have hsub : ∀ o ∈ wiredOutlets variant subject part, o ∈ wiredOutlets variant later after :=
    fun o ho => hp.symm.subset (h.wiredOutlets_part_subset ho)
  refine ⟨by rw [hrun]; rfl, ?_⟩
  rw [hmissing, List.perm_ext_iff_of_nodup ?_ (h.distinct hc variant).1.of_map]
  · intro o
    rw [List.mem_append, List.mem_filter, ← hp.mem_iff]
    constructor
    · exact fun ho => ho.elim (hsub o) And.left
    · intro ho
      by_cases hb : isBound after o = true
      · exact .inl ((hbound o ho).1 hb)
      · exact .inr ⟨ho, by simpa using hb⟩
  · rw [List.nodup_append]
    refine ⟨(h.distinct_part hc variant).1.of_map, hd.1.of_map.filter _, ?_⟩
    rintro o ho _ hfilter rfl
    obtain ⟨hmem, hunbound⟩ := List.mem_filter.1 hfilter
    rw [(hbound o hmem).2 ho] at hunbound
    cases hunbound

theorem filter_perm_of_wired {form : Form} (hform : form.Lawful) :
    ((run variant after later).lines.filter form.holds).Perm
      ((run variant lines subject).lines.filter form.holds) := by
  have hwhole : wiredOutlets variant subject lines ≠ [] := fun hnil =>
    hwired (List.eq_nil_of_subset_nil (hnil ▸ h.wiredOutlets_part_subset))
  have hfirst := filter_run_perm hform hc h.uniform_part (h.distinct_part hc variant) hwired
    h.coherent_part
  have hsecond := filter_run_perm hform (hname ▸ hc) (h.uniform_after hc hwired hafter)
    (h.distinct_after hc hwired hafter hname hkind)
    (h.wiredOutlets_after_ne_nil hc hwired hafter hname hkind) (h.coherent_after hc hafter)
  have honce := filter_run_perm hform hc h.uniform (h.distinct hc variant) hwhole
    (.of_bindsNothing h.bindsNothing)
  have hafter' := hafter.filter form.holds
  have hlines := h.perm.filter form.holds
  rw [List.filter_append] at hafter' hlines
  obtain ⟨hgenerated, houtlets⟩ := h.subject_after hc hwired hafter hname hkind
  have hrows : (form.rows (run variant part subject).subject ++
      form.rows (run variant after later).subject).Perm
        (form.rows (run variant lines subject).subject) := by
    refine form.rows_append_perm ?_ ?_ (by simp [Subject.identifiesCell, hgenerated]) ?_
    all_goals
      rw [run_of_setter_none (hasClass_of_isIdentifier hc) hwired h.setter?_part,
        run_of_setter_none (hasClass_of_isIdentifier hc) hwhole h.setter]
    · rfl
    · rfl
    · exact houtlets
  -- the lines of the form, before and after the declarations are put back
  calc (run variant after later).lines.filter form.holds
      ~ (part.filter form.holds ++
          (form.rows (run variant part subject).subject).map (withEnding mark) ++
            removed.filter form.holds) ++
          (form.rows (run variant after later).subject).map (withEnding mark) :=
        hsecond.trans ((hafter'.trans (hfirst.append_right _)).append_right _)
    _ ~ (part.filter form.holds ++ removed.filter form.holds) ++
          ((form.rows (run variant part subject).subject).map (withEnding mark) ++
            (form.rows (run variant after later).subject).map (withEnding mark)) := by
        simp only [List.append_assoc]
        exact (List.perm_append_comm_assoc ..).append_left _
    _ ~ lines.filter form.holds ++
          (form.rows (run variant lines subject).subject).map (withEnding mark) := by
        rw [← List.map_append]
        exact hlines.symm.append (hrows.map _)
    _ ~ (run variant lines subject).lines.filter form.holds := honce.symm

end Later

end Split

/-- Where the first step finds nothing to wire, the second finds the whole file. -/
theorem Split.filter_perm_of_unwired {mark : Lines.Ending} {variant : Variant}
    {lines part removed after : Lines} {subject later : Subject}
    (h : Split mark subject.className lines part removed) (hc : IsIdentifier subject.className)
    (hwired : wiredOutlets variant subject part = [])
    (hafter : after.Perm ((run variant part subject).lines ++ removed))
    (hname : later.className = subject.className) (hkind : later.viewKind = subject.viewKind)
    {form : Form} (hform : form.Lawful) :
    (run variant after later).lines.filter form.holds ~
      (run variant lines subject).lines.filter form.holds := by
  have hclass := hasClass_of_isIdentifier hc
  have hclass' : later.hasClass = true := hasClass_of_isIdentifier (hname ▸ hc)
  have hp : after ~ lines := by
    rw [run_of_wiredOutlets_nil hclass hwired] at hafter
    exact hafter.trans h.perm.symm
  have hwhole : wiredOutlets variant later after ~ wiredOutlets variant subject lines :=
    wiredOutlets_perm hname hkind (Lines.outlets_perm hp)
  by_cases hnil : wiredOutlets variant subject lines = []
  · rw [run_of_wiredOutlets_nil hclass hnil,
      run_of_wiredOutlets_nil hclass' (List.perm_nil.1 (hnil ▸ hwhole))]
    exact hp.filter _
  · have hnil' : wiredOutlets variant later after ≠ [] := fun hn =>
      hnil (List.nil_perm.1 (hn ▸ hwhole))
    have hd := h.distinct hc variant
    have hd' : Distinct (wiredOutlets variant later after) :=
      ⟨(hwhole.map _).nodup_iff.2 hd.1, fun o ho => hd.2 o (hwhole.subset ho)⟩
    have hb' : BindsNothing after := fun line hline => h.bindsNothing line (hp.subset hline)
    have hs' : after.setter? = none := by
      have := h.setter
      rwa [Lines.setter?_eq_none_iff, ← hp.countP_eq, ← Lines.setter?_eq_none_iff] at this
    have honce := filter_run_perm hform hc h.uniform hd hnil (.of_bindsNothing h.bindsNothing)
    have htwice := filter_run_perm hform (hname ▸ hc) (h.uniform.of_perm hp) hd' hnil'
      (.of_bindsNothing hb')
    have hrows : form.rows (run variant after later).subject ~
        form.rows (run variant lines subject).subject := by
      rw [run_of_setter_none hclass' hnil' hs', run_of_setter_none hclass hnil h.setter]
      refine form.rows_perm hname ?_ hwhole
      simp [Subject.identifiesCell, writeFresh, writeFreshM, hkind]
    exact htwice.trans (((hp.filter _).append (hrows.map _)).trans honce.symm)

/-- Wiring a file without some of its outlets, putting their declarations back anywhere and wiring
again leaves the same lines that bind, and the same lines that declare a case, as wiring the whole
file once. -/
theorem two_steps_wire_as_one {mark : Lines.Ending} {variant : Variant}
    {lines part removed after : Lines} {subject later : Subject}
    (hc : IsIdentifier subject.className)
    (h : Split mark subject.className lines part removed)
    (hafter : after ~ (run variant part subject).lines ++ removed)
    (hname : later.className = subject.className) (hkind : later.viewKind = subject.viewKind) :
    (run variant after later).lines.filter (Text.occursIn Mark.binding) ~
        (run variant lines subject).lines.filter (Text.occursIn Mark.binding) ∧
      (run variant after later).lines.filter ("\t\tcase " : Text).isPrefixOf ~
        (run variant lines subject).lines.filter ("\t\tcase " : Text).isPrefixOf := by
  by_cases hwired : wiredOutlets variant subject part = []
  · exact ⟨h.filter_perm_of_unwired hc hwired hafter hname hkind Form.lawful_bindings,
      h.filter_perm_of_unwired hc hwired hafter hname hkind Form.lawful_cases⟩
  · exact ⟨h.filter_perm_of_wired hc hwired hafter hname hkind Form.lawful_bindings,
      h.filter_perm_of_wired hc hwired hafter hname hkind Form.lawful_cases⟩

/-- A cell is wired for its title, a search bar is declared on top, and the cell is wired again. -/
theorem two_steps_wire_as_one_cell :
    let title : Text := "\t@IBOutlet weak var title: UILabel!\r\n"
    let bar : Text := "\t@IBOutlet weak var bar: UISearchBar!\r\n"
    let lines : Lines := ["class BarCell: UIView \x7b\r\n", title, bar, "\x7d\r\n"]
    let part : Lines := ["class BarCell: UIView \x7b\r\n", title, "\x7d\r\n"]
    let subject : Subject := { className := "BarCell", viewKind := .cell }
    let after := bar :: (run .qa part subject).lines
    ((run .qa after subject).lines.filter (Text.occursIn Mark.binding)).length = 4 ∧
      ((run .qa after subject).lines.filter (Text.occursIn Mark.binding) ~
          (run .qa lines subject).lines.filter (Text.occursIn Mark.binding) ∧
        (run .qa after subject).lines.filter ("\t\tcase " : Text).isPrefixOf ~
          (run .qa lines subject).lines.filter ("\t\tcase " : Text).isPrefixOf) := by
  intro title bar lines part subject after
  have hsplit : Split .returnNewline subject.className lines part [bar] :=
    ⟨by decide, by decide, by decide,
      ⟨by decide, by decide⟩, by decide, by decide⟩
  have hafter : after ~ (run .qa part subject).lines ++ [bar] :=
    (List.perm_append_singleton ..).symm
  exact ⟨by decide,
    two_steps_wire_as_one (by decide) hsplit hafter rfl rfl⟩

end OutletWiring.IdentifierSetter

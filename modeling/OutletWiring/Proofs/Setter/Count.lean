import OutletWiring.Proofs.Naming
import OutletWiring.Proofs.Setter.Binding

/-!
# How often an outlet is bound

The setter stage adds lines of several forms. Only the bindings of outlets and of a cell itself hold
the call that binds; each of them is the binding of one outlet. So a run adds, to the lines that
bind an outlet, one for each outlet it wires that is bound in the same way.
-/

namespace OutletWiring

namespace Identifiers

open Draft (row)
open Line (Mark.binding bindingProbe)

def BindsNothing (lines : Lines) : Prop :=
  ∀ line ∈ lines, Text.occursIn Mark.binding line = false

instance (lines : Lines) : Decidable (BindsNothing lines) :=
  inferInstanceAs (Decidable (∀ line ∈ lines, _))

theorem paren_mem_binding : '(' ∈ Mark.binding := by
  rw [binding_eq]
  simp

theorem occursIn_binding_of_not_mem {line : Text} (h : '(' ∉ line) :
    Text.occursIn Mark.binding line = false :=
  Text.occursIn_eq_false_of_not_mem paren_mem_binding h

theorem occursIn_binding_of_probe {outlet : Outlet} {line : Text}
    (h : Text.occursIn (bindingProbe outlet) line = true) :
    Text.occursIn Mark.binding line = true := by
  rw [Text.occursIn_iff, bindingProbe_eq] at h
  exact Text.occursIn_iff.2 ((List.prefix_append _ _).isInfix.trans h)

theorem typealias_eq :
    Line.Mark.typealias = ("typealias UIElementType = UIElements" : Text) ++ ['.'] := by
  decide

section EnumName

variable {subject : Subject} (hc : '(' ∉ subject.className)
  (he : Text.occursIn Mark.binding subject.enumName = false)
include hc he

/-- The name of the enum may have been read off a line, and is any text that holds no call. -/
theorem bindsNothing_setterHead : BindsNothing (setterHead subject) := by
  have hne : Mark.binding ≠ [] := by decide
  intro line hline
  simp only [setterHead, List.mem_cons, List.not_mem_nil, or_false] at hline
  rcases hline with rfl | rfl | rfl | rfl | rfl | rfl
  · exact occursIn_binding_of_not_mem (by simp [row])
  · exact occursIn_binding_of_not_mem (by simp [row])
  · exact occursIn_binding_of_not_mem (by simp [row, hc])
  · have hrow : row 1 (Line.Mark.typealias ++ subject.enumName) =
        ("\ttypealias UIElementType = UIElements" : Text) ++ '.' :: (subject.enumName ++ ['\n']) := by
      simp [row, typealias_eq]
    rw [hrow, Text.occursIn_append_cons (by decide) hne,
      Text.occursIn_append_singleton (by decide) hne, he,
      occursIn_binding_of_not_mem (by simp)]
    rfl
  · exact occursIn_binding_of_not_mem (by simp [row])
  · decide

theorem bindsNothing_enumHead : BindsNothing (enumHead subject) := by
  have hne : Mark.binding ≠ [] := by decide
  intro line hline
  simp only [enumHead, List.mem_cons, List.not_mem_nil, or_false] at hline
  rcases hline with rfl | rfl | rfl | rfl
  · exact occursIn_binding_of_not_mem (by simp [row])
  · exact occursIn_binding_of_not_mem (by simp [row])
  · have hrow : row 1 ("enum " ++ subject.enumName ++ ": String, UIElement \x7b") =
        ("\tenum" : Text) ++ ' ' :: (subject.enumName ++ ':' :: (" String, UIElement \x7b\n" : Text)) := by
      simp [row]
    rw [hrow, Text.occursIn_append_cons (by decide) hne,
      Text.occursIn_append_cons (by decide) hne, he,
      occursIn_binding_of_not_mem (by simp), occursIn_binding_of_not_mem (by simp)]
    rfl
  · exact occursIn_binding_of_not_mem (by simp [row, hc])

end EnumName

theorem not_mem_cases {subject : Subject} (hc : '(' ∉ subject.className)
    (ho : ∀ o ∈ subject.outlets, Bare o.name) {name : Text} (h : name ∈ subject.cases) :
    '(' ∉ name := by
  simp only [Subject.cases, List.mem_append, List.mem_flatMap] at h
  rcases h with ⟨outlet, hm, h⟩ | h
  · have hname := (ho outlet hm).1
    unfold Outlet.cases at h
    split_ifs at h
    · simp only [List.mem_cons, List.not_mem_nil, or_false] at h
      rcases h with rfl | rfl
      · exact hname
      · simp [Outlet.textFieldCase, hname]
    · rw [List.mem_singleton] at h
      exact h ▸ hname
  · split_ifs at h
    · rw [List.mem_singleton] at h
      exact h ▸ fun hm => hc (Naming.mem_of_mem_cellIdentifier (by decide) hm)
    · cases h

theorem bindsNothing_caseLines {subject : Subject} (hc : '(' ∉ subject.className)
    (ho : ∀ o ∈ subject.outlets, Bare o.name) : BindsNothing (caseLines subject) := by
  intro line hline
  rw [caseLines_eq, List.mem_map] at hline
  obtain ⟨name, hname, rfl⟩ := hline
  exact occursIn_binding_of_not_mem (by simp [caseRow, row, not_mem_cases hc ho hname])

theorem bindsNothing_enumBlock {subject : Subject} (hc : '(' ∉ subject.className)
    (he : Text.occursIn Mark.binding subject.enumName = false)
    (ho : ∀ o ∈ subject.outlets, Bare o.name) : BindsNothing (enumBlock subject) := by
  intro line hline
  rw [enumBlock_eq, List.append_assoc, List.mem_append, List.mem_append] at hline
  rcases hline with hline | hline | hline
  · exact bindsNothing_enumHead hc he line hline
  · exact bindsNothing_caseLines hc ho line hline
  · simp only [List.mem_cons, List.not_mem_nil, or_false] at hline
    rcases hline with rfl | rfl <;> exact occursIn_binding_of_not_mem (by simp [row])

end Identifiers

namespace IdentifierSetter

open Identifiers
open Line (Mark.binding bindingProbe)

def boundTimes (lines : Lines) (outlet : Outlet) : Nat :=
  lines.countP (Text.occursIn (bindingProbe outlet))

def sameBinding (a b : Outlet) : Bool :=
  a.name == b.name && a.isRootView == b.isRootView

theorem sameBinding_iff {a b : Outlet} :
    sameBinding a b = true ↔ a.name = b.name ∧ a.isRootView = b.isRootView := by
  simp [sameBinding]

theorem bindingProbe_eq_of_sameBinding {a b : Outlet} (h : sameBinding a b = true) :
    bindingProbe a = bindingProbe b := by
  obtain ⟨hname, hroot⟩ := sameBinding_iff.1 h
  simp only [bindingProbe, hname, hroot]

theorem boundTimes_eq_zero_iff {lines : Lines} {outlet : Outlet} :
    boundTimes lines outlet = 0 ↔ isBound lines outlet = false := by
  simp [boundTimes, isBound]

theorem boundTimes_of_bindsNothing {lines : Lines} (h : BindsNothing lines) (outlet : Outlet) :
    boundTimes lines outlet = 0 := by
  rw [boundTimes, List.countP_eq_zero]
  intro line hline hprobe
  exact absurd (occursIn_binding_of_probe hprobe) (by simp [h line hline])

@[simp] theorem boundTimes_append (front back : Lines) (outlet : Outlet) :
    boundTimes (front ++ back) outlet = boundTimes front outlet + boundTimes back outlet :=
  List.countP_append

theorem boundTimes_bindingLines {a b : Outlet} (ha : Bare a.name) (hb : Bare b.name) :
    boundTimes (bindingLines a) b = if sameBinding a b then 1 else 0 := by
  rw [boundTimes, List.countP_eq_length_filter, filter_probe_bindingLines ha hb]
  simp only [sameBinding_iff]
  split_ifs <;> rfl

section Outlet

variable {outlet : Outlet} (hb : Bare outlet.name)
include hb

theorem boundTimes_flatMap_bindingLines {outlets : List Outlet} (ho : ∀ o ∈ outlets, Bare o.name) :
    boundTimes (outlets.flatMap bindingLines) outlet = outlets.countP (sameBinding · outlet) := by
  induction outlets with
  | nil => rfl
  | cons first rest ih =>
    rw [List.flatMap_cons, boundTimes_append, boundTimes_bindingLines (ho first (by simp)) hb,
      ih fun o h => ho o (by simp [h]), List.countP_cons, Nat.add_comm]

variable (hself : outlet.isRootView = false → outlet.name ≠ ("self" : Text)) {subject : Subject}
  (hc : '(' ∉ subject.className) (ho : ∀ o ∈ subject.outlets, Bare o.name)
include hself hc ho

omit ho in
theorem boundTimes_cellRows : boundTimes (cellRows subject) outlet = 0 := by
  have hcell : '(' ∉ subject.cellIdentifier := fun h =>
    hc (Naming.mem_of_mem_cellIdentifier (by decide) h)
  rw [boundTimes, List.countP_eq_zero]
  intro line hline hprobe
  unfold cellRows at hline
  split_ifs at hline
  · simp only [List.mem_cons, List.not_mem_nil, or_false] at hline
    rcases hline with rfl | rfl | rfl | rfl
    · exact absurd (occursIn_binding_of_probe hprobe) (by decide)
    · exact absurd (occursIn_binding_of_probe hprobe) (by decide)
    · rw [probe_not_occursIn_cellRow subject hb hself hcell] at hprobe
      cases hprobe
    · exact absurd (occursIn_binding_of_probe hprobe) (by decide)
  · cases hline

theorem boundTimes_setterBlock (he : Text.occursIn Mark.binding subject.enumName = false) :
    boundTimes (setterBlock subject) outlet = subject.outlets.countP (sameBinding · outlet) := by
  have hclose : ∀ level, BindsNothing [Draft.row level "\x7d"] := fun level line hline => by
    rw [List.mem_singleton] at hline
    exact hline ▸ occursIn_binding_of_not_mem (by simp [Draft.row, List.mem_replicate])
  rw [setterBlock_eq, ← List.singleton_append]
  simp only [boundTimes_append, boundTimes_cellRows hb hself hc,
    boundTimes_flatMap_bindingLines hb ho, boundTimes_of_bindsNothing (hclose _),
    boundTimes_of_bindsNothing (bindsNothing_setterHead hc he)]
  omega

end Outlet

/-! ## The stage -/

/-- What is added for the cases of the subject: the cases alone if the enum is there. -/
def casesBlock (subject : Subject) (lines : Lines) : Lines :=
  if (lines.enum? subject.enumName).isSome then caseLines subject else enumBlock subject

theorem bindsNothing_casesBlock {subject : Subject} (hc : '(' ∉ subject.className)
    (he : Text.occursIn Mark.binding subject.enumName = false)
    (ho : ∀ o ∈ subject.outlets, Bare o.name) (lines : Lines) :
    BindsNothing (casesBlock subject lines) := by
  unfold casesBlock
  split_ifs
  · exact bindsNothing_caseLines hc ho
  · exact bindsNothing_enumBlock hc he ho

/-- What is added to a file that has a setter, by the subject that the run leaves. -/
def extensionBlock (subject : Subject) (lines : Lines) : Lines :=
  subject.outlets.flatMap bindingLines ++
    if subject.outlets.isEmpty then [] else casesBlock subject lines

section Count

variable {p : Text → Bool} (hp : Lines.IgnoresEnding p) (subject : Subject) (lines : Lines)
include hp

theorem countP_addCases :
    (addCases subject lines).countP p = lines.countP p + (casesBlock subject lines).countP p := by
  unfold casesBlock
  cases henum : lines.enum? subject.enumName with
  | none =>
    rw [addCases_of_none henum]
    exact Lines.countP_appendBlock hp ..
  | some index =>
    rw [addCases_of_some henum]
    exact Lines.countP_insertBlock hp ..

theorem countP_writeFresh :
    (writeFresh subject lines).lines.countP p =
      lines.countP p + (setterBlock (writeFresh subject lines).subject).countP p +
        (enumBlock (writeFresh subject lines).subject).countP p := by
  rw [lines_writeFresh, Lines.countP_appendBlock hp, Lines.countP_appendBlock hp]

theorem countP_extendExisting (variant : Variant) {index : Nat} (hi : index < lines.length) :
    (extendExisting variant subject lines index).lines.countP p =
      lines.countP p + (extensionBlock (extendExisting variant subject lines index).subject
        (bindMissing lines (index + 1) subject.outlets).lines).countP p := by
  have hbound : (bindMissing lines (index + 1) subject.outlets).lines.countP p = lines.countP p +
      ((bindMissing lines (index + 1) subject.outlets).outlets.flatMap bindingLines).countP p := by
    rw [bindMissing_lines lines (by omega) subject.outlets, Lines.countP_insertBlock hp]
  have hlines : (extendExisting variant subject lines index).lines =
      if (extendExisting variant subject lines index).subject.outlets.isEmpty then
        (bindMissing lines (index + 1) subject.outlets).lines
      else addCases (extendExisting variant subject lines index).subject
        (bindMissing lines (index + 1) subject.outlets).lines := rfl
  rw [hlines, extensionBlock, List.countP_append]
  split_ifs
  · rw [hbound, List.countP_nil, Nat.add_zero]
    rfl
  · rw [countP_addCases hp, hbound, Nat.add_assoc]
    rfl

end Count

theorem setter_pos_setterBlock (subject : Subject) :
    0 < (setterBlock subject).countP (Text.occursIn Line.Mark.setter) := by
  rw [List.countP_pos_iff]
  refine ⟨Draft.row 1 (Line.Mark.setter ++ " \x7b"), ?_, by decide⟩
  rw [setterBlock_eq, List.append_assoc, List.mem_append]
  exact .inl (by simp [setterHead])

/-- A completed run leaves a setter. -/
theorem setter?_run_ne_none {variant : Variant} {lines : Lines} {subject : Subject}
    (hv : (run variant lines subject).verdict = .completed) :
    (run variant lines subject).lines.setter? ≠ none := by
  have hsetter : Lines.IgnoresEnding (Text.occursIn Line.Mark.setter) :=
    Lines.ignoresEnding_occursIn (by decide) (by decide)
  rw [Ne, Lines.setter?_eq_none_iff]
  rcases run_cases variant lines subject with ⟨-, hd⟩ | ⟨-, hrun⟩ | ⟨index, hs, hrun⟩
  · exact absurd hv hd
  · rw [hrun, countP_writeFresh hsetter, Nat.add_eq_zero_iff, Nat.add_eq_zero_iff]
    rintro ⟨⟨-, hzero⟩, -⟩
    exact absurd hzero (setter_pos_setterBlock _).ne'
  · rw [hrun, countP_extendExisting hsetter _ _ _ (Lines.lt_length_of_findKind? hs),
      Nat.add_eq_zero_iff]
    rintro ⟨hzero, -⟩
    rw [Lines.setter?_eq_none_iff.2 hzero] at hs
    cases hs

/-- A completed run leaves each of its outlets bound. -/
theorem isBound_of_completed {variant : Variant} {lines : Lines} {subject : Subject}
    (hv : (run variant lines subject).verdict = .completed)
    (hu : ∀ o ∈ wiredOutlets variant subject lines, Lines.Unbroken o.name) {outlet : Outlet}
    (hmem : outlet ∈ wiredOutlets variant subject lines) :
    isBound (run variant lines subject).lines outlet = true := by
  have hp := ignoresEnding_bindingProbe (hu outlet hmem)
  have hcount : ∀ {lines : Lines}, isBound lines outlet = true ↔
      0 < lines.countP (Text.occursIn (Line.bindingProbe outlet)) := by
    simp [isBound, List.countP_pos_iff]
  rcases run_cases variant lines subject with ⟨-, hd⟩ | ⟨-, hrun⟩ | ⟨index, hs, hrun⟩
  · exact absurd hv hd
  · have hblock : ∃ line ∈ setterBlock (run variant lines subject).subject,
        Text.occursIn (Line.bindingProbe outlet) line = true := by
      obtain ⟨line, hline, hocc⟩ := exists_probe_bindingLines outlet
      have hout : outlet ∈ (run variant lines subject).subject.outlets := by
        rw [hrun]
        exact hmem
      refine ⟨line, ?_, hocc⟩
      rw [setterBlock_eq]
      exact List.mem_append_left _ (List.mem_append_right _ (List.mem_flatMap.2 ⟨outlet, hout, hline⟩))
    rw [hrun] at hblock ⊢
    have := List.countP_pos_iff.2 hblock
    rw [hcount, countP_writeFresh hp]
    omega
  · have hbound := isBound_bindMissing hu (show index + 1 ≤ lines.length from
      Lines.lt_length_of_findKind? hs) outlet hmem
    rw [hrun, lines_extendExisting]
    split_ifs
    · exact hbound
    · rw [hcount] at hbound ⊢
      rw [countP_addCases hp]
      exact Nat.add_pos_left hbound _

theorem boundTimes_extensionBlock {outlet : Outlet} (hb : Bare outlet.name) {subject : Subject}
    (hc : '(' ∉ subject.className)
    (he : Text.occursIn Mark.binding subject.enumName = false)
    (ho : ∀ o ∈ subject.outlets, Bare o.name) (lines : Lines) :
    boundTimes (extensionBlock subject lines) outlet =
      subject.outlets.countP (sameBinding · outlet) := by
  have hcases : BindsNothing (if subject.outlets.isEmpty then [] else casesBlock subject lines) := by
    split_ifs
    · intro line hline
      cases hline
    · exact bindsNothing_casesBlock hc he ho lines
  rw [extensionBlock, boundTimes_append, boundTimes_of_bindsNothing hcases,
    boundTimes_flatMap_bindingLines hb ho, Nat.add_zero]

theorem occursIn_binding_freshEnumName {className : Text} (hc : '(' ∉ className) :
    Text.occursIn Mark.binding (Variant.freshEnumName className) = false := by
  have := mt (Naming.mem_of_mem_screenStem (c := '(')) hc
  exact occursIn_binding_of_not_mem (by simp [Variant.freshEnumName, this])

section Run

variable {variant : Variant} {lines : Lines} {subject : Subject} (hc : '(' ∉ subject.className)
include hc

/-- The enum name of a file that has a setter holds no call, if no line both names an enum and
holds a call. -/
theorem occursIn_binding_existingEnumName
    (ht : ∀ line ∈ lines, Text.occursIn Line.Mark.typealias line = true →
      Text.occursIn Mark.binding line = false) :
    Text.occursIn Mark.binding
      (variant.existingEnumName subject.className lines.typealiasTarget?) = false := by
  unfold Variant.existingEnumName
  split
  · cases htarget : lines.typealiasTarget? with
    | none => exact occursIn_binding_of_not_mem (by simp [hc])
    | some target =>
      obtain ⟨line, hline, hmark, hinfix⟩ := Lines.exists_mem_of_typealiasTarget? htarget
      rw [Option.getD_some, Bool.eq_false_iff]
      intro h
      have := Text.occursIn_iff.2 ((Text.occursIn_iff.1 h).trans hinfix)
      rw [ht line hline hmark] at this
      cases this
  · exact occursIn_binding_freshEnumName hc

/-- A completed run adds one binding for each outlet that it leaves in the subject. -/
theorem boundTimes_run
    (ht : ∀ line ∈ lines, Text.occursIn Line.Mark.typealias line = true →
      Text.occursIn Mark.binding line = false)
    (hw : ∀ o ∈ wiredOutlets variant subject lines, Bare o.name) {outlet : Outlet}
    (hb : Bare outlet.name) (hu : Lines.Unbroken outlet.name)
    (hself : outlet.isRootView = false → outlet.name ≠ ("self" : Text))
    (hv : (run variant lines subject).verdict = .completed) :
    boundTimes (run variant lines subject).lines outlet = boundTimes lines outlet +
      (run variant lines subject).subject.outlets.countP (sameBinding · outlet) := by
  have hprobe := ignoresEnding_bindingProbe hu
  rcases run_cases variant lines subject with ⟨-, hd⟩ | ⟨-, hrun⟩ | ⟨index, hs, hrun⟩
  · exact absurd hv hd
  · have hname := occursIn_binding_freshEnumName hc
    let fresh := (writeFresh
      { subject with outlets := wiredOutlets variant subject lines } lines).subject
    have hsetter : boundTimes (setterBlock fresh) outlet = fresh.outlets.countP (sameBinding · outlet) :=
      boundTimes_setterBlock hb hself hc hw hname
    have henum : BindsNothing (enumBlock fresh) := bindsNothing_enumBlock hc hname hw
    have hzero := boundTimes_of_bindsNothing henum outlet
    rw [boundTimes] at hsetter hzero
    rw [hrun, boundTimes, countP_writeFresh hprobe, hsetter, hzero, Nat.add_zero, boundTimes]
  · have hmissing := bindMissing_outlets_subset lines (index + 1)
      (wiredOutlets variant subject lines)
    let extended := (extendExisting variant
      { subject with outlets := wiredOutlets variant subject lines } lines index).subject
    have hblock : ∀ lines, boundTimes (extensionBlock extended lines) outlet =
        extended.outlets.countP (sameBinding · outlet) :=
      boundTimes_extensionBlock hb hc (occursIn_binding_existingEnumName hc ht)
        fun o ho => hw o (hmissing.subset ho)
    rw [hrun, boundTimes, countP_extendExisting hprobe _ _ _ (Lines.lt_length_of_findKind? hs),
      boundTimes, Nat.add_left_cancel_iff]
    exact hblock _

end Run

end IdentifierSetter

end OutletWiring

import OutletWiring.Identifiers
import OutletWiring.Page.Block
import OutletWiring.Proofs.Breaks
import OutletWiring.Proofs.Page.Block

/-!
# Everything written comes in complete lines

The texts that are laid out are made of fixed pieces and of the names of the subject. No piece holds
a line break, so the names decide, for newlines and for returns alike. Of the names it is that of
the class which stands in every page object.
-/

namespace OutletWiring

open Lines (Complete)

theorem Draft.lacks_separated {marks : Punctuation} {blocks : List (List Draft.Step)}
    (h : ∀ block ∈ blocks, ∀ step ∈ block, step.Lacks marks) :
    ∀ step ∈ Page.separated blocks, step.Lacks marks := by
  induction blocks with
  | nil => simp [Page.separated]
  | cons block blocks ih =>
    rw [List.forall_mem_cons] at h
    cases blocks with
    | nil => exact h.1
    | cons next blocks =>
      rw [Page.separated.eq_3 _ _ (by simp), List.forall_mem_append, List.forall_mem_cons]
      exact ⟨h.1, trivial, ih h.2⟩

open Draft (Step lacks_compose_iff complete_compose_iff lacks_listed lacks_separated)

/-! ## Identifiers -/

namespace Identifiers

variable {marks : Punctuation} (hm : marks.Breaks)
include hm

theorem lacks_bindingSteps {outlet : Outlet} (h : Text.Lacks marks outlet.name) :
    ∀ step ∈ bindingSteps outlet, step.Lacks marks := by
  have htarget : Text.Lacks marks outlet.target := by
    unfold Outlet.target
    split_ifs
    · exact hm.literal rfl
    · exact h
  have hrow : ∀ target name : Text, Text.Lacks marks target → Text.Lacks marks name →
      Text.Lacks marks (Line.Mark.binding ++ target ++ ", using: ." ++ name ++ ")") := by
    intro target name ht hn
    simp only [Text.lacks_append_iff]
    exact ⟨⟨⟨⟨hm.literal rfl, ht⟩, hm.literal rfl⟩, hn⟩, hm.literal rfl⟩
  unfold bindingSteps
  rw [List.forall_mem_cons]
  refine ⟨hrow _ _ htarget h, ?_⟩
  split_ifs
  · simp only [List.forall_mem_singleton, Step.Lacks, Outlet.textFieldCase, Text.lacks_append_iff,
      and_assoc]
    exact ⟨hm.literal rfl, h, hm.literal rfl, h, hm.literal rfl, hm.literal rfl⟩
  · simp

theorem lacks_bindingLines {outlet : Outlet} (h : Text.Lacks marks outlet.name) :
    ∀ line ∈ bindingLines outlet, Text.Lacks marks line.dropLast :=
  (lacks_compose_iff hm).2 (lacks_bindingSteps hm h)

variable {subject : Subject} (h : subject.Lacks marks)
include h

theorem lacks_caseSteps : ∀ step ∈ caseSteps subject, step.Lacks marks := by
  unfold caseSteps
  rw [List.forall_mem_map]
  intro name hn
  exact Text.lacks_append_iff.2 ⟨hm.literal rfl, h.of_mem_cases hn⟩

theorem lacks_cellSetterSteps : ∀ step ∈ cellSetterSteps subject, step.Lacks marks := by
  unfold cellSetterSteps
  split_ifs
  · simp only [List.forall_mem_cons, List.not_mem_nil, false_imp_iff, implies_true, Step.Lacks,
      Text.lacks_append_iff, true_and, and_true, and_assoc]
    exact ⟨hm.literal rfl, hm.literal rfl, hm.literal rfl, h.cellIdentifier, hm.literal rfl,
      hm.literal rfl⟩
  · simp

theorem lacks_caseLines : ∀ line ∈ caseLines subject, Text.Lacks marks line.dropLast :=
  (lacks_compose_iff hm).2 (lacks_caseSteps hm h)

theorem lacks_enumBlock : ∀ line ∈ enumBlock subject, Text.Lacks marks line.dropLast := by
  refine (lacks_compose_iff hm).2 ?_
  simp only [List.forall_mem_append, List.forall_mem_cons, List.not_mem_nil, false_imp_iff,
    implies_true, Step.Lacks, Text.lacks_append_iff, true_and, and_true, and_assoc]
  exact ⟨hm.literal rfl, hm.literal rfl, h.enumName, hm.literal rfl, hm.literal rfl, h.className,
    lacks_caseSteps hm h, hm.literal rfl, hm.literal rfl⟩

theorem lacks_setterBlock : ∀ line ∈ setterBlock subject, Text.Lacks marks line.dropLast := by
  have hbindings : ∀ step ∈ subject.outlets.flatMap bindingSteps, step.Lacks marks := by
    rw [List.forall_mem_flatMap]
    exact fun outlet ho => lacks_bindingSteps hm (h.outlets outlet ho)
  refine (lacks_compose_iff hm).2 ?_
  simp only [List.forall_mem_append, List.forall_mem_cons, List.not_mem_nil, false_imp_iff,
    implies_true, Step.Lacks, Text.lacks_append_iff, true_and, and_true, and_assoc]
  exact ⟨hm.literal rfl, hm.literal rfl, h.className, hm.literal rfl, hm.literal rfl, h.enumName,
    hm.literal rfl, hm.literal rfl, hbindings, hm.literal rfl, lacks_cellSetterSteps hm h,
    hm.literal rfl⟩

end Identifiers

/-! ## Page objects -/

namespace Page

variable {marks : Punctuation} {variant : Variant} {subject : Subject} (hm : marks.Breaks)
include hm

theorem lacks_query (kind : ElementKind) :
    Text.Lacks marks kind.query ∧ Text.Lacks marks kind.constructorName := by
  cases kind <;> exact ⟨hm.literal rfl, hm.literal rfl⟩

section Lacks

variable (h : subject.Lacks marks)
include h

theorem lacks_identifier {name : Text} (hn : Text.Lacks marks name) :
    Text.Lacks marks (identifier subject name) := by
  unfold identifier
  simp only [Text.lacks_append_iff, and_assoc]
  exact ⟨hm.literal rfl, h.enumName, hm.literal rfl, hn, hm.literal rfl⟩

theorem lacks_lookup {scope : Scope} (hs : Text.Lacks marks scope.root) {outlet : Outlet}
    (ho : outlet ∈ subject.outlets) : Text.Lacks marks (lookup variant subject scope outlet) := by
  have hid := lacks_identifier hm h (h.outlets outlet ho)
  unfold lookup
  split
  · simp only [Text.lacks_append_iff, and_assoc]
    exact ⟨hs, hm.literal rfl, hid, hm.literal rfl⟩
  · simp only [Text.lacks_append_iff, and_assoc]
    exact ⟨hs, hm.literal rfl, (lacks_query hm _).1, hm.literal rfl, hid, hm.literal rfl⟩

omit h in
theorem lacks_app : Text.Lacks marks Scope.app.root :=
  hm.literal rfl

/-- The accessors stand in brackets, each with the same text after it. -/
theorem lacks_accessors {ending : Text} (he : Text.Lacks marks ending) :
    (Step.list 2 "[" ((accessors subject).map (· ++ ending)) " " "]").Lacks marks := by
  refine lacks_listed hm (hm.literal rfl) (hm.literal rfl) (hm.literal rfl) ?_
  simp only [accessors, List.map_map, List.forall_mem_map]
  exact fun outlet ho => (h.accessor ho).append he

end Lacks

namespace View

variable (h : subject.Lacks marks)
include h

theorem lacks_elementSteps : ∀ step ∈ elementSteps variant subject, step.Lacks marks := by
  unfold elementSteps
  rw [List.forall_mem_flatMap]
  intro outlet ho
  simp only [List.forall_mem_cons, List.not_mem_nil, false_imp_iff, implies_true, Step.Lacks,
    Text.lacks_append_iff, and_true, and_assoc]
  exact ⟨hm.literal rfl, h.accessor ho, hm.literal rfl, lacks_lookup hm h (lacks_app hm) ho,
    hm.literal rfl⟩

theorem lacks_tapSteps : ∀ step ∈ tapSteps variant subject, step.Lacks marks := by
  unfold tapSteps
  rw [List.forall_mem_flatMap]
  intro outlet ho
  have haccessor := h.accessor (List.mem_of_mem_filter ho)
  simp only [List.forall_mem_cons, List.not_mem_nil, false_imp_iff, implies_true, Step.Lacks,
    Text.lacks_append_iff, true_and, and_true, and_assoc]
  exact ⟨hm.literal rfl, hm.literal rfl, haccessor.upperFirst, hm.literal rfl, hm.literal rfl,
    haccessor, hm.literal rfl, hm.literal rfl, hm.literal rfl⟩

theorem lacks_requirementSteps : ∀ step ∈ requirementSteps subject, step.Lacks marks := by
  unfold requirementSteps accessors
  simp only [List.map_map, List.forall_mem_map]
  intro outlet ho
  simp only [Function.comp, Step.Lacks, Text.lacks_append_iff, and_assoc]
  exact ⟨hm.literal rfl, h.accessor ho, hm.literal rfl⟩

theorem lacks_extensionOpening : Text.Lacks marks (extensionOpening subject.className) := by
  unfold extensionOpening
  simp only [Text.lacks_append_iff, and_assoc]
  exact ⟨hm.literal rfl, h.className, hm.literal rfl⟩

theorem lacks_protocolOpening : Text.Lacks marks (protocolOpening variant subject.className) := by
  have hbase : Text.Lacks marks variant.pageStyle.viewBase := by
    cases variant.pageStyle <;> exact hm.literal rfl
  unfold protocolOpening
  simp only [Text.lacks_append_iff, and_assoc]
  exact ⟨hm.literal rfl, h.className, hm.literal rfl, hbase, hm.literal rfl⟩

theorem lacks_protocolSteps : ∀ step ∈ protocolSteps variant subject, step.Lacks marks := by
  unfold protocolSteps
  simp only [List.forall_mem_append, List.forall_mem_cons, List.not_mem_nil, false_imp_iff,
    implies_true, Step.Lacks, Text.lacks_append_iff, true_and, and_true, and_assoc]
  exact ⟨lacks_protocolOpening hm h, lacks_requirementSteps hm h, hm.literal rfl, h.accessorStem,
    hm.literal rfl, hm.literal rfl, h.accessorStem.upperFirst, hm.literal rfl, hm.literal rfl⟩

theorem lacks_aggregateSteps : ∀ step ∈ aggregateSteps subject, step.Lacks marks := by
  unfold aggregateSteps
  simp only [List.forall_mem_cons, List.not_mem_nil, false_imp_iff, implies_true, and_true]
  refine ⟨trivial, hm.literal rfl, ?_, lacks_accessors hm h (hm.literal rfl), hm.literal rfl⟩
  simp only [Step.Lacks, Text.lacks_append_iff, and_assoc]
  exact ⟨hm.literal rfl, h.accessorStem, hm.literal rfl⟩

theorem lacks_checkSteps : ∀ step ∈ checkSteps subject, step.Lacks marks := by
  unfold checkSteps
  simp only [List.forall_mem_cons, List.not_mem_nil, false_imp_iff, implies_true, Step.Lacks,
    Text.lacks_append_iff, true_and, and_true, and_assoc]
  exact ⟨hm.literal rfl, hm.literal rfl, h.accessorStem.upperFirst, hm.literal rfl, hm.literal rfl,
    h.accessorStem, hm.literal rfl, hm.literal rfl, hm.literal rfl⟩

theorem lacks_implementationSteps :
    ∀ step ∈ implementationSteps variant subject, step.Lacks marks := by
  unfold implementationSteps
  simp only [List.forall_mem_append, List.forall_mem_singleton]
  exact ⟨⟨⟨⟨⟨lacks_extensionOpening hm h, lacks_elementSteps hm h⟩, lacks_aggregateSteps hm h⟩,
    lacks_checkSteps hm h⟩, lacks_tapSteps hm h⟩, hm.literal rfl⟩

theorem lacks_fresh : ∀ line ∈ fresh variant subject, Text.Lacks marks line.dropLast := by
  refine (lacks_compose_iff hm).2 ?_
  rw [List.forall_mem_append, List.forall_mem_cons]
  exact ⟨lacks_protocolSteps hm h, trivial, lacks_implementationSteps hm h⟩

theorem lacks_extension : ∀ line ∈ extension variant subject, Text.Lacks marks line.dropLast := by
  refine (lacks_compose_iff hm).2 ?_
  simp only [List.forall_mem_append, List.forall_mem_singleton]
  exact ⟨⟨⟨lacks_extensionOpening hm h, lacks_elementSteps hm h⟩, lacks_tapSteps hm h⟩,
    hm.literal rfl⟩

end View

namespace Cell

omit hm in
theorem lacks_whenIdentified {steps : List Step} (h : ∀ step ∈ steps, step.Lacks marks) :
    ∀ step ∈ whenIdentified subject steps, step.Lacks marks := by
  unfold whenIdentified
  split_ifs
  · exact h
  · simp

theorem lacks_tapSteps {name element : Text} (hn : Text.Lacks marks name)
    (he : Text.Lacks marks element) : ∀ step ∈ tapSteps name element, step.Lacks marks := by
  unfold tapSteps
  simp only [List.forall_mem_cons, List.not_mem_nil, false_imp_iff, implies_true, Step.Lacks,
    Text.lacks_append_iff, true_and, and_true, and_assoc]
  exact ⟨hm.literal rfl, hm.literal rfl, hn, hm.literal rfl, hm.literal rfl, he, hm.literal rfl,
    hm.literal rfl, hm.literal rfl⟩

variable (h : subject.Lacks marks)
include h

theorem lacks_elementSteps {outlet : Outlet} (ho : outlet ∈ subject.outlets) :
    ∀ step ∈ elementSteps variant subject outlet, step.Lacks marks := by
  have hroot : Text.Lacks marks (Scope.cell subject.accessorStem).root :=
    Text.lacks_append_iff.2 ⟨h.accessorStem, hm.literal rfl⟩
  unfold elementSteps
  simp only [List.forall_mem_cons, List.not_mem_nil, false_imp_iff, implies_true, Step.Lacks,
    Text.lacks_append_iff, and_true, and_assoc]
  exact ⟨hm.literal rfl, h.accessor ho, hm.literal rfl, lacks_lookup hm h hroot ho, hm.literal rfl⟩

theorem lacks_outletTapSteps : ∀ step ∈ outletTapSteps variant subject, step.Lacks marks := by
  unfold outletTapSteps
  rw [List.forall_mem_flatMap]
  intro outlet ho
  have hmem := List.mem_of_mem_filter ho
  exact lacks_tapSteps hm (h.outlets outlet hmem).upperFirst (h.accessor hmem)

theorem lacks_requirementSteps : ∀ step ∈ requirementSteps subject, step.Lacks marks := by
  unfold requirementSteps accessors
  simp only [List.map_map, List.forall_mem_map]
  intro outlet ho
  simp only [Function.comp, Step.Lacks, Text.lacks_append_iff, and_assoc]
  exact ⟨hm.literal rfl, h.accessor ho, hm.literal rfl⟩

theorem lacks_openings (style : PageStyle) :
    Text.Lacks marks (protocolOpening style subject.className) ∧
      Text.Lacks marks (implementationOpening style subject.className) ∧
      Text.Lacks marks (extensionOpening style subject.className) := by
  have hbase : Text.Lacks marks style.cellBase := by
    cases style <;> exact hm.literal rfl
  cases style with
  | inline =>
    unfold protocolOpening implementationOpening extensionOpening
    simp only [Text.lacks_append_iff, and_assoc]
    exact ⟨hm.literal rfl, h.className, hm.literal rfl, hbase, hm.literal rfl, hm.literal rfl,
      h.className, hm.literal rfl, hm.literal rfl, h.className, hm.literal rfl⟩
  | screenSplit =>
    unfold protocolOpening implementationOpening extensionOpening
    simp only [Text.lacks_append_iff, and_assoc]
    exact ⟨hm.literal rfl, h.className, hm.literal rfl, hm.literal rfl, h.className, hm.literal rfl,
      hbase, hm.literal rfl, h.className, hm.literal rfl, hm.literal rfl, h.className,
      hm.literal rfl⟩

theorem lacks_protocolSteps : ∀ step ∈ protocolSteps variant subject, step.Lacks marks := by
  have hcell : ∀ step ∈ cellRequirementSteps subject, step.Lacks marks := by
    refine lacks_whenIdentified ?_
    simp only [List.forall_mem_singleton, Step.Lacks, Text.lacks_append_iff, and_assoc]
    exact ⟨hm.literal rfl, h.accessorStem, hm.literal rfl⟩
  unfold protocolSteps
  simp only [List.forall_mem_append, List.forall_mem_cons, List.not_mem_nil, false_imp_iff,
    implies_true, Step.Lacks, Text.lacks_append_iff, and_true, and_assoc]
  exact ⟨(lacks_openings hm h _).1, hcell, lacks_requirementSteps hm h, hm.literal rfl,
    h.accessorStem, hm.literal rfl, hm.literal rfl, h.accessorStem.upperFirst, hm.literal rfl,
    hm.literal rfl⟩

theorem lacks_cellSteps : ∀ step ∈ cellSteps subject, step.Lacks marks := by
  refine lacks_whenIdentified ?_
  simp only [List.forall_mem_cons, List.not_mem_nil, false_imp_iff, implies_true, Step.Lacks,
    Text.lacks_append_iff, and_true, and_assoc]
  exact ⟨hm.literal rfl, h.accessorStem, hm.literal rfl, hm.literal rfl,
    lacks_identifier hm h h.cellIdentifier, hm.literal rfl, hm.literal rfl⟩

theorem lacks_aggregateSteps : ∀ step ∈ aggregateSteps subject, step.Lacks marks := by
  unfold aggregateSteps
  simp only [List.forall_mem_cons, List.not_mem_nil, false_imp_iff, implies_true, and_true]
  refine ⟨hm.literal rfl, ?_, lacks_accessors hm h (hm.literal rfl), hm.literal rfl, trivial⟩
  simp only [Step.Lacks, Text.lacks_append_iff, and_assoc]
  exact ⟨hm.literal rfl, h.accessorStem, hm.literal rfl⟩

theorem lacks_checkSteps : ∀ step ∈ checkSteps subject, step.Lacks marks := by
  unfold checkSteps
  simp only [List.forall_mem_cons, List.not_mem_nil, false_imp_iff, implies_true, Step.Lacks,
    Text.lacks_append_iff, and_true, and_assoc]
  exact ⟨hm.literal rfl, hm.literal rfl, h.accessorStem.upperFirst, hm.literal rfl, hm.literal rfl,
    h.accessorStem, hm.literal rfl, hm.literal rfl, hm.literal rfl⟩

theorem lacks_cellTapSteps : ∀ step ∈ cellTapSteps subject, step.Lacks marks :=
  lacks_whenIdentified (lacks_tapSteps hm h.accessorStem.upperFirst h.accessorStem)

theorem lacks_implementationSteps :
    ∀ step ∈ implementationSteps variant subject, step.Lacks marks := by
  have helements : ∀ step ∈ subject.outlets.flatMap fun outlet =>
      elementSteps variant subject outlet ++ [.blank], step.Lacks marks := by
    rw [List.forall_mem_flatMap]
    intro outlet ho
    rw [List.forall_mem_append, List.forall_mem_singleton]
    exact ⟨lacks_elementSteps hm h ho, trivial⟩
  unfold implementationSteps
  simp only [List.forall_mem_append, List.forall_mem_singleton]
  exact ⟨⟨⟨⟨⟨⟨⟨(lacks_openings hm h _).2.1, lacks_cellSteps hm h⟩, helements⟩,
    lacks_aggregateSteps hm h⟩, lacks_checkSteps hm h⟩, lacks_cellTapSteps hm h⟩,
    lacks_outletTapSteps hm h⟩, hm.literal rfl⟩

theorem lacks_fresh : ∀ line ∈ fresh variant subject, Text.Lacks marks line.dropLast := by
  refine (lacks_compose_iff hm).2 ?_
  rw [List.forall_mem_append, List.forall_mem_cons]
  exact ⟨lacks_protocolSteps hm h, trivial, lacks_implementationSteps hm h⟩

theorem lacks_extension : ∀ line ∈ extension variant subject, Text.Lacks marks line.dropLast := by
  have helements : ∀ step ∈ separated (subject.outlets.map (elementSteps variant subject)),
      step.Lacks marks :=
    lacks_separated (List.forall_mem_map.2 fun outlet ho => lacks_elementSteps hm h ho)
  refine (lacks_compose_iff hm).2 ?_
  simp only [List.forall_mem_append, List.forall_mem_singleton]
  exact ⟨⟨⟨(lacks_openings hm h _).2.2, helements⟩, lacks_outletTapSteps hm h⟩, hm.literal rfl⟩

end Cell

namespace Screen

theorem lacks_tapSteps {visibility : Text} (hv : Text.Lacks marks visibility) {outlet : Outlet}
    (ho : Text.Lacks marks outlet.name) :
    ∀ step ∈ tapSteps visibility outlet, step.Lacks marks := by
  unfold tapSteps
  simp only [List.forall_mem_cons, List.not_mem_nil, false_imp_iff, implies_true, Step.Lacks,
    Text.lacks_append_iff, and_true, and_assoc]
  exact ⟨hm.literal rfl, hv, hm.literal rfl, ho.upperFirst, hm.literal rfl, hm.literal rfl, ho,
    hm.literal rfl, hm.literal rfl, hm.literal rfl⟩

theorem lacks_propertySteps {declaration value : Text} (hd : Text.Lacks marks declaration)
    (hv : Text.Lacks marks value) : ∀ step ∈ propertySteps declaration value, step.Lacks marks := by
  unfold propertySteps
  simp only [List.forall_mem_cons, List.not_mem_nil, false_imp_iff, implies_true, Step.Lacks,
    Text.lacks_append_iff, and_true, and_assoc]
  exact ⟨hd, hm.literal rfl, hv, hm.literal rfl⟩

variable (h : subject.Lacks marks)
include h

theorem lacks_inlineElement {outlet : Outlet} (ho : outlet ∈ subject.outlets) :
    Text.Lacks marks (inlineElement variant outlet) := by
  unfold inlineElement
  simp only [Text.lacks_append_iff, and_assoc]
  exact ⟨(lacks_query hm _).2, hm.literal rfl, h.outlets outlet ho, hm.literal rfl⟩

theorem lacks_screenName_of_breaks : Text.Lacks marks (screenName subject) :=
  Text.lacks_append_iff.2 ⟨h.screenStem, hm.literal rfl⟩

theorem lacks_waitStep : (waitStep subject).Lacks marks := by
  refine lacks_listed hm (hm.literal rfl) (hm.replicate rfl _) (hm.literal rfl) ?_
  rw [List.forall_mem_map]
  exact fun outlet ho => Text.lacks_append_iff.2 ⟨h.outlets outlet ho, hm.literal rfl⟩

theorem lacks_inlineTapSteps : ∀ step ∈ inlineTapSteps variant subject, step.Lacks marks := by
  unfold inlineTapSteps
  rw [List.forall_mem_flatMap]
  intro outlet ho
  rw [List.forall_mem_cons]
  exact ⟨trivial, lacks_tapSteps hm (hm.literal rfl)
    (h.outlets outlet (List.mem_of_mem_filter ho))⟩

theorem lacks_splitTapSteps : ∀ step ∈ splitTapSteps variant subject, step.Lacks marks := by
  refine lacks_separated (List.forall_mem_map.2 ?_)
  intro outlet ho
  exact lacks_tapSteps hm Text.lacks_nil (h.outlets outlet (List.mem_of_mem_filter ho))

theorem lacks_inlinePage : ∀ line ∈ inlinePage variant subject, Text.Lacks marks line.dropLast := by
  have helements : ∀ step ∈ subject.outlets.map fun outlet =>
      Step.line 1 ("lazy var " ++ outlet.name ++ " = " ++ inlineElement variant outlet),
      step.Lacks marks := by
    rw [List.forall_mem_map]
    intro outlet ho
    simp only [Step.Lacks, Text.lacks_append_iff, and_assoc]
    exact ⟨hm.literal rfl, h.outlets outlet ho, hm.literal rfl, lacks_inlineElement hm h ho⟩
  refine (lacks_compose_iff hm).2 ?_
  simp only [List.forall_mem_append, List.forall_mem_cons, List.not_mem_nil, false_imp_iff,
    implies_true, and_true, and_assoc]
  refine ⟨?_, ?_, helements, trivial, hm.literal rfl, hm.literal rfl, lacks_waitStep hm h,
    hm.literal rfl, hm.literal rfl, lacks_inlineTapSteps hm h, hm.literal rfl⟩
  · exact Text.lacks_append_iff.2 ⟨hm.literal rfl, h.className⟩
  · simp only [Step.Lacks, Text.lacks_append_iff, and_assoc]
    exact ⟨hm.literal rfl, h.screenStem, hm.literal rfl⟩

theorem lacks_splitScreen :
    ∀ line ∈ splitScreen variant subject, Text.Lacks marks line.dropLast := by
  have helements : ∀ step ∈ subject.outlets.map fun outlet =>
      Step.line 1 ("private lazy var " ++ outlet.name ++ " = " ++
        lookup variant subject .app outlet), step.Lacks marks := by
    rw [List.forall_mem_map]
    intro outlet ho
    simp only [Step.Lacks, Text.lacks_append_iff, and_assoc]
    exact ⟨hm.literal rfl, h.outlets outlet ho, hm.literal rfl,
      lacks_lookup hm h (lacks_app hm) ho⟩
  have hname := lacks_screenName_of_breaks hm h
  refine (lacks_compose_iff hm).2 ?_
  simp only [List.forall_mem_append, List.forall_mem_cons, List.not_mem_nil, false_imp_iff,
    implies_true, and_true, and_assoc]
  refine ⟨?_, ?_, helements, trivial, hm.literal rfl, ?_, lacks_waitStep hm h, hm.literal rfl,
    hm.literal rfl, hm.literal rfl, trivial, hm.literal rfl, ?_, hm.literal rfl, trivial,
    hm.literal rfl, ?_, lacks_splitTapSteps hm h, hm.literal rfl⟩
  · exact Text.lacks_append_iff.2 ⟨hm.literal rfl, hname⟩
  all_goals
    simp only [Step.Lacks, Text.lacks_append_iff, and_assoc]
    exact ⟨hm.literal rfl, hname, hm.literal rfl⟩

theorem lacks_inlineExtension :
    ∀ line ∈ inlineExtension variant subject, Text.Lacks marks line.dropLast := by
  have helements : ∀ step ∈ subject.outlets.flatMap fun outlet =>
      propertySteps ("var " ++ outlet.name) (inlineElement variant outlet), step.Lacks marks := by
    rw [List.forall_mem_flatMap]
    intro outlet ho
    exact lacks_propertySteps hm (Text.lacks_append_iff.2 ⟨hm.literal rfl, h.outlets outlet ho⟩)
      (lacks_inlineElement hm h ho)
  refine (lacks_compose_iff hm).2 ?_
  simp only [List.forall_mem_append, List.forall_mem_cons, List.not_mem_nil, false_imp_iff,
    implies_true, Step.Lacks, Text.lacks_append_iff, and_true, and_assoc]
  exact ⟨hm.literal rfl, h.screenStem, hm.literal rfl, helements, lacks_inlineTapSteps hm h,
    hm.literal rfl⟩

theorem lacks_splitActionSteps : ∀ step ∈ splitActionSteps variant subject, step.Lacks marks := by
  unfold splitActionSteps
  split_ifs
  · simp
  · simp only [List.forall_mem_append, List.forall_mem_cons, List.not_mem_nil, false_imp_iff,
      implies_true, Step.Lacks, Text.lacks_append_iff, true_and, and_true, and_assoc]
    exact ⟨hm.literal rfl, hm.literal rfl, lacks_screenName_of_breaks hm h, hm.literal rfl,
      lacks_splitTapSteps hm h, hm.literal rfl⟩

theorem lacks_splitExtension :
    ∀ line ∈ splitExtension variant subject, Text.Lacks marks line.dropLast := by
  have helements : ∀ step ∈ subject.outlets.flatMap fun outlet =>
      propertySteps ("private var " ++ outlet.name) (lookup variant subject .app outlet),
      step.Lacks marks := by
    rw [List.forall_mem_flatMap]
    intro outlet ho
    exact lacks_propertySteps hm (Text.lacks_append_iff.2 ⟨hm.literal rfl, h.outlets outlet ho⟩)
      (lacks_lookup hm h (lacks_app hm) ho)
  refine (lacks_compose_iff hm).2 ?_
  simp only [List.forall_mem_append, List.forall_mem_cons, List.not_mem_nil, false_imp_iff,
    implies_true, Step.Lacks, Text.lacks_append_iff, and_true, and_assoc]
  exact ⟨hm.literal rfl, lacks_screenName_of_breaks hm h, hm.literal rfl, helements, hm.literal rfl,
    lacks_splitActionSteps hm h⟩

end Screen

/-! ## Blocks -/

section Block

theorem lacks_header (hmodules : ∀ module ∈ variant.viewModules, Text.Lacks marks module) :
    ∀ line ∈ header variant subject, Text.Lacks marks line.dropLast := by
  have hlines : ∀ step ∈ (modules variant subject.viewKind).map fun module =>
      Step.line 0 ("import " ++ module), step.Lacks marks := by
    rw [List.forall_mem_map]
    intro module hmem
    refine Text.lacks_append_iff.2 ⟨hm.literal rfl, ?_⟩
    cases hk : subject.viewKind with
    | view => exact hmodules module (by simpa [modules, hk] using hmem)
    | viewController => simp [modules, hk] at hmem
    | cell => simp [modules, hk] at hmem
  refine (lacks_compose_iff hm).2 ?_
  rw [List.forall_mem_cons]
  refine ⟨trivial, ?_⟩
  split_ifs
  · simp
  · simp only [List.forall_mem_append, List.forall_mem_singleton]
    exact ⟨⟨hm.literal rfl, hlines⟩, trivial⟩

variable (h : subject.Lacks marks)
include h

theorem lacks_fresh : ∀ line ∈ fresh variant subject, Text.Lacks marks line.dropLast := by
  unfold fresh
  split
  · exact View.lacks_fresh hm h
  · unfold Screen.fresh
    split
    · exact Screen.lacks_inlinePage hm h
    · exact Screen.lacks_splitScreen hm h
  · exact Cell.lacks_fresh hm h

theorem lacks_extension : ∀ line ∈ extension variant subject, Text.Lacks marks line.dropLast := by
  unfold extension
  split
  · exact View.lacks_extension hm h
  · unfold Screen.extension
    split
    · exact Screen.lacks_inlineExtension hm h
    · exact Screen.lacks_splitExtension hm h
  · exact Cell.lacks_extension hm h

theorem lacks_block (hmodules : ∀ module ∈ variant.viewModules, Text.Lacks marks module) :
    ∀ line ∈ block variant subject, Text.Lacks marks line.dropLast := by
  rw [block, List.forall_mem_append]
  refine ⟨lacks_header hm hmodules, ?_⟩
  split_ifs
  · exact lacks_extension hm h
  · exact lacks_fresh hm h

end Block

end Page

/-! ## Complete lines -/

open Punctuation (breaks_newline)

/-- A terminated line without a newline before its end is complete. -/
theorem Lines.complete_of_lacks {block : Lines} (ht : ∀ line ∈ block, Lines.terminated line = true)
    (h : ∀ line ∈ block, Text.Lacks .newline line.dropLast) : ∀ line ∈ block, Complete line :=
  fun line hline => ⟨ht line hline, (h line hline).intact⟩

namespace Identifiers

theorem complete_bindingLines {outlet : Outlet} (h : '\n' ∉ outlet.name) :
    ∀ line ∈ bindingLines outlet, Complete line :=
  Lines.complete_of_lacks (Lines.terminated_compose _)
    (lacks_bindingLines breaks_newline (Text.lacks_newline_iff.2 h))

variable {subject : Subject} (h : subject.Lacks .newline)
include h

theorem complete_caseLines : ∀ line ∈ caseLines subject, Complete line :=
  Lines.complete_of_lacks (Lines.terminated_compose _) (lacks_caseLines breaks_newline h)

theorem complete_enumBlock : ∀ line ∈ enumBlock subject, Complete line :=
  Lines.complete_of_lacks (Lines.terminated_compose _) (lacks_enumBlock breaks_newline h)

theorem complete_setterBlock : ∀ line ∈ setterBlock subject, Complete line :=
  Lines.complete_of_lacks (Lines.terminated_compose _) (lacks_setterBlock breaks_newline h)

end Identifiers

namespace Page

variable {variant : Variant} {subject : Subject}

theorem complete_block (h : subject.Lacks .newline)
    (hm : ∀ module ∈ variant.viewModules, '\n' ∉ module) :
    ∀ line ∈ block variant subject, Complete line :=
  Lines.complete_of_lacks (terminated_block variant subject)
    (lacks_block breaks_newline h fun module hmem => Text.lacks_newline_iff.2 (hm module hmem))

/-! ## The name of the class -/

section Opening

/-- Erasing `ViewController` leaves a newline in the name. -/
theorem newline_not_mem_className (h : '\n' ∉ subject.screenStem) : '\n' ∉ subject.className :=
  fun hm => h (Text.mem_erase (by decide) (by decide) hm)

theorem View.newline_not_mem_of_extension
    (h : ∀ line ∈ View.extension variant subject, Complete line) : '\n' ∉ subject.className := by
  simp only [View.extension, complete_compose_iff, List.forall_mem_append,
    List.forall_mem_singleton] at h
  have hopening : Text.Lacks .newline (View.extensionOpening subject.className) := h.1.1.1
  unfold View.extensionOpening at hopening
  simp only [Text.lacks_append_iff, and_assoc] at hopening
  exact hopening.2.1.intact

theorem View.newline_not_mem_of_fresh (h : ∀ line ∈ View.fresh variant subject, Complete line) :
    '\n' ∉ subject.className := by
  simp only [View.fresh, complete_compose_iff, View.protocolSteps, List.forall_mem_append,
    List.forall_mem_singleton] at h
  have hopening : Text.Lacks .newline (View.protocolOpening variant subject.className) := h.1.1.1
  unfold View.protocolOpening at hopening
  simp only [Text.lacks_append_iff, and_assoc] at hopening
  exact hopening.2.1.intact

theorem Cell.newline_not_mem_of_extension
    (h : ∀ line ∈ Cell.extension variant subject, Complete line) : '\n' ∉ subject.className := by
  simp only [Cell.extension, complete_compose_iff, List.forall_mem_append,
    List.forall_mem_singleton] at h
  have hopening :
      Text.Lacks .newline (Cell.extensionOpening variant.pageStyle subject.className) := h.1.1.1
  unfold Cell.extensionOpening at hopening
  split at hopening <;> simp only [Text.lacks_append_iff, and_assoc] at hopening
  · exact hopening.2.1.intact
  · exact hopening.2.1.intact

theorem Cell.newline_not_mem_of_fresh (h : ∀ line ∈ Cell.fresh variant subject, Complete line) :
    '\n' ∉ subject.className := by
  simp only [Cell.fresh, complete_compose_iff, Cell.protocolSteps, List.forall_mem_append,
    List.forall_mem_singleton] at h
  have hopening :
      Text.Lacks .newline (Cell.protocolOpening variant.pageStyle subject.className) := h.1.1.1.1
  unfold Cell.protocolOpening at hopening
  split at hopening <;> simp only [Text.lacks_append_iff, and_assoc] at hopening
  · exact hopening.2.1.intact
  · exact hopening.2.1.intact

theorem Screen.newline_not_mem_of_extension
    (h : ∀ line ∈ Screen.extension variant subject, Complete line) : '\n' ∉ subject.className := by
  refine newline_not_mem_className ?_
  unfold Screen.extension at h
  split at h
  · have hsteps := complete_compose_iff.1 h
    simp only [List.forall_mem_append, List.forall_mem_singleton, Step.Lacks,
      Text.lacks_append_iff] at hsteps
    exact hsteps.1.1.1.1.2.intact
  · have hsteps := complete_compose_iff.1 h
    simp only [List.forall_mem_append, List.forall_mem_singleton, Step.Lacks, Screen.screenName,
      Text.lacks_append_iff] at hsteps
    exact hsteps.1.1.1.1.2.1.intact

theorem Screen.newline_not_mem_of_fresh (h : ∀ line ∈ Screen.fresh variant subject, Complete line) :
    '\n' ∉ subject.className := by
  refine newline_not_mem_className ?_
  unfold Screen.fresh at h
  split at h
  · have hsteps := complete_compose_iff.1 h
    simp only [List.forall_mem_append, List.forall_mem_cons, Step.Lacks,
      Text.lacks_append_iff] at hsteps
    exact hsteps.1.1.1.1.2.1.1.2.intact
  · have hsteps := complete_compose_iff.1 h
    simp only [List.forall_mem_append, List.forall_mem_cons, Step.Lacks, Screen.screenName,
      Text.lacks_append_iff] at hsteps
    exact hsteps.1.1.1.1.2.1.1.2.1.intact

/-- Every page object names the class, or what is left of its name, in the line that opens it. -/
theorem newline_not_mem_of_block (h : ∀ line ∈ block variant subject, Complete line) :
    '\n' ∉ subject.className := by
  have hpage := (List.forall_mem_append.1 h).2
  split_ifs at hpage
  · unfold extension at hpage
    split at hpage
    · exact View.newline_not_mem_of_extension hpage
    · exact Screen.newline_not_mem_of_extension hpage
    · exact Cell.newline_not_mem_of_extension hpage
  · unfold fresh at hpage
    split at hpage
    · exact View.newline_not_mem_of_fresh hpage
    · exact Screen.newline_not_mem_of_fresh hpage
    · exact Cell.newline_not_mem_of_fresh hpage

end Opening

end Page

end OutletWiring

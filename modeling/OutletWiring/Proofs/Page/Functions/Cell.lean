import OutletWiring.Proofs.Page.Functions.Block

/-!
# Calls in the page object of a cell

The elements of a cell are functions of the row, and each starts at the function that gives the cell
itself. So the names of the accessors count here as well as those of the actions.
-/

namespace OutletWiring.Page

open Draft (Step)
open Line (bindingName)
open Naming (IsFragment)

variable {variant : Variant} {subject : Subject}

namespace Cell

/-- What is written for the cell itself counts if the cell gets an identifier in this run. -/
theorem bindsIff_whenIdentified {steps : List Step} {p : Prop} (h : Draft.BindsIff steps p) :
    Draft.BindsIff (whenIdentified subject steps) (subject.identifiesCell = true ∧ p) := by
  unfold whenIdentified
  split_ifs with hcell
  · exact h.congr (by simp [hcell])
  · exact Draft.BindsIff.nil.congr (by simp [hcell])

/-- A tap at a row is declared by one name and calls another. -/
theorem bindsIff_tapSteps {name element : Text} (hn : IsFragment name) (he : IsFragment element) :
    Draft.BindsIff (tapSteps name element)
      (bindingName <:+ "tap" ++ name ∨ bindingName <:+ element) :=
  .cons_other .blank (.cons_other (.line (.literal rfl)) (.cons
    (.line (.tap "func" (by simp) (by decide) hn (.literal rfl))) (.cons_only
      (.line (.rowExpectation he)) (.cons_other (.line (.literal rfl)) (.line (.literal rfl))))))

theorem exists_accessor_of_tappable
    (h : ∃ outlet ∈ tappable variant subject, bindingName <:+ accessor subject outlet) :
    ∃ outlet ∈ subject.outlets, bindingName <:+ accessor subject outlet := by
  obtain ⟨outlet, ho, hname⟩ := h
  exact ⟨outlet, List.mem_of_mem_filter ho, hname⟩

variable (h : subject.Identified)
include h

theorem bindsIff_elementSteps {outlet : Outlet} (ho : outlet ∈ subject.outlets) :
    Draft.BindsIff (elementSteps variant subject outlet)
      (bindingName <:+ accessor subject outlet ∨ bindingName <:+ subject.accessorStem) :=
  .cons (.line (.function (h.accessor ho) (by decide) (.literal rfl)))
    (.cons_only (.line (bindsIff_lookup_cell h ho)) (.line (.literal rfl)))

theorem bindsIff_outletTapSteps : Draft.BindsIff (outletTapSteps variant subject)
    (∃ outlet ∈ tappable variant subject, bindingName <:+ "tap" ++ Text.upperFirst outlet.name ∨
      bindingName <:+ accessor subject outlet) := by
  unfold outletTapSteps
  refine .flatMap fun outlet ho => ?_
  have hmem : outlet ∈ subject.outlets := List.mem_of_mem_filter ho
  exact bindsIff_tapSteps (h.name hmem).upperFirst (h.accessor hmem)

theorem bindsIff_openings :
    Line.BindsIff (protocolOpening variant.pageStyle subject.className) False ∧
      Line.BindsIff (implementationOpening variant.pageStyle subject.className) False ∧
      Line.BindsIff (extensionOpening variant.pageStyle subject.className) False := by
  have hclass := h.className.isFragment.lacks_ofMarks
  unfold protocolOpening implementationOpening extensionOpening
  cases variant.pageStyle with
  | inline =>
    have hbase : Text.Lacks .ofMarks PageStyle.inline.cellBase := Text.lacks_literal rfl
    refine ⟨.of_lacks ?_, .named h.className.isFragment rfl rfl,
      .named h.className.isFragment rfl rfl⟩
    exact (((((Text.lacks_literal rfl).append hclass).append (Text.lacks_literal rfl)).append
      hbase).append (Text.lacks_literal rfl))
  | screenSplit =>
    have hbase : Text.Lacks .ofMarks PageStyle.screenSplit.cellBase := Text.lacks_literal rfl
    refine ⟨.named h.className.isFragment rfl rfl, .of_lacks ?_,
      .named h.className.isFragment rfl rfl⟩
    exact ((((((Text.lacks_literal rfl).append hclass).append (Text.lacks_literal rfl)).append
      hbase).append (Text.lacks_literal rfl)).append hclass).append (Text.lacks_literal rfl)

theorem bindsIff_protocolSteps : Draft.BindsIff (protocolSteps variant subject)
    (((subject.identifiesCell = true ∧ bindingName <:+ subject.accessorStem) ∨
      ∃ outlet ∈ subject.outlets, bindingName <:+ accessor subject outlet) ∨
      bindingName <:+ "check" ++ Text.upperFirst subject.accessorStem) := by
  have hcell : Draft.BindsIff (cellRequirementSteps subject)
      (subject.identifiesCell = true ∧ bindingName <:+ subject.accessorStem) :=
    bindsIff_whenIdentified (.line (.function h.accessorStem (by decide) (.literal rfl)))
  have hrequirements : Draft.BindsIff (requirementSteps subject)
      (∃ outlet ∈ subject.outlets, bindingName <:+ accessor subject outlet) := by
    unfold requirementSteps accessors
    rw [List.map_map]
    refine .map fun outlet ho => ?_
    exact .line (.function (h.accessor ho) (by decide) (.literal rfl))
  unfold protocolSteps
  refine ((((Draft.BindsIff.line (bindsIff_openings h).1).append hcell).append hrequirements).append
    (.cons_other (.line (.lister h.accessorStem (.literal rfl)))
      (.cons_only (.line (.check h.accessorStem.upperFirst (.literal rfl)))
        (.line (.literal rfl))))).congr ?_
  simp only [false_or]

theorem bindsIff_cellSteps : Draft.BindsIff (cellSteps subject)
    (subject.identifiesCell = true ∧ bindingName <:+ subject.accessorStem) := by
  have hid := lacks_identifier_ofMarks h h.lacks_ofMarks.cellIdentifier
  have htext : ("app.cells[String(format: " ++ identifier subject subject.cellIdentifier ++
      " + \"_%d\", index)].firstMatch" : Text) = "app.cells[String" ++ '(' :: ("format: " ++
        identifier subject subject.cellIdentifier ++ " + \"_%d\", index)].firstMatch") := by
    simp
  have hrest : Text.Lacks .ofMarks ("format: " ++ identifier subject subject.cellIdentifier ++
      " + \"_%d\", index)].firstMatch") :=
    ((Text.lacks_literal rfl).append hid).append (Text.lacks_literal rfl)
  have hlookup : Line.BindsIff ("app.cells[String(format: " ++
      identifier subject subject.cellIdentifier ++ " + \"_%d\", index)].firstMatch") False := by
    rw [htext]
    exact .call_other_of_lacks (by decide) (by decide) (.of_lacks hrest)
  exact bindsIff_whenIdentified (.cons_only
    (.line (.function h.accessorStem (by decide) (.literal rfl))) (.cons_other (.line hlookup)
      (.cons_other (.line (.literal rfl)) .blank)))

theorem bindsIff_aggregateSteps : Draft.BindsIff (aggregateSteps subject)
    (∃ outlet ∈ subject.outlets, bindingName <:+ accessor subject outlet) := by
  have hlist : Draft.BindsIff
      [.list 2 "[" ((accessors subject).map (· ++ "(at: index): status")) " " "]"]
      (∃ outlet ∈ subject.outlets, bindingName <:+ accessor subject outlet) := by
    rw [accessors, List.map_map]
    refine .list fun outlet ho before hbefore after hafter => ?_
    simp only [List.mem_cons, List.not_mem_nil, or_false] at hbefore hafter
    have hsign : ∃ c, before = [c] ∧ c ∉ bindingName ∧ Text.Lacks .ofMarks [c] := by
      rcases hbefore with rfl | rfl
      · exact ⟨'[', by decide, by decide, by decide⟩
      · exact ⟨' ', by decide, by decide, by decide⟩
    have hafter : Text.Lacks .ofMarks after := by
      rcases hafter with rfl | rfl <;> decide
    obtain ⟨c, rfl, hc, hlacks⟩ := hsign
    have htext : ([c] ++ (accessor subject outlet ++ "(at: index): status") ++ after : Text) =
        ([] ++ c :: accessor subject outlet) ++ '(' :: ("at: index): status" ++ after) := by
      simp
    have hname : Text.Lacks .ofMarks ([] ++ c :: accessor subject outlet) :=
      hlacks.append (h.accessor ho).lacks_ofMarks
    rw [Function.comp, htext]
    exact .call_only hname (by simp) (Text.suffix_append_cons_iff _ _ hc)
      (.of_lacks ((Text.lacks_literal rfl).append hafter))
  exact .cons_other (.line (.literal rfl)) (.cons_other
    (.line (.lister h.accessorStem (.literal rfl))) (.cons_only hlist (.cons_other
      (.line (.literal rfl)) .blank)))

theorem bindsIff_checkSteps : Draft.BindsIff (checkSteps subject)
    (bindingName <:+ "check" ++ Text.upperFirst subject.accessorStem) :=
  .cons_other (.line (.literal rfl)) (.cons_only
    (.line (.check h.accessorStem.upperFirst (.literal rfl))) (.cons_other
      (.line (.waiting h.accessorStem (.literal rfl))) (.cons_other
        (.line (.literal rfl)) (.line (.literal rfl)))))

/-- The page object of a cell is written with all the functions named for it; only those of the cell
itself depend on whether the cell is identified in this run. -/
theorem bindsIff_fresh : Lines.BindsIff (fresh variant subject)
    (((subject.identifiesCell = true ∧ (bindingName <:+ subject.accessorStem ∨
          bindingName <:+ "tap" ++ Text.upperFirst subject.accessorStem)) ∨
        ∃ outlet ∈ subject.outlets,
          bindingName <:+ accessor subject outlet ∨ bindingName <:+ subject.accessorStem) ∨
      bindingName <:+ "check" ++ Text.upperFirst subject.accessorStem ∨
      ∃ outlet ∈ tappable variant subject, bindingName <:+ "tap" ++ Text.upperFirst outlet.name) := by
  have helements : Draft.BindsIff
      (subject.outlets.flatMap fun outlet => elementSteps variant subject outlet ++ [.blank])
      (∃ outlet ∈ subject.outlets,
        bindingName <:+ accessor subject outlet ∨ bindingName <:+ subject.accessorStem) :=
    .flatMap fun outlet ho => ((bindsIff_elementSteps h ho).append .blank).congr
      (or_iff_left not_false)
  have htap : Draft.BindsIff (cellTapSteps subject) (subject.identifiesCell = true ∧
      (bindingName <:+ "tap" ++ Text.upperFirst subject.accessorStem ∨
        bindingName <:+ subject.accessorStem)) :=
    bindsIff_whenIdentified (bindsIff_tapSteps h.accessorStem.upperFirst h.accessorStem)
  refine Draft.BindsIff.compose (((bindsIff_protocolSteps h).append (.cons_other .blank
    ((((((((Draft.BindsIff.line (bindsIff_openings h).2.1).append (bindsIff_cellSteps h)).append
      helements).append (bindsIff_aggregateSteps h)).append (bindsIff_checkSteps h)).append
        htap).append (bindsIff_outletTapSteps h)).append (.line (.literal rfl))))).congr ?_)
  -- the elements that are tapped on are among those that are given
  have htapped := @exists_accessor_of_tappable variant subject
  simp only [and_or_left, exists_or]
  generalize (∃ outlet ∈ subject.outlets, bindingName <:+ accessor subject outlet) = accessed,
    (∃ outlet ∈ tappable variant subject, bindingName <:+ accessor subject outlet) = tapped,
    (∃ outlet ∈ tappable variant subject,
      bindingName <:+ "tap" ++ Text.upperFirst outlet.name) = taps,
    (∃ outlet ∈ subject.outlets, bindingName <:+ subject.accessorStem) = started at htapped ⊢
  tauto

theorem bindsIff_extension : Lines.BindsIff (extension variant subject)
    ((∃ outlet ∈ subject.outlets,
        bindingName <:+ accessor subject outlet ∨ bindingName <:+ subject.accessorStem) ∨
      ∃ outlet ∈ tappable variant subject, bindingName <:+ "tap" ++ Text.upperFirst outlet.name) := by
  have helements : Draft.BindsIff (separated (subject.outlets.map (elementSteps variant subject)))
      (∃ outlet ∈ subject.outlets,
        bindingName <:+ accessor subject outlet ∨ bindingName <:+ subject.accessorStem) :=
    bindsIff_separated fun outlet ho => bindsIff_elementSteps h ho
  refine Draft.BindsIff.compose (((((Draft.BindsIff.line (bindsIff_openings h).2.2).append
    helements).append (bindsIff_outletTapSteps h)).append (.line (.literal rfl))).congr ?_)
  -- the elements that are tapped on are among those that are given
  have htapped := @exists_accessor_of_tappable variant subject
  simp only [and_or_left, exists_or]
  generalize (∃ outlet ∈ subject.outlets, bindingName <:+ accessor subject outlet) = accessed,
    (∃ outlet ∈ tappable variant subject, bindingName <:+ accessor subject outlet) = tapped,
    (∃ outlet ∈ tappable variant subject,
      bindingName <:+ "tap" ++ Text.upperFirst outlet.name) = taps,
    (∃ outlet ∈ subject.outlets, bindingName <:+ subject.accessorStem) = started at htapped ⊢
  tauto

end Cell

end OutletWiring.Page

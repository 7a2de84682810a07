import OutletWiring.Proofs.Page.Functions.Block

/-!
# Calls in the page object of a view

The elements of a view are properties, so the functions named for it are those that tap on an
element and those that list and check them all.
-/

namespace OutletWiring.Page

open Line (bindingName)

variable {variant : Variant} {subject : Subject}

namespace View

variable (h : subject.Identified)
include h

theorem bindsIff_elementSteps : Draft.BindsIff (elementSteps variant subject) False := by
  unfold elementSteps
  refine (Draft.BindsIff.flatMap (p := fun _ => False) fun outlet ho => ?_).congr (by simp)
  exact .cons_other (.line (.named (h.accessor ho) rfl rfl))
    (.cons_other (.line (bindsIff_lookup_app h ho)) (.line (.literal rfl)))

theorem bindsIff_tapSteps :
    Draft.BindsIff (tapSteps variant subject) (∃ outlet ∈ tappable variant subject,
      bindingName <:+ "tap" ++ Text.upperFirst (accessor subject outlet)) := by
  unfold tapSteps
  refine .flatMap fun outlet ho => ?_
  have haccessor := h.accessor (List.mem_of_mem_filter ho)
  exact .cons_other .blank (.cons_other (.line (.literal rfl)) (.cons_only
    (.line (.tap "public func" (by simp) (by decide) haccessor.upperFirst (.literal rfl)))
    (.cons_other (.line (.expectation haccessor)) (.cons_other (.line (.literal rfl))
      (.line (.literal rfl))))))

theorem bindsIff_extensionOpening :
    Draft.BindsIff [.line 0 (extensionOpening subject.className)] False :=
  .line (.named h.className.isFragment rfl rfl)

theorem bindsIff_protocolSteps : Draft.BindsIff (protocolSteps variant subject)
    (bindingName <:+ "check" ++ Text.upperFirst subject.accessorStem) := by
  have hbase : Text.Lacks .ofMarks variant.pageStyle.viewBase := by
    cases variant.pageStyle <;> exact Text.lacks_literal rfl
  have hopening : Text.Lacks .ofMarks (protocolOpening variant subject.className) := by
    unfold protocolOpening
    simp only [Text.lacks_append_iff, and_assoc]
    exact ⟨Text.lacks_literal rfl, h.className.isFragment.lacks_ofMarks, Text.lacks_literal rfl,
      hbase, Text.lacks_literal rfl⟩
  have hrequirements : Draft.BindsIff (requirementSteps subject) False := by
    unfold requirementSteps accessors
    rw [List.map_map]
    refine (Draft.BindsIff.map (p := fun _ => False) fun outlet ho => ?_).congr (by simp)
    exact .line (.named (h.accessor ho) rfl rfl)
  unfold protocolSteps
  refine (((Draft.BindsIff.line (.of_lacks hopening)).append hrequirements).append
    (.cons_other .blank (.cons_other (.line (.lister h.accessorStem (.literal rfl)))
      (.cons_only (.line (.check h.accessorStem.upperFirst (.literal rfl)))
        (.line (.literal rfl)))))).congr ?_
  simp only [false_or]

theorem bindsIff_aggregateSteps : Draft.BindsIff (aggregateSteps subject) False := by
  have hlist : Draft.BindsIff
      [.list 2 "[" ((accessors subject).map (· ++ ": status")) " " "]"] False := by
    refine (Draft.BindsIff.list (p := fun _ => False) ?_).congr (by simp)
    intro name hname before hbefore after hafter
    obtain ⟨outlet, ho, rfl⟩ := List.mem_map.1 hname
    have haround : Text.Lacks .ofMarks before ∧ Text.Lacks .ofMarks after := by
      simp only [List.mem_cons, List.not_mem_nil, or_false] at hbefore hafter
      constructor
      · rcases hbefore with rfl | rfl <;> decide
      · rcases hafter with rfl | rfl <;> decide
    exact .of_lacks ((haround.1.append ((h.accessor ho).lacks_ofMarks.append
      (Text.lacks_literal rfl))).append haround.2)
  exact .cons_other .blank (.cons_other (.line (.literal rfl)) (.cons_other
    (.line (.lister h.accessorStem (.literal rfl))) (.cons_other hlist (.line (.literal rfl)))))

theorem bindsIff_checkSteps : Draft.BindsIff (checkSteps subject)
    (bindingName <:+ "check" ++ Text.upperFirst subject.accessorStem) := by
  exact .cons_other .blank (.cons_other (.line (.literal rfl)) (.cons_only
    (.line (.check h.accessorStem.upperFirst (.literal rfl))) (.cons_other
      (.line (.waiting h.accessorStem (.literal rfl))) (.cons_other
        (.line (.literal rfl)) (.line (.literal rfl))))))

theorem bindsIff_fresh : Lines.BindsIff (fresh variant subject)
    (bindingName <:+ "check" ++ Text.upperFirst subject.accessorStem ∨
      ∃ outlet ∈ tappable variant subject,
        bindingName <:+ "tap" ++ Text.upperFirst (accessor subject outlet)) := by
  refine Draft.BindsIff.compose (((bindsIff_protocolSteps h).append (.cons_other .blank
    ((((((bindsIff_extensionOpening h).append (bindsIff_elementSteps h)).append
      (bindsIff_aggregateSteps h)).append (bindsIff_checkSteps h)).append
        (bindsIff_tapSteps h)).append (.line (.literal rfl))))).congr ?_)
  simp only [false_or, or_false, or_self, ← or_assoc]

theorem bindsIff_extension : Lines.BindsIff (extension variant subject)
    (∃ outlet ∈ tappable variant subject,
      bindingName <:+ "tap" ++ Text.upperFirst (accessor subject outlet)) := by
  refine Draft.BindsIff.compose (((((bindsIff_extensionOpening h).append
    (bindsIff_elementSteps h)).append (bindsIff_tapSteps h)).append
      (.line (.literal rfl))).congr ?_)
  simp only [false_or, or_false]

end View

end OutletWiring.Page

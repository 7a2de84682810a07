import OutletWiring.Proofs.Page.Functions.Block

/-!
# Calls in the page object of a controller

The elements of a controller are made by functions of the framework or looked up, and they are
waited for in one call. The functions named for the controller tap on an element, or check them all
on a split screen.
-/

namespace OutletWiring.Page

open Line (bindingName setterName)
open Naming (IsFragment)

variable {variant : Variant} {subject : Subject}

namespace Screen

variable (h : subject.Identified)
include h

/-- An element of an inline page is made by a function of the framework. -/
theorem bindsIff_inlineElement {outlet : Outlet} (ho : outlet ∈ subject.outlets) :
    Line.BindsIff (inlineElement variant outlet) False ∧
      Line.BindsIff ("lazy var " ++ outlet.name ++ " = " ++ inlineElement variant outlet) False := by
  have hname := (h.name ho).lacks_ofMarks
  unfold inlineElement
  generalize outlet.kind variant.prominentButton? = kind
  have hkind := (lacks_query_ofMarks kind).2
  have hother : ¬ setterName <:+ ' ' :: kind.constructorName ∧
      ¬ bindingName <:+ ' ' :: kind.constructorName := by
    cases kind <;> decide
  have hvalue : ¬ " UIElements.".toList <+: ' ' :: kind.constructorName := by
    cases kind <;> decide
  have hrest : Line.BindsIff ("." ++ outlet.name ++ ")") False := .named (h.name ho) rfl rfl
  constructor
  · have htext : kind.constructorName ++ "(." ++ outlet.name ++ ")" =
        kind.constructorName ++ '(' :: ("." ++ outlet.name ++ ")") := by
      simp
    have hlonger := List.suffix_cons ' ' kind.constructorName
    rw [htext]
    exact .call_other_of_lacks hkind
      ⟨fun hs => hother.1 (hs.trans hlonger), fun hb => hother.2 (hb.trans hlonger)⟩ hrest
  · have htext : "lazy var " ++ outlet.name ++ " = " ++
        (kind.constructorName ++ "(." ++ outlet.name ++ ")") =
          (("lazy var " ++ outlet.name ++ " ") ++ '=' :: ' ' :: kind.constructorName) ++
            '(' :: ("." ++ outlet.name ++ ")") := by
      simp
    rw [htext]
    refine .call_other ?_ (Line.typealias_of_assignment ?_ ?_ hvalue) ?_ ?_ hrest
    · simp [hname.not_mem, hkind.not_mem, Punctuation.ofMarks]
    · simp [hname.not_mem, Punctuation.ofMarks]
    · simp [hkind.not_mem, Punctuation.ofMarks]
    · rw [Text.suffix_append_cons_iff _ _ (by decide)]
      exact hother.1
    · rw [Text.suffix_append_cons_iff _ _ (by decide)]
      exact hother.2

/-- An element of a split screen is looked up when it is first used. -/
theorem bindsIff_lazyLookup {outlet : Outlet} (ho : outlet ∈ subject.outlets) :
    Line.BindsIff ("private lazy var " ++ outlet.name ++ " = " ++
      lookup variant subject .app outlet) False := by
  have hname := (h.name ho).lacks_ofMarks
  rw [lookup_eq_append, ← List.append_assoc]
  refine bindsIff_lookupEnd h ho ?_ fun rest hrest => ?_
  · simp [hname.not_mem, Punctuation.ofMarks, Scope.root]
  · have hassign : "private lazy var " ++ outlet.name ++ " = " ++ Scope.app.root ++ rest =
        ("private lazy var " ++ outlet.name ++ " ") ++ '=' :: (" app" ++ rest) := by
      simp [Scope.root]
    rw [hassign]
    refine Line.typealias_of_assignment ?_ ?_ ?_
    · simp [hname.not_mem, Punctuation.ofMarks]
    · simp [hrest]
    · simp

theorem bindsIff_waitStep : Draft.BindsIff [waitStep subject] False := by
  refine (Draft.BindsIff.list (p := fun _ => False) ?_).congr (by simp)
  intro outlet ho before hbefore after hafter
  simp only [List.mem_cons, List.not_mem_nil, or_false] at hbefore hafter
  have hafter : Text.Lacks .ofMarks after := by
    rcases hafter with rfl | rfl <;> decide
  have hentry : Text.Lacks .ofMarks (outlet.name ++ ": .exist") :=
    (h.name ho).lacks_ofMarks.append (Text.lacks_literal rfl)
  rcases hbefore with rfl | rfl
  · have htext : waitOpening ++ (outlet.name ++ ": .exist") ++ after =
        "waitForPage" ++ '(' :: ("elements: [[" ++ (outlet.name ++ ": .exist") ++ after) := by
      unfold waitOpening
      simp
    rw [htext]
    exact .call_other_of_lacks (by decide) (by decide)
      (.of_lacks (((Text.lacks_literal rfl).append hentry).append hafter))
  · have hspaces : Text.Lacks .ofMarks (List.replicate waitOpening.length ' ') := by decide
    exact .of_lacks ((hspaces.append hentry).append hafter)

theorem bindsIff_tapSteps {visibility : Text} {outlet : Outlet} (ho : outlet ∈ subject.outlets)
    (before : Text) (hv : visibility ++ "func tap" = before ++ ' ' :: "tap")
    (hb : Text.Lacks .ofMarks before) :
    Draft.BindsIff (tapSteps visibility outlet)
      (bindingName <:+ "tap" ++ Text.upperFirst outlet.name) :=
  .cons_other (.line (.literal rfl)) (.cons_only
    (.line (.tap before hv hb (h.name ho).upperFirst (.literal rfl)))
    (.cons_other (.line (.expectation (h.name ho))) (.cons_other (.line (.literal rfl))
      (.line (.literal rfl)))))

theorem bindsIff_inlineTapSteps : Draft.BindsIff (inlineTapSteps variant subject)
    (∃ outlet ∈ tappable variant subject, bindingName <:+ "tap" ++ Text.upperFirst outlet.name) := by
  refine .flatMap fun outlet ho => .cons_other .blank ?_
  exact bindsIff_tapSteps h (List.mem_of_mem_filter ho) "public func" (by simp) (by decide)

theorem bindsIff_splitTapSteps : Draft.BindsIff (splitTapSteps variant subject)
    (∃ outlet ∈ tappable variant subject, bindingName <:+ "tap" ++ Text.upperFirst outlet.name) := by
  refine bindsIff_separated fun outlet ho => ?_
  exact bindsIff_tapSteps h (List.mem_of_mem_filter ho) "func" (by simp) (by decide)

theorem isFragment_screenName : IsFragment (screenName subject) :=
  h.screenStem.append (by decide)

theorem bindsIff_inlinePage : Lines.BindsIff (inlinePage variant subject)
    (∃ outlet ∈ tappable variant subject, bindingName <:+ "tap" ++ Text.upperFirst outlet.name) := by
  have hmark : Line.BindsIff ("// MARK: - " ++ subject.className) False :=
    .of_lacks ((Text.lacks_literal rfl).append h.className.isFragment.lacks_ofMarks)
  have helements : Draft.BindsIff (subject.outlets.map fun outlet =>
      .line 1 ("lazy var " ++ outlet.name ++ " = " ++ inlineElement variant outlet)) False :=
    (Draft.BindsIff.map (p := fun _ => False) fun outlet ho =>
      .line (bindsIff_inlineElement h ho).2).congr (by simp)
  have hcheck : Draft.BindsIff [.blank, .line 1 "@discardableResult",
      .line 1 "func checkElements() -> Self \x7b", waitStep subject, .line 2 "return self",
      .line 1 "\x7d"] False :=
    .cons_other .blank (.cons_other (.line (.literal rfl)) (.cons_other (.line (.literal rfl))
      (.cons_other (bindsIff_waitStep h) (.cons_other (.line (.literal rfl))
        (.line (.literal rfl))))))
  refine Draft.BindsIff.compose ((((((Draft.BindsIff.line hmark).cons_other
    (.line (.named h.screenStem rfl rfl))).append helements).append hcheck).append
      (bindsIff_inlineTapSteps h)).append (.line (.literal rfl)) |>.congr ?_)
  simp only [false_or, or_false]

theorem bindsIff_splitScreen : Lines.BindsIff (splitScreen variant subject)
    (bindingName <:+ "check" ++ screenName subject ∨
      ∃ outlet ∈ tappable variant subject,
        bindingName <:+ "tap" ++ Text.upperFirst outlet.name) := by
  have hscreen := isFragment_screenName h
  have hmark : Line.BindsIff ("// MARK: - " ++ screenName subject) False :=
    .of_lacks ((Text.lacks_literal rfl).append hscreen.lacks_ofMarks)
  have helements : Draft.BindsIff (subject.outlets.map fun outlet => .line 1
      ("private lazy var " ++ outlet.name ++ " = " ++ lookup variant subject .app outlet)) False :=
    (Draft.BindsIff.map (p := fun _ => False) fun outlet ho =>
      .line (bindsIff_lazyLookup h ho)).congr (by simp)
  refine Draft.BindsIff.compose ((((((Draft.BindsIff.line hmark).cons_other
    (.line (.named hscreen rfl rfl))).append helements).append
      (.cons_other .blank (.cons_other (.line (.literal rfl)) (.cons_only
        (.line (.check hscreen (.literal rfl))) (.cons_other (bindsIff_waitStep h)
          (.cons_other (.line (.literal rfl)) (.cons_other (.line (.literal rfl))
            (.cons_other (.line (.literal rfl)) (.cons_other .blank
              (.cons_other (.line (.literal rfl)) (.cons_other (.line (.named hscreen rfl rfl))
                (.cons_other (.line (.literal rfl)) (.cons_other .blank
                  (.cons_other (.line (.literal rfl)) (.line (.named hscreen rfl rfl)))))))))))))))).append
      (bindsIff_splitTapSteps h)).append (.line (.literal rfl)) |>.congr ?_)
  simp only [false_or, or_false]

theorem bindsIff_inlineExtension : Lines.BindsIff (inlineExtension variant subject)
    (∃ outlet ∈ tappable variant subject, bindingName <:+ "tap" ++ Text.upperFirst outlet.name) := by
  have helements : Draft.BindsIff (subject.outlets.flatMap fun outlet =>
      propertySteps ("var " ++ outlet.name) (inlineElement variant outlet)) False :=
    (Draft.BindsIff.flatMap (p := fun _ => False) fun outlet ho =>
      .cons_other (.line (.named (h.name ho) rfl rfl))
        (.cons_other (.line (bindsIff_inlineElement h ho).1) (.line (.literal rfl)))).congr (by simp)
  refine Draft.BindsIff.compose ((((Draft.BindsIff.line (.named h.screenStem rfl rfl)).append
    helements).append (bindsIff_inlineTapSteps h)).append (.line (.literal rfl)) |>.congr ?_)
  simp only [false_or, or_false]

theorem bindsIff_splitActionSteps : Draft.BindsIff (splitActionSteps variant subject)
    (∃ outlet ∈ tappable variant subject, bindingName <:+ "tap" ++ Text.upperFirst outlet.name) := by
  unfold splitActionSteps
  split_ifs with hempty
  · rw [List.isEmpty_iff] at hempty
    exact Draft.BindsIff.nil.congr (by simp [hempty])
  · have hopening : Draft.BindsIff [.blank, .line 0 "// MARK: - Action",
        .line 0 ("extension " ++ screenName subject ++ " \x7b")] False :=
      .cons_other .blank (.cons_other (.line (.literal rfl))
        (.line (.named (isFragment_screenName h) rfl rfl)))
    refine ((hopening.append (bindsIff_splitTapSteps h)).append (.line (.literal rfl))).congr ?_
    simp only [false_or, or_false]

theorem bindsIff_splitExtension : Lines.BindsIff (splitExtension variant subject)
    (∃ outlet ∈ tappable variant subject, bindingName <:+ "tap" ++ Text.upperFirst outlet.name) := by
  have helements : Draft.BindsIff (subject.outlets.flatMap fun outlet =>
      propertySteps ("private var " ++ outlet.name) (lookup variant subject .app outlet)) False :=
    (Draft.BindsIff.flatMap (p := fun _ => False) fun outlet ho =>
      .cons_other (.line (.named (h.name ho) rfl rfl))
        (.cons_other (.line (bindsIff_lookup_app h ho)) (.line (.literal rfl)))).congr (by simp)
  refine Draft.BindsIff.compose ((((Draft.BindsIff.line
    (.named (isFragment_screenName h) rfl rfl)).append helements).append
      (.line (.literal rfl))).append (bindsIff_splitActionSteps h) |>.congr ?_)
  simp only [false_or]

theorem bindsIff_extension : Lines.BindsIff (extension variant subject)
    (∃ outlet ∈ tappable variant subject, bindingName <:+ "tap" ++ Text.upperFirst outlet.name) := by
  unfold extension
  cases variant.pageStyle with
  | inline => exact bindsIff_inlineExtension h
  | screenSplit => exact bindsIff_splitExtension h

end Screen

end OutletWiring.Page

import OutletWiring.Page.Screen
import OutletWiring.Proofs.Page.Element

/-!
# The lines of the page object of a view controller

A page declares classes but no protocol. Its stored elements are the one place where the name of an
outlet stands between spaces, as a word of its own.
-/

namespace OutletWiring.Page.Screen

open Draft (AllQuiet Step)
open Line (Inert IsWord Quiet)

variable {variant : Variant} {subject : Subject}

/-- A stored element. Its name may be that of a keyword, but no protocol is named `=`. -/
theorem quiet_stored {outlet value name : Text} (ho : IsWord outlet) (hvalue : Inert value)
    (hname : name ≠ "=") :
    Quiet name ("var" ++ ' ' :: (outlet ++ ' ' :: ("=" ++ ' ' :: value))) := by
  have hequals : Line.protocolName "=" ≠ name := by
    have : Line.protocolName "=" = "=" := by decide
    rw [this]
    exact hname.symm
  have hrest : Quiet name ("=" ++ ' ' :: value) :=
    (hvalue.quiet).cons_of_ne (by decide) (by decide)
  exact (hrest.cons_pair ho (by decide) (by decide) hequals).cons_of_ne (by decide)
    (by decide)

theorem quiet_finalClass {rest name : Text} (h : Inert rest) :
    Step.Quiet name (.line 0 ("final class " ++ rest)) := by
  have htext : ("final class " ++ rest : Text) = "final" ++ ' ' :: ("class " ++ rest) := by simp
  have hclass : Inert ("class " ++ rest) := by simp [h]
  refine Step.quiet_line_of_quiet ?_
  rw [htext]
  exact (hclass.quiet).cons_of_ne (by decide) (by decide)

theorem quiet_propertySteps {declaration value name : Text} (hd : Inert declaration)
    (hv : Inert value) : AllQuiet name (propertySteps declaration value) := by
  unfold propertySteps
  simp only [Draft.allQuiet_cons, Draft.allQuiet_nil, and_true]
  exact ⟨Step.quiet_line (by simp [hd]), Step.quiet_line hv, Step.quiet_line (by decide)⟩

theorem quiet_tapSteps {visibility name : Text} {outlet : Outlet}
    (hv : Inert visibility ∧ visibility.getLast? ≠ some 'l') (ho : IsWord outlet.name) :
    AllQuiet name (tapSteps visibility outlet) := by
  unfold tapSteps
  simp only [Draft.allQuiet_cons, Draft.allQuiet_nil, and_true, quiet_discardable, true_and]
  exact ⟨Step.quiet_line (by simp [hv, ho.upperFirst.inert]), Step.quiet_line (by simp [ho.inert]),
    Step.quiet_line (by decide), Step.quiet_line (by decide)⟩

section Worded

variable (h : subject.Worded) {name : Text}
include h

theorem inert_inlineElement {outlet : Outlet} (ho : outlet ∈ subject.outlets) :
    Inert (inlineElement variant outlet) := by
  unfold inlineElement
  simp [(isWord_constructorName (outlet.kind variant.prominentButton?)).inert,
    (h.outlets outlet ho).inert]

theorem quiet_waitStep : (waitStep subject).Quiet name := by
  have hentries : subject.outlets.map (·.name ++ (": .exist" : Text)) =
      (subject.outlets.map Outlet.name).map (· ++ (": .exist" : Text)) := by
    rw [List.map_map]
    rfl
  have hwords : ∀ word ∈ subject.outlets.map Outlet.name, IsWord word := by
    rw [List.forall_mem_map]
    exact h.outlets
  unfold waitStep
  rw [hentries]
  exact quiet_wordList hwords (by decide) (by decide) (by decide) (by decide)

theorem quiet_inlineTapSteps : AllQuiet name (inlineTapSteps variant subject) := by
  have hpublic : Inert "public " ∧ ("public " : Text).getLast? ≠ some 'l' := by decide
  unfold inlineTapSteps
  simp only [Draft.allQuiet_flatMap, Draft.allQuiet_cons, Step.quiet_blank, true_and]
  intro outlet ho
  have hword := h.outlets outlet (List.mem_of_mem_filter ho)
  exact quiet_tapSteps hpublic hword

theorem quiet_splitTapSteps : AllQuiet name (splitTapSteps variant subject) := by
  refine allQuiet_separated ?_
  rw [List.forall_mem_map]
  exact fun outlet ho => quiet_tapSteps (by decide) (h.outlets outlet (List.mem_of_mem_filter ho))

theorem isWord_screenName : IsWord (screenName subject) :=
  h.screenStem.append (by decide)

theorem quiet_screenExtension :
    Step.Quiet name (.line 0 ("extension " ++ screenName subject ++ " \x7b")) := by
  have hlast : (screenName subject).getLast? = some 'n' := by
    unfold screenName
    rw [List.getLast?_append]
    simp
  exact Step.quiet_line (by simp [(isWord_screenName h).inert, hlast])

theorem quietRow_inlinePage (hname : name ≠ "=") :
    ∀ line ∈ inlinePage variant subject, Line.QuietRow name line := by
  have helements : ∀ outlet ∈ subject.outlets, Step.Quiet name
      (.line 1 ("lazy var " ++ outlet.name ++ " = " ++ inlineElement variant outlet)) := by
    intro outlet ho
    have htext : List.replicate 1 '\t' ++
        ("lazy var " ++ outlet.name ++ " = " ++ inlineElement variant outlet : Text) =
          "\tlazy" ++ ' ' :: ("var" ++ ' ' :: (outlet.name ++ ' ' :: ("=" ++ ' ' ::
            inlineElement variant outlet))) := by
      simp
    refine Step.quiet_line_of_quiet ?_
    rw [htext]
    exact (quiet_stored (h.outlets outlet ho) (inert_inlineElement h ho) hname).cons_of_ne
      (by decide) (by decide)
  have hclass : Step.Quiet name
      (.line 0 ("final class " ++ subject.screenStem ++ "Page: BaseScreen \x7b")) := by
    rw [List.append_assoc]
    exact quiet_finalClass (by simp [h.screenStem.inert])
  refine AllQuiet.quietRow ?_
  simp only [Draft.allQuiet_append, Draft.allQuiet_cons, Draft.allQuiet_nil, and_true,
    Draft.allQuiet_map, Step.quiet_blank, quiet_discardable, quiet_waitStep h,
    quiet_inlineTapSteps h, true_and, and_assoc]
  exact ⟨Step.quiet_line (by simp [h.className.inert]), hclass, helements,
    Step.quiet_line (by decide), Step.quiet_line (by decide), Step.quiet_line (by decide),
    Step.quiet_line (by decide)⟩

theorem quietRow_splitScreen (hname : name ≠ "=") :
    ∀ line ∈ splitScreen variant subject, Line.QuietRow name line := by
  have helements : ∀ outlet ∈ subject.outlets, Step.Quiet name
      (.line 1 ("private lazy var " ++ outlet.name ++ " = " ++
        lookup variant subject .app outlet)) := by
    intro outlet ho
    have htext : List.replicate 1 '\t' ++
        ("private lazy var " ++ outlet.name ++ " = " ++ lookup variant subject .app outlet : Text) =
          "\tprivate" ++ ' ' :: ("lazy" ++ ' ' :: ("var" ++ ' ' :: (outlet.name ++ ' ' ::
            ("=" ++ ' ' :: lookup variant subject .app outlet)))) := by
      simp
    refine Step.quiet_line_of_quiet ?_
    rw [htext]
    exact ((quiet_stored (h.outlets outlet ho) (inert_lookup h (by decide) ho) hname).cons_of_ne
      (by decide) (by decide)).cons_of_ne (by decide) (by decide)
  have hscreen := (isWord_screenName h).inert
  have hclass : Step.Quiet name
      (.line 0 ("final class " ++ screenName subject ++ ": BaseScreen \x7b")) := by
    rw [List.append_assoc]
    exact quiet_finalClass (by simp [hscreen])
  refine AllQuiet.quietRow ?_
  simp only [Draft.allQuiet_append, Draft.allQuiet_cons, Draft.allQuiet_nil, and_true,
    Draft.allQuiet_map, Step.quiet_blank, quiet_discardable, quiet_waitStep h,
    quiet_screenExtension h, quiet_splitTapSteps h, true_and, and_assoc]
  exact ⟨Step.quiet_line (by simp [hscreen]), hclass, helements,
    Step.quiet_line (by simp [hscreen]), Step.quiet_line (by decide), Step.quiet_line (by decide),
    Step.quiet_line (by decide), Step.quiet_line (by decide), Step.quiet_line (by decide),
    Step.quiet_line (by decide), Step.quiet_line (by decide)⟩

theorem quietRow_inlineExtension : ∀ line ∈ inlineExtension variant subject, Line.QuietRow name line := by
  have helements : ∀ outlet ∈ subject.outlets,
      AllQuiet name (propertySteps ("var " ++ outlet.name) (inlineElement variant outlet)) :=
    fun outlet ho => quiet_propertySteps (by simp [(h.outlets outlet ho).inert])
      (inert_inlineElement h ho)
  refine AllQuiet.quietRow ?_
  simp only [Draft.allQuiet_append, Draft.allQuiet_cons, Draft.allQuiet_nil, and_true,
    Draft.allQuiet_flatMap, quiet_inlineTapSteps h, and_assoc]
  exact ⟨Step.quiet_line (by simp [h.screenStem.inert]), helements, Step.quiet_line (by decide)⟩

theorem quiet_splitActionSteps : AllQuiet name (splitActionSteps variant subject) := by
  unfold splitActionSteps
  split_ifs
  · exact Draft.allQuiet_nil
  · simp only [Draft.allQuiet_append, Draft.allQuiet_cons, Draft.allQuiet_nil, and_true,
      Step.quiet_blank, quiet_screenExtension h, quiet_splitTapSteps h, true_and]
    exact ⟨Step.quiet_line (by decide), Step.quiet_line (by decide)⟩

theorem quietRow_splitExtension : ∀ line ∈ splitExtension variant subject, Line.QuietRow name line := by
  have helements : ∀ outlet ∈ subject.outlets, AllQuiet name
      (propertySteps ("private var " ++ outlet.name) (lookup variant subject .app outlet)) :=
    fun outlet ho => quiet_propertySteps (by simp [(h.outlets outlet ho).inert])
      (inert_lookup h (by decide) ho)
  refine AllQuiet.quietRow ?_
  simp only [Draft.allQuiet_append, Draft.allQuiet_cons, Draft.allQuiet_nil, and_true,
    Draft.allQuiet_flatMap, quiet_screenExtension h, quiet_splitActionSteps h, true_and]
  exact ⟨helements, Step.quiet_line (by decide)⟩

end Worded

end OutletWiring.Page.Screen

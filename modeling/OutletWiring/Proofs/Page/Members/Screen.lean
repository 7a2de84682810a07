import OutletWiring.Proofs.Page.Members.Block

/-!
# Members of the page object of a controller

The class stores the element of each outlet and waits for all of them in its check. What is wired
later is added by extensions, which define the elements as properties.
-/

namespace OutletWiring.Page

open Draft (Step row)
open Entry (Leads read read_named read_of_sign)
open Naming (IsFragment)
open Outline (ofLines)

variable {variant : Variant} {subject : Subject}

namespace Screen

theorem read_stored {lead name : Text} (hl : Leads lead "var") (hn : IsFragment name)
    (hne : name ≠ []) (level : Nat) (value : Text) :
    read (row level (lead ++ name ++ " = " ++ value)) =
      .stored name (row level (lead ++ name ++ " = " ++ value)) := by
  have htail : (" = ".toList ++ value : Text) = [] ++ ' ' :: ("= ".toList ++ value) := by simp
  have hwords : Line.tokens ("= ".toList ++ value) = "=".toList :: Line.tokens value := by
    rw [Line.tokens_append_of_space (by decide)]
    rfl
  have htext : lead ++ name ++ " = ".toList ++ value = lead ++ name ++ (" = ".toList ++ value) :=
    List.append_assoc _ _ _
  rw [htext, read_named hl hn [] _ htail (by decide) (by simp [hne]), hwords]
  rfl

theorem read_inlineElement (outlet : Outlet) :
    read (row 2 (inlineElement variant outlet)) = .other (row 2 (inlineElement variant outlet)) := by
  have hconstructor : ' ' ∉ (outlet.kind variant.prominentButton?).constructorName := by
    cases outlet.kind variant.prominentButton? <;> decide
  have htext : inlineElement variant outlet = List.replicate 0 ' ' ++
      ((outlet.kind variant.prominentButton?).constructorName ++
        '(' :: ('.' :: (outlet.name ++ [')']))) := by
    unfold inlineElement
    simp
  rw [htext]
  exact read_of_sign hconstructor (by decide) 0 _

theorem mute_mark (text : Text) : Mute (.line 0 ("// MARK: - " ++ text)) :=
  mute_line (@read_of_sign 0 [] '/' (by decide) (by decide) 0 _)

theorem outlined_class {name : Text} (hn : IsFragment name) (hne : name ≠ []) (mark : Text) :
    Outlined [.line 0 ("// MARK: - " ++ mark),
      .line 0 ("final class " ++ name ++ ": BaseScreen \x7b")] { types := [name] } := by
  have htext : "final class ".toList ++ name ++ ": BaseScreen \x7b".toList =
      "final class ".toList ++ name ++ ([':'] ++ ' ' :: "BaseScreen \x7b".toList) := by
    simp
  have hclass : Outlined [.line 0 ("final class " ++ name ++ ": BaseScreen \x7b")]
      { types := [name] } :=
    outlined_line (read_type hn (show Leads "final class " "class" by decide) (.inr rfl) (.inr rfl)
      hne htext) fun _ => rfl
  exact (outlined_mute (List.forall_mem_singleton.2 (mute_mark mark))).mute_append hclass

theorem outlined_extension {name : Text} (hn : IsFragment name) (hne : name ≠ []) :
    Outlined [.line 0 ("extension " ++ name ++ " \x7b")] { extensions := [name] } :=
  outlined_line (read_extension hn (by decide) hne rfl) fun _ => rfl

/-- The class of a controller up to its check, which waits for the elements. -/
def classSteps (subject : Subject) (name check mark : Text) (elements : List Step) : List Step :=
  [.line 0 ("// MARK: - " ++ mark), .line 0 ("final class " ++ name ++ ": BaseScreen \x7b")] ++
  elements ++
  [.blank,
    .line 1 "@discardableResult",
    .line 1 ("func check" ++ check ++ "() -> Self \x7b"),
    waitStep subject,
    .line 2 "return self",
    .line 1 "\x7d"]

/-- An inline page is a class with its actions. -/
theorem inlinePage_eq : inlinePage variant subject = Draft.compose (
    classSteps subject (subject.screenStem ++ "Page") "Elements" subject.className
      (subject.outlets.map fun outlet =>
        .line 1 ("lazy var " ++ outlet.name ++ " = " ++ inlineElement variant outlet)) ++
    (inlineTapSteps variant subject ++ [.line 0 "\x7d"])) := by
  rw [inlinePage, classSteps]
  simp

/-- The end of a type, and the opening of an extension of it under a section comment. -/
def reopeningSteps (name mark : Text) : List Step :=
  [.line 0 "\x7d",
    .blank,
    .line 0 ("// MARK: - " ++ mark),
    .line 0 ("extension " ++ name ++ " \x7b")]

def splitExtensionSteps (variant : Variant) (subject : Subject) : List Step :=
  reopeningSteps (screenName subject) "Assertion" ++
    (reopeningSteps (screenName subject) "Action" ++
      (splitTapSteps variant subject ++ [.line 0 "\x7d"]))

/-- A split screen is a class and its extensions. -/
theorem splitScreen_eq : splitScreen variant subject = Draft.compose (
    classSteps subject (screenName subject) (screenName subject) (screenName subject)
      (subject.outlets.map fun outlet => .line 1 ("private lazy var " ++ outlet.name ++ " = " ++
        lookup variant subject .app outlet)) ++
    splitExtensionSteps variant subject) := by
  rw [splitScreen, classSteps, splitExtensionSteps, reopeningSteps, reopeningSteps]
  simp

theorem outlined_reopeningSteps {name : Text} (hn : IsFragment name) (hne : name ≠ [])
    (mark : Text) : Outlined (reopeningSteps name mark) { extensions := [name] } := by
  obtain ⟨-, -, -, hclose⟩ := mute_frame
  have hbetween : Outlined [.line 0 "\x7d", .blank, .line 0 ("// MARK: - " ++ mark)] {} := by
    refine outlined_mute ?_
    simp only [List.forall_mem_cons]
    exact ⟨hclose, mute_blank, mute_mark mark, by simp⟩
  exact hbetween.mute_append (outlined_extension hn hne)

variable (h : subject.Identified)
include h

theorem outlined_stored {lead : Text} {value : Outlet → Text} {citation : Outlet → Citation}
    (hl : Leads lead "var") (hc : ∀ outlet ∈ subject.outlets,
      Line.cited (row 1 (lead ++ outlet.name ++ " = " ++ value outlet)) = [citation outlet]) :
    Outlined (subject.outlets.map fun outlet =>
      .line 1 (lead ++ outlet.name ++ " = " ++ value outlet))
      { elements := subject.outlets.map fun outlet =>
          ⟨.stored, outlet.name, [citation outlet]⟩ } := by
  rw [List.map_eq_flatMap, ← concat_elements]
  refine outlined_flatMap fun outlet ho => ?_
  refine outlined_line (read_stored hl (h.name ho) (h.outlets outlet ho).ne_nil 1 _) fun _ => ?_
  rw [Entry.outline, hc outlet ho]

theorem lists_waitStep : Listing.Lists (waitStep subject) (subject.outlets.map (·.name)) := by
  have hname : ∀ name ∈ subject.outlets.map (·.name), IsFragment name := by
    rw [List.forall_mem_map]
    exact fun outlet ho => h.name ho
  have hlist := Listing.lists_step (show waitOpening ∈ Listing.openings by decide)
    (show ": .exist".toList ∈ Listing.statuses by decide)
    (show waitClosing ∈ Listing.stops by decide) hname 2 waitOpening.length
  rw [List.map_map] at hlist
  exact hlist

/-- The check of a screen waits for its elements. -/
theorem outlined_check {name : Text} (hn : IsFragment name) :
    read (row 1 ("func check" ++ name ++ "() -> Self \x7b")) = .defined (checkMember name) ∧
      Outlined [.blank, .line 1 "@discardableResult",
        .line 1 ("func check" ++ name ++ "() -> Self \x7b"), waitStep subject,
        .line 2 "return self", .line 1 "\x7d"] { defined := [checkMember name] } := by
  obtain ⟨hresult, hreturn, hclose, -⟩ := mute_frame
  have hopening : read (row 1 ("func check" ++ name ++ "() -> Self \x7b")) =
      .defined (checkMember name) :=
    read_check hn (show Signs "() -> Self \x7b" selfType true by decide)
  refine ⟨hopening, outlined_function [.blank, .line 1 "@discardableResult"] hopening
    (show selfType ≠ elementType by decide)
    (List.forall_mem_cons.2 ⟨mute_blank, List.forall_mem_singleton.2 hresult⟩) ?_⟩
  simp only [List.forall_mem_cons]
  exact ⟨(lists_waitStep h).mute, hreturn, hclose, by simp⟩

theorem outlined_tapSteps {visibility : Text} (hv : Leads (visibility ++ "func ") "func")
    {outlet : Outlet} (ho : outlet ∈ subject.outlets) :
    Outlined (tapSteps visibility outlet)
      { defined := [tapMember (Text.upperFirst outlet.name)] } :=
  outlined_tap (read_tap (h.name ho).upperFirst hv (by decide)) outlet.name
    ", status: .exist).tap()"

theorem outlined_inlineTapSteps : Outlined (inlineTapSteps variant subject)
    { defined := (tappable variant subject).map fun outlet =>
        tapMember (Text.upperFirst outlet.name) } := by
  rw [← concat_defined]
  exact outlined_flatMap fun outlet ho => outlined_blank.mute_append
    (outlined_tapSteps h (by decide) (List.mem_of_mem_filter ho))

theorem outlined_splitTapSteps : Outlined (splitTapSteps variant subject)
    { defined := (tappable variant subject).map fun outlet =>
        tapMember (Text.upperFirst outlet.name) } := by
  rw [← concat_defined]
  exact outlined_separated fun outlet ho =>
    outlined_tapSteps h (by decide) (List.mem_of_mem_filter ho)

theorem outlined_properties {lead : Text} {value : Outlet → Text} {citation : Outlet → Citation}
    (hl : Leads lead "var")
    (hv : ∀ outlet, read (row 2 (value outlet)) = .other (row 2 (value outlet)))
    (hc : ∀ outlet ∈ subject.outlets, Line.cited (row 2 (value outlet)) = [citation outlet]) :
    Outlined (subject.outlets.flatMap fun outlet =>
      propertySteps (lead ++ outlet.name) (value outlet))
      (definedElements .property (·.name) citation subject.outlets) := by
  rw [← concat_definedElements]
  exact outlined_flatMap fun outlet ho =>
    outlined_element (read_property (h.name ho) hl).1 (hv outlet) (hc outlet ho)

theorem outlined_classSteps {name check mark : Text} (hn : IsFragment name) (hne : name ≠ [])
    (hcheck : IsFragment check) {elements : List Step} {stored : List Element}
    (he : Outlined elements { elements := stored }) :
    Outlined (classSteps subject name check mark elements)
      { types := [name], defined := [checkMember check], elements := stored } :=
  (((outlined_class hn hne mark).append he).append (outlined_check h hcheck).2).of_eq
    (by simp [Outline.ext_iff])

/-- The check of the class lists each element, whatever follows the class. -/
theorem names_classSteps {name check mark : Text} (hn : IsFragment name) (hne : name ≠ [])
    (hcheck : IsFragment check) {elements : List Step} {stored : List Element}
    (he : Outlined elements { elements := stored }) {back : List Step} {rest : Outline}
    (hb : Outlined back rest) :
    Listing.names (Draft.compose (classSteps subject name check mark elements ++ back)) =
      (subject.outlets.map (·.name)).map some := by
  obtain ⟨hresult, -, hclose, -⟩ := mute_frame
  have hfront := ((outlined_class hn hne mark).append he).append_mute
    (outlined_mute (List.forall_mem_cons.2 ⟨mute_blank, List.forall_mem_singleton.2 hresult⟩))
  have hback := (outlined_mute (List.forall_mem_singleton.2 hclose)).mute_append hb
  have hnames := Listing.names_compose hfront (by simp) (outlined_check h hcheck).1 rfl
    (lists_waitStep h) (show Listing.closes (row 2 "return self") = true by decide) hback.whole
  rw [← hnames, classSteps]
  simp

/-! ## Inline pages -/

theorem pageName_isFragment : IsFragment (subject.screenStem ++ "Page") :=
  h.screenStem.append (by decide)

theorem outlined_inlineElements : Outlined (subject.outlets.map fun outlet =>
    .line 1 ("lazy var " ++ outlet.name ++ " = " ++ inlineElement variant outlet))
    { elements := subject.outlets.map fun outlet =>
        ⟨.stored, outlet.name, [shortCitation outlet]⟩ } := by
  refine outlined_stored h (by decide) fun outlet ho => cited_row_inlineElement h.lacks ho ?_ 1
  have hdot : '.' ∉ outlet.name := (h.lacks.outlets outlet ho).not_mem (by decide)
  simp [hdot]

theorem outline_inlinePage : ofLines (inlinePage variant subject) =
    { types := [subject.screenStem ++ "Page"]
      defined := checkMember "Elements" :: (tappable variant subject).map fun outlet =>
        tapMember (Text.upperFirst outlet.name)
      elements := subject.outlets.map fun outlet =>
        ⟨.stored, outlet.name, [shortCitation outlet]⟩ } := by
  rw [inlinePage_eq]
  exact ((outlined_classSteps h (pageName_isFragment h) (by simp) (by decide)
    (outlined_inlineElements h)).append
      ((outlined_inlineTapSteps h).append_mute outlined_close)).of_eq
        (by simp [Outline.ext_iff]) |>.compose

theorem names_inlinePage :
    Listing.names (inlinePage variant subject) = (subject.outlets.map (·.name)).map some := by
  rw [inlinePage_eq]
  exact names_classSteps h (pageName_isFragment h) (by simp) (by decide) (outlined_inlineElements h)
    ((outlined_inlineTapSteps h).append_mute outlined_close)

theorem outline_inlineExtension : ofLines (inlineExtension variant subject) =
    { extensions := [subject.screenStem ++ "Page"]
      defined := elementMembers .property (·.name) subject.outlets ++
        (tappable variant subject).map fun outlet => tapMember (Text.upperFirst outlet.name)
      elements := subject.outlets.map fun outlet =>
        ⟨.property, outlet.name, [shortCitation outlet]⟩ } := by
  have hopening : Outlined [.line 0 ("extension " ++ subject.screenStem ++ "Page \x7b")]
      { extensions := [subject.screenStem ++ "Page"] } :=
    outlined_line (read_extension (pageName_isFragment h) (show Leads "extension " "extension"
      by decide) (by simp) (by simp)) fun _ => rfl
  have helements := outlined_properties h (show Leads "var " "var" by decide)
    (@read_inlineElement variant)
    (fun outlet ho => cited_row_inlineElement h.lacks ho List.not_mem_nil 2)
  exact (((hopening.append helements).append (outlined_inlineTapSteps h)).append_mute
    outlined_close).of_eq (by simp [Outline.ext_iff, definedElements]) |>.compose

/-! ## Split screens -/

theorem screenName_isFragment : IsFragment (screenName subject) :=
  h.screenStem.append (by decide)

omit h in
theorem screenName_ne_nil : screenName subject ≠ [] :=
  List.append_ne_nil_of_right_ne_nil _ (by decide)

theorem outlined_splitElements : Outlined (subject.outlets.map fun outlet =>
    .line 1 ("private lazy var " ++ outlet.name ++ " = " ++ lookup variant subject .app outlet))
    { elements := subject.outlets.map fun outlet =>
        ⟨.stored, outlet.name, [fullCitation subject outlet]⟩ } := by
  refine outlined_stored h (by decide) fun outlet ho => cited_row_lookup_app h.lacks ho ?_ 1
  have hdot : '.' ∉ outlet.name := (h.lacks.outlets outlet ho).not_mem (by decide)
  simp [hdot]

/-- There are no assertions at first, so the actions are all that the extensions define. -/
theorem outlined_splitExtensionSteps : Outlined (splitExtensionSteps variant subject)
    { extensions := [screenName subject, screenName subject]
      defined := (tappable variant subject).map fun outlet =>
        tapMember (Text.upperFirst outlet.name) } := by
  have hreopening := outlined_reopeningSteps (screenName_isFragment h) screenName_ne_nil
  exact ((hreopening "Assertion").append ((hreopening "Action").append
    ((outlined_splitTapSteps h).append_mute outlined_close))).of_eq (by simp [Outline.ext_iff])

theorem outline_splitScreen : ofLines (splitScreen variant subject) =
    { types := [screenName subject]
      extensions := [screenName subject, screenName subject]
      defined := checkMember (screenName subject) :: (tappable variant subject).map fun outlet =>
        tapMember (Text.upperFirst outlet.name)
      elements := subject.outlets.map fun outlet =>
        ⟨.stored, outlet.name, [fullCitation subject outlet]⟩ } := by
  rw [splitScreen_eq]
  exact ((outlined_classSteps h (screenName_isFragment h) screenName_ne_nil
    (screenName_isFragment h) (outlined_splitElements h)).append
      (outlined_splitExtensionSteps h)).of_eq (by simp [Outline.ext_iff]) |>.compose

theorem names_splitScreen :
    Listing.names (splitScreen variant subject) = (subject.outlets.map (·.name)).map some := by
  rw [splitScreen_eq]
  exact names_classSteps h (screenName_isFragment h) screenName_ne_nil (screenName_isFragment h)
    (outlined_splitElements h) (outlined_splitExtensionSteps h)

theorem outlined_splitActionSteps : Outlined (splitActionSteps variant subject)
    { extensions := if (tappable variant subject).isEmpty then [] else [screenName subject]
      defined := (tappable variant subject).map fun outlet =>
        tapMember (Text.upperFirst outlet.name) } := by
  unfold splitActionSteps
  split_ifs with hempty
  · rw [List.isEmpty_iff.1 hempty]
    exact outlined_nil
  · have hmark : ∀ step ∈ [.blank, .line 0 ("// MARK: - " ++ "Action".toList)], Mute step :=
      List.forall_mem_cons.2 ⟨mute_blank, List.forall_mem_singleton.2 (mute_mark "Action")⟩
    have hextension := outlined_extension (screenName_isFragment h) screenName_ne_nil
    have hopening := (outlined_mute hmark).mute_append hextension
    have hactions := hopening.append (@outlined_splitTapSteps variant _ h)
    exact (hactions.append_mute outlined_close).of_eq (by simp [Outline.ext_iff])

theorem outline_splitExtension : ofLines (splitExtension variant subject) =
    { extensions := screenName subject ::
        if (tappable variant subject).isEmpty then [] else [screenName subject]
      defined := elementMembers .property (·.name) subject.outlets ++
        (tappable variant subject).map fun outlet => tapMember (Text.upperFirst outlet.name)
      elements := subject.outlets.map fun outlet =>
        ⟨.property, outlet.name, [fullCitation subject outlet]⟩ } := by
  have hopening := outlined_extension (screenName_isFragment h) screenName_ne_nil
  have helements := outlined_properties h (show Leads "private var " "var" by decide)
    (@read_lookup_app variant subject)
    (fun outlet ho => cited_row_lookup_app h.lacks ho List.not_mem_nil 2)
  have hextension := (hopening.append helements).append_mute outlined_close
  exact (hextension.append (outlined_splitActionSteps h)).compose.trans
    (by simp [Outline.ext_iff, definedElements])

end Screen

end OutletWiring.Page

import OutletWiring.Proofs.Page.Members.Block

/-!
# Members of the page object of a view

The protocol requires the accessor of each outlet, and the extension defines them in the same order,
with a tap action for each outlet that can be tapped.
-/

namespace OutletWiring.Page

open Draft (Step row)
open Entry (Leads read read_of_sign)
open Naming (IsFragment)
open Outline (ofLines)

variable {variant : Variant} {subject : Subject}

namespace View

def requiredSteps (variant : Variant) (subject : Subject) : List Step :=
  [.line 0 (protocolOpening variant subject.className)] ++
  requirementSteps subject ++
  [.blank,
    .line 1 ("func " ++ subject.accessorStem ++
      "Elements(status: UIStatus) -> [XCUIElement: UIStatus]"),
    .line 1 ("func check" ++ Text.upperFirst subject.accessorStem ++ "(status: UIStatus) -> Self")]

def requirements (subject : Subject) : Outline where
  types := [subject.className ++ "Elements"]
  required := elementMembers .property (accessor subject) subject.outlets ++
    [aggregateMember subject.accessorStem, checkMember (Text.upperFirst subject.accessorStem)]

def implementation (variant : Variant) (subject : Subject) : Outline where
  extensions := [subject.className ++ "Elements"]
  defined := (requirements subject).required ++
    (tappable variant subject).map fun outlet =>
      tapMember (Text.upperFirst (accessor subject outlet))
  elements := subject.outlets.map fun outlet =>
    ⟨.property, accessor subject outlet, [fullCitation subject outlet]⟩

theorem inside_requiredSteps : ∀ step ∈ requiredSteps variant subject, Inside step := by
  have hopening : (protocolOpening variant subject.className).head? ≠ some '\x7d' := by
    unfold protocolOpening
    simp
  have hrequirement : ∀ step ∈ requirementSteps subject, Inside step :=
    List.forall_mem_map.2 fun name _ => inside_line (.inl (by decide))
  simp only [requiredSteps, List.forall_mem_append, List.forall_mem_cons]
  exact ⟨⟨⟨inside_line (.inr hopening), by simp⟩, hrequirement⟩, inside_blank,
    inside_line (.inl (by decide)), inside_line (.inl (by decide)), by simp⟩

/-- The steps of the page object, cut after the protocol. -/
theorem fresh_eq : fresh variant subject = Draft.compose (requiredSteps variant subject ++
    ([.line 0 "\x7d"] ++ ([.blank] ++ implementationSteps variant subject))) := by
  rw [fresh, protocolSteps, requiredSteps]
  simp

variable (h : subject.Identified)
include h

theorem outlined_elementSteps : Outlined (elementSteps variant subject)
    (definedElements .property (accessor subject) (fullCitation subject) subject.outlets) := by
  rw [← concat_definedElements]
  refine outlined_flatMap fun outlet ho => ?_
  exact outlined_element (read_property (h.accessor ho) (by decide)).1 (read_lookup_app outlet)
    (cited_row_lookup_app h.lacks ho List.not_mem_nil 2)

theorem outlined_tapSteps : Outlined (tapSteps variant subject)
    { defined := (tappable variant subject).map fun outlet =>
        tapMember (Text.upperFirst (accessor subject outlet)) } := by
  rw [← concat_defined]
  refine outlined_flatMap fun outlet ho => ?_
  have hname := (h.accessor (List.mem_of_mem_filter ho)).upperFirst
  have htap : read (row 1 ("public func tap" ++ Text.upperFirst (accessor subject outlet) ++
      "() -> Self \x7b")) = .defined (tapMember (Text.upperFirst (accessor subject outlet))) :=
    @read_tap 1 _ hname "public " "() -> Self \x7b" (by decide) (by decide)
  exact outlined_blank.mute_append (outlined_tap htap _ ", status: .exist).tap()")

theorem outlined_requiredSteps :
    Outlined (requiredSteps variant subject) (requirements subject) := by
  have hopening : Outlined [.line 0 (protocolOpening variant subject.className)]
      { types := [subject.className ++ "Elements"] } :=
    outlined_line (read_publicProtocol h.className.isFragment _) fun _ => rfl
  have hrequirements : Outlined (requirementSteps subject)
      { required := elementMembers .property (accessor subject) subject.outlets } := by
    rw [requirementSteps, accessors, List.map_map, List.map_eq_flatMap, elementMembers,
      ← concat_required]
    exact outlined_flatMap fun outlet ho =>
      outlined_line (read_property (h.accessor ho) (by decide)).2 fun _ => rfl
  have haggregate : Outlined [.line 1 ("func " ++ subject.accessorStem ++
      "Elements(status: UIStatus) -> [XCUIElement: UIStatus]")]
      { required := [aggregateMember subject.accessorStem] } :=
    outlined_line (read_aggregate h.accessorStem (show Signs
      "(status: UIStatus) -> [XCUIElement: UIStatus]" statusesType false from
        signs_literal (by decide)) (by simp)) fun _ => rfl
  have hcheck : Outlined [.line 1 ("func check" ++ Text.upperFirst subject.accessorStem ++
      "(status: UIStatus) -> Self")]
      { required := [checkMember (Text.upperFirst subject.accessorStem)] } :=
    outlined_line (read_check h.accessorStem.upperFirst (show Signs "(status: UIStatus) -> Self"
      selfType false from signs_literal (by decide))) fun _ => rfl
  exact ((hopening.append hrequirements).append
    (outlined_blank.mute_append (haggregate.append hcheck))).of_eq
      (by simp [Outline.ext_iff, requirements])

theorem read_aggregateOpening : read (row 1 ("func " ++ subject.accessorStem ++
    "Elements(status: UIStatus = .exist) -> [XCUIElement: UIStatus] \x7b")) =
    .defined (aggregateMember subject.accessorStem) :=
  read_aggregate h.accessorStem (show Signs
    "(status: UIStatus = .exist) -> [XCUIElement: UIStatus] \x7b" statusesType true from
      signs_literal (by decide)) (by simp)

theorem outlined_aggregateSteps : Outlined (aggregateSteps subject)
    { defined := [aggregateMember subject.accessorStem] } := by
  obtain ⟨hresult, -, hclose, -⟩ := mute_frame
  have hlist := (lists_accessors h (show ": status".toList ∈ Listing.statuses by decide)).mute
  exact outlined_function [.blank, .line 1 "@discardableResult"] (read_aggregateOpening h)
    (show statusesType ≠ elementType by decide)
    (List.forall_mem_cons.2 ⟨mute_blank, List.forall_mem_singleton.2 hresult⟩)
    (List.forall_mem_cons.2 ⟨hlist, List.forall_mem_singleton.2 hclose⟩)

theorem outlined_checkSteps : Outlined (checkSteps subject)
    { defined := [checkMember (Text.upperFirst subject.accessorStem)] } := by
  obtain ⟨hresult, hreturn, hclose, -⟩ := mute_frame
  have hcall : Mute (.line 2 ("waitForElements(elements: " ++ subject.accessorStem ++
      "Elements(status: status))")) :=
    mute_line (@read_of_sign 2 "waitForElements" '(' (by decide) (by decide) 0 _)
  have hopening : read (row 1 ("func check" ++ Text.upperFirst subject.accessorStem ++
      "(status: UIStatus = .exist) -> Self \x7b")) =
      .defined (checkMember (Text.upperFirst subject.accessorStem)) :=
    read_check h.accessorStem.upperFirst (show Signs
      "(status: UIStatus = .exist) -> Self \x7b" selfType true from signs_literal (by decide))
  refine outlined_function [.blank, .line 1 "@discardableResult"] hopening
    (show selfType ≠ elementType by decide)
    (List.forall_mem_cons.2 ⟨mute_blank, List.forall_mem_singleton.2 hresult⟩) ?_
  simp only [List.forall_mem_cons]
  exact ⟨hcall, hreturn, hclose, by simp⟩

theorem outlined_extensionOpening : Outlined [.line 0 (extensionOpening subject.className)]
    { extensions := [subject.className ++ "Elements"] } := by
  have htype : IsFragment (subject.className ++ "Elements") :=
    h.className.isFragment.append (by decide)
  have htext : extensionOpening subject.className =
      "public extension ".toList ++ (subject.className ++ "Elements".toList) ++ " \x7b".toList := by
    unfold extensionOpening
    simp
  exact outlined_line (read_extension htype (by decide) (by simp) htext) fun _ => rfl

theorem outlined_implementationSteps :
    Outlined (implementationSteps variant subject) (implementation variant subject) := by
  have haccessors := (outlined_extensionOpening h).append (@outlined_elementSteps variant _ h)
  have hfunctions := (haccessors.append (outlined_aggregateSteps h)).append (outlined_checkSteps h)
  have hactions := hfunctions.append (@outlined_tapSteps variant _ h)
  exact (hactions.append_mute outlined_close).of_eq
    (by simp [Outline.ext_iff, definedElements, implementation, requirements])

theorem outline_extension : ofLines (extension variant subject) =
    { extensions := [subject.className ++ "Elements"]
      defined := elementMembers .property (accessor subject) subject.outlets ++
        (tappable variant subject).map fun outlet =>
          tapMember (Text.upperFirst (accessor subject outlet))
      elements := subject.outlets.map fun outlet =>
        ⟨.property, accessor subject outlet, [fullCitation subject outlet]⟩ } := by
  have haccessors := (outlined_extensionOpening h).append (@outlined_elementSteps variant _ h)
  have hactions := haccessors.append (@outlined_tapSteps variant _ h)
  exact (hactions.append_mute outlined_close).compose.trans
    (by simp [Outline.ext_iff, definedElements])

theorem outline_fresh :
    ofLines (fresh variant subject) = requirements subject ++ implementation variant subject := by
  rw [fresh_eq]
  have himplementation := outlined_blank.mute_append (@outlined_implementationSteps variant _ h)
  exact ((outlined_requiredSteps h).append (outlined_close.mute_append himplementation)).compose

theorem split_fresh : ofLines (firstType (fresh variant subject)) = requirements subject ∧
    ofLines (afterFirstType (fresh variant subject)) = implementation variant subject := by
  rw [fresh_eq]
  exact outline_split (outlined_requiredSteps h)
    (outlined_blank.mute_append (outlined_implementationSteps h)) inside_requiredSteps

theorem names_fresh : Listing.names (fresh variant subject) = (accessors subject).map some := by
  have hlist := lists_accessors h (show ": status".toList ∈ Listing.statuses by decide)
  have hresult : Outlined [.line 1 "@discardableResult"] {} :=
    outlined_mute (List.forall_mem_singleton.2 mute_frame.1)
  have helements := (outlined_extensionOpening h).append (@outlined_elementSteps variant subject h)
  have haccessors := helements.append_mute (outlined_blank.mute_append hresult)
  have hfront := (@outlined_requiredSteps variant subject h).append
    (outlined_close.mute_append (outlined_blank.mute_append haccessors))
  have hback := ((outlined_checkSteps h).append
    (@outlined_tapSteps variant subject h)).append_mute outlined_close
  have hnames := Listing.names_compose hfront
    (by simpa [requirements, definedElements] using lists_elementMembers)
    (read_aggregateOpening h) rfl hlist (show Listing.closes (row 1 "\x7d") = true by decide)
    hback.whole
  rw [← hnames, fresh_eq, implementationSteps, aggregateSteps]
  simp

end View

end OutletWiring.Page

import OutletWiring.Proofs.Page.Members.View

/-!
# Members of the page object of a cell

The accessor of the cell itself stands before those of the outlets, and its tap action before
theirs, when the cell is wired for the first time. The implementation extends the protocol or is a
class of its own.
-/

namespace OutletWiring.Page

open Draft (Step row)
open Entry (Leads read read_of_sign)
open Naming (IsFragment)
open Outline (ofLines)

variable {variant : Variant} {subject : Subject}

namespace Cell

def protocolName (style : PageStyle) (className : Text) : Text :=
  match style with
  | .inline => className ++ "Elements"
  | .screenSplit => className ++ "ElementsProtocol"

/-- The type that holds the implementation: the protocol by an extension, or a class of its own. -/
def implementationHead (style : PageStyle) (className : Text) : Outline :=
  match style with
  | .inline => { extensions := [className ++ "Elements"] }
  | .screenSplit => { types := [className ++ "Elements"] }

/-- The entries, if the cell gets an identifier of its own in this run. -/
def ofCell {α : Type} (subject : Subject) (entries : List α) : List α :=
  if subject.identifiesCell then entries else []

theorem map_ofCell {α β : Type} (f : α → β) (entries : List α) :
    (ofCell subject entries).map f = ofCell subject (entries.map f) := by
  unfold ofCell
  split_ifs <;> rfl

theorem defined_implementationHead (style : PageStyle) (className : Text) :
    (implementationHead style className).defined = [] := by
  cases style <;> rfl

/-- What the protocol requires: the accessors, then the functions that list and check them. -/
def requirements (variant : Variant) (subject : Subject) : Outline where
  types := [protocolName variant.pageStyle subject.className]
  required := ofCell subject [⟨.function, subject.accessorStem, elementType⟩] ++
    elementMembers .function (accessor subject) subject.outlets ++
    [aggregateMember subject.accessorStem, checkMember (Text.upperFirst subject.accessorStem)]

/-- What the implementation defines: the members that the protocol requires, then the actions. -/
def implementation (variant : Variant) (subject : Subject) : Outline :=
  implementationHead variant.pageStyle subject.className ++
  { defined := (requirements variant subject).required ++
      (ofCell subject [tapMember (Text.upperFirst subject.accessorStem)] ++
        (tappable variant subject).map fun outlet => tapMember (Text.upperFirst outlet.name))
    elements := ofCell subject [⟨.function, subject.accessorStem,
        [.full subject.enumName subject.cellIdentifier]⟩] ++
      subject.outlets.map fun outlet =>
        ⟨.function, accessor subject outlet, [fullCitation subject outlet]⟩ }

/-- The protocol of elements without its closing brace. -/
def requiredSteps (variant : Variant) (subject : Subject) : List Step :=
  [.line 0 (protocolOpening variant.pageStyle subject.className)] ++
  cellRequirementSteps subject ++
  requirementSteps subject ++
  [.line 1 ("func " ++ subject.accessorStem ++
      "Elements(at index: Int, status: UIStatus) -> [XCUIElement: UIStatus]"),
    .line 1 ("func check" ++ Text.upperFirst subject.accessorStem ++
      "(at index: Int, status: UIStatus) -> Self")]

theorem inside_requiredSteps : ∀ step ∈ requiredSteps variant subject, Inside step := by
  have hopening : (protocolOpening variant.pageStyle subject.className).head? ≠ some '\x7d' := by
    unfold protocolOpening
    cases variant.pageStyle <;> simp
  have hcell : ∀ step ∈ cellRequirementSteps subject, Inside step := by
    unfold cellRequirementSteps whenIdentified
    split_ifs
    · exact List.forall_mem_singleton.2 (inside_line (.inl (by decide)))
    · simp
  have hrequirement : ∀ step ∈ requirementSteps subject, Inside step :=
    List.forall_mem_map.2 fun name _ => inside_line (.inl (by decide))
  simp only [requiredSteps, List.forall_mem_append, List.forall_mem_cons]
  exact ⟨⟨⟨⟨inside_line (.inr hopening), by simp⟩, hcell⟩, hrequirement⟩,
    inside_line (.inl (by decide)), inside_line (.inl (by decide)), by simp⟩

/-- The steps of the page object, cut after the protocol. -/
theorem fresh_eq : fresh variant subject = Draft.compose (requiredSteps variant subject ++
    ([.line 0 "\x7d"] ++ ([.blank] ++ implementationSteps variant subject))) := by
  rw [fresh, protocolSteps, requiredSteps]
  simp

/-- The implementation as far as the accessors of its elements go. -/
def accessorSteps (variant : Variant) (subject : Subject) : List Step :=
  [.line 0 (implementationOpening variant.pageStyle subject.className)] ++
  cellSteps subject ++
  (subject.outlets.flatMap fun outlet => elementSteps variant subject outlet ++ [.blank])

/-- The implementation from the check of its elements on. -/
def actionSteps (variant : Variant) (subject : Subject) : List Step :=
  checkSteps subject ++
  cellTapSteps subject ++
  outletTapSteps variant subject ++
  [.line 0 "\x7d"]

theorem implementationSteps_eq : implementationSteps variant subject =
    accessorSteps variant subject ++ (aggregateSteps subject ++ actionSteps variant subject) := by
  simp [implementationSteps, accessorSteps, actionSteps]

theorem outlined_whenIdentified {steps : List Step} {outline : Outline}
    (h : Outlined steps outline) :
    Outlined (whenIdentified subject steps) (if subject.identifiesCell then outline else {}) := by
  unfold whenIdentified
  split_ifs
  · exact h
  · exact outlined_nil

theorem outlined_tapSteps {name : Text} (hn : IsFragment name) (element : Text) :
    Outlined (tapSteps name element) { defined := [tapMember name] } := by
  have htap : read (row 1 ("func tap" ++ name ++ "(at index: Int) -> Self \x7b")) =
      .defined (tapMember name) :=
    @read_tap 1 _ hn [] "(at index: Int) -> Self \x7b" (by decide) (by decide)
  exact outlined_blank.mute_append (outlined_tap htap element "(at: index), status: .exist).tap()")

variable (h : subject.Identified)
include h

theorem outlined_protocolOpening (style : PageStyle) :
    Outlined [.line 0 (protocolOpening style subject.className)]
      { types := [protocolName style subject.className] } := by
  have hclass := h.className.isFragment
  cases style with
  | inline => exact outlined_line (read_publicProtocol hclass _) fun _ => rfl
  | screenSplit =>
    have hname : IsFragment (subject.className ++ "ElementsProtocol") := hclass.append (by decide)
    have htext : protocolOpening .screenSplit subject.className =
        "protocol ".toList ++ (subject.className ++ "ElementsProtocol".toList) ++
          ([] ++ ' ' :: "\x7b".toList) := by
      unfold protocolOpening
      simp
    exact outlined_line (read_type hname (show Leads "protocol " "protocol" by decide)
      (.inl rfl) (.inl rfl) (by simp) htext) fun _ => rfl

theorem outlined_implementationOpening (style : PageStyle) :
    Outlined [.line 0 (implementationOpening style subject.className)]
      (implementationHead style subject.className) := by
  have hname : IsFragment (subject.className ++ "Elements") :=
    h.className.isFragment.append (by decide)
  cases style with
  | inline => exact View.outlined_extensionOpening h
  | screenSplit =>
    have htext : implementationOpening .screenSplit subject.className =
        "final class ".toList ++ (subject.className ++ "Elements".toList) ++
          ([':'] ++ ' ' :: (PageStyle.screenSplit.cellBase ++ ", ".toList ++ subject.className ++
            "ElementsProtocol \x7b".toList)) := by
      unfold implementationOpening
      simp
    exact outlined_line (read_type hname (show Leads "final class " "class" by decide)
      (.inr rfl) (.inr rfl) (by simp) htext) fun _ => rfl

theorem outlined_extensionOpening (style : PageStyle) :
    Outlined [.line 0 (extensionOpening style subject.className)]
      { extensions := [subject.className ++ "Elements"] } := by
  have hname : IsFragment (subject.className ++ "Elements") :=
    h.className.isFragment.append (by decide)
  cases style with
  | inline => exact View.outlined_extensionOpening h
  | screenSplit =>
    have htext : extensionOpening .screenSplit subject.className =
        "extension ".toList ++ (subject.className ++ "Elements".toList) ++ " \x7b".toList := by
      unfold extensionOpening
      simp
    exact outlined_line (read_extension hname (by decide) (by simp) htext) fun _ => rfl

theorem outlined_requiredSteps :
    Outlined (requiredSteps variant subject) (requirements variant subject) := by
  have hsigns : Signs "(at index: Int) -> XCUIElement" elementType false :=
    signs_literal (by decide)
  have hcell : Outlined (cellRequirementSteps subject)
      { required := ofCell subject [⟨.function, subject.accessorStem, elementType⟩] } := by
    have hline : Outlined [.line 1 ("func " ++ subject.accessorStem ++
        "(at index: Int) -> XCUIElement")]
        { required := [⟨.function, subject.accessorStem, elementType⟩] } :=
      outlined_line (read_function h.accessorStem (by decide) hsigns rfl) fun _ => rfl
    refine (outlined_whenIdentified hline).of_eq ?_
    unfold ofCell
    split_ifs <;> rfl
  have hrequirements : Outlined (requirementSteps subject)
      { required := elementMembers .function (accessor subject) subject.outlets } := by
    rw [requirementSteps, accessors, List.map_map, List.map_eq_flatMap, elementMembers,
      ← concat_required]
    exact outlined_flatMap fun outlet ho =>
      outlined_line (read_function (h.accessor ho) leads_func hsigns rfl)
        fun _ => rfl
  have haggregate : Outlined [.line 1 ("func " ++ subject.accessorStem ++
      "Elements(at index: Int, status: UIStatus) -> [XCUIElement: UIStatus]")]
      { required := [aggregateMember subject.accessorStem] } :=
    outlined_line (read_aggregate h.accessorStem (show Signs
      "(at index: Int, status: UIStatus) -> [XCUIElement: UIStatus]" statusesType false from
        signs_literal (by decide)) (by simp)) fun _ => rfl
  have hcheck : Outlined [.line 1 ("func check" ++ Text.upperFirst subject.accessorStem ++
      "(at index: Int, status: UIStatus) -> Self")]
      { required := [checkMember (Text.upperFirst subject.accessorStem)] } :=
    outlined_line (read_check h.accessorStem.upperFirst (show Signs
      "(at index: Int, status: UIStatus) -> Self" selfType false from
        signs_literal (by decide))) fun _ => rfl
  have hopening := outlined_protocolOpening h variant.pageStyle
  have haccessors := (hopening.append hcell).append hrequirements
  exact (haccessors.append (haggregate.append hcheck)).of_eq
    (by simp [Outline.ext_iff, requirements])

theorem outlined_elementSteps {outlet : Outlet} (ho : outlet ∈ subject.outlets) :
    Outlined (elementSteps variant subject outlet)
      (definedElements .function (accessor subject) (fullCitation subject) [outlet]) := by
  have hopening : read (row 1 ("func " ++ accessor subject outlet ++
      "(at index: Int = 0) -> XCUIElement \x7b")) =
      .defined ⟨.function, accessor subject outlet, elementType⟩ :=
    read_function (h.accessor ho) leads_func (show Signs
      "(at index: Int = 0) -> XCUIElement \x7b" elementType true from signs_literal (by decide)) rfl
  exact outlined_element hopening (read_lookup_cell h.accessorStem outlet)
    (cited_row_lookup_cell h.lacks ho)

theorem outlined_elements : Outlined
    (subject.outlets.flatMap fun outlet => elementSteps variant subject outlet ++ [.blank])
    (definedElements .function (accessor subject) (fullCitation subject) subject.outlets) := by
  rw [← concat_definedElements]
  exact outlined_flatMap fun outlet ho => (outlined_elementSteps h ho).append_mute outlined_blank

theorem outlined_cellSteps : Outlined (cellSteps subject)
    { defined := ofCell subject [⟨.function, subject.accessorStem, elementType⟩]
      elements := ofCell subject [⟨.function, subject.accessorStem,
        [.full subject.enumName subject.cellIdentifier]⟩] } := by
  have hopening : read (row 1 ("func " ++ subject.accessorStem ++
      "(at index: Int) -> XCUIElement \x7b")) =
      .defined ⟨.function, subject.accessorStem, elementType⟩ :=
    read_function h.accessorStem leads_func (show Signs
      "(at index: Int) -> XCUIElement \x7b" elementType true from signs_literal (by decide)) rfl
  have hvalue := @read_of_sign 2 "app" '.' (by decide) (by decide) 0
    (("cells[String(format: " : Text) ++ identifier subject subject.cellIdentifier ++
      " + \"_%d\", index)].firstMatch")
  have hcell := (outlined_element hopening hvalue (cited_row_cell h.lacks)).append_mute
    outlined_blank
  refine (outlined_whenIdentified hcell).of_eq ?_
  unfold ofCell
  split_ifs <;> rfl

theorem read_aggregateOpening : read (row 1 ("func " ++ subject.accessorStem ++
    "Elements(at index: Int = 0, status: UIStatus = .exist) -> [XCUIElement: UIStatus] \x7b")) =
    .defined (aggregateMember subject.accessorStem) :=
  read_aggregate h.accessorStem (show Signs
    "(at index: Int = 0, status: UIStatus = .exist) -> [XCUIElement: UIStatus] \x7b"
    statusesType true from signs_literal (by decide)) (by simp)

theorem outlined_aggregateSteps : Outlined (aggregateSteps subject)
    { defined := [aggregateMember subject.accessorStem] } := by
  obtain ⟨hresult, -, hclose, -⟩ := mute_frame
  have hlist := lists_accessors h (show "(at: index): status".toList ∈ Listing.statuses by decide)
  refine outlined_function [.line 1 "@discardableResult"] (read_aggregateOpening h)
    (show statusesType ≠ elementType by decide) (List.forall_mem_singleton.2 hresult) ?_
  simp only [List.forall_mem_cons]
  exact ⟨hlist.mute, hclose, mute_blank, by simp⟩

theorem outlined_checkSteps : Outlined (checkSteps subject)
    { defined := [checkMember (Text.upperFirst subject.accessorStem)] } := by
  obtain ⟨hresult, hreturn, hclose, -⟩ := mute_frame
  have hcall : Mute (.line 2 ("waitForElements(elements: " ++ subject.accessorStem ++
      "Elements(at: index, status: status))")) :=
    mute_line (@read_of_sign 2 "waitForElements" '(' (by decide) (by decide) 0 _)
  have hopening : read (row 1 ("func check" ++ Text.upperFirst subject.accessorStem ++
      "(at index: Int = 0, status: UIStatus = .exist) -> Self \x7b")) =
      .defined (checkMember (Text.upperFirst subject.accessorStem)) :=
    read_check h.accessorStem.upperFirst (show Signs
      "(at index: Int = 0, status: UIStatus = .exist) -> Self \x7b" selfType true from
        signs_literal (by decide))
  refine outlined_function [.line 1 "@discardableResult"] hopening
    (show selfType ≠ elementType by decide) (List.forall_mem_singleton.2 hresult) ?_
  simp only [List.forall_mem_cons]
  exact ⟨hcall, hreturn, hclose, by simp⟩

theorem outlined_cellTapSteps : Outlined (cellTapSteps subject)
    { defined := ofCell subject [tapMember (Text.upperFirst subject.accessorStem)] } := by
  have htap := outlined_tapSteps h.accessorStem.upperFirst subject.accessorStem
  refine (outlined_whenIdentified htap).of_eq ?_
  unfold ofCell
  split_ifs <;> rfl

theorem outlined_outletTapSteps : Outlined (outletTapSteps variant subject)
    { defined := (tappable variant subject).map fun outlet =>
        tapMember (Text.upperFirst outlet.name) } := by
  rw [← concat_defined]
  exact outlined_flatMap fun outlet ho =>
    outlined_tapSteps (h.name (List.mem_of_mem_filter ho)).upperFirst _

theorem outlined_accessorSteps : Outlined (accessorSteps variant subject)
    (implementationHead variant.pageStyle subject.className ++
    { defined := ofCell subject [⟨.function, subject.accessorStem, elementType⟩] ++
        elementMembers .function (accessor subject) subject.outlets
      elements := ofCell subject [⟨.function, subject.accessorStem,
          [.full subject.enumName subject.cellIdentifier]⟩] ++
        subject.outlets.map fun outlet =>
          ⟨.function, accessor subject outlet, [fullCitation subject outlet]⟩ }) := by
  have hopening := outlined_implementationOpening h variant.pageStyle
  have hcell := hopening.append (outlined_cellSteps h)
  exact (hcell.append (outlined_elements h)).of_eq (by simp [Outline.ext_iff, definedElements])

theorem outlined_actionSteps : Outlined (actionSteps variant subject)
    { defined := checkMember (Text.upperFirst subject.accessorStem) ::
        (ofCell subject [tapMember (Text.upperFirst subject.accessorStem)] ++
          (tappable variant subject).map fun outlet =>
            tapMember (Text.upperFirst outlet.name)) } := by
  have hcell := (outlined_checkSteps h).append (outlined_cellTapSteps h)
  have hactions := hcell.append (@outlined_outletTapSteps variant subject h)
  exact (hactions.append_mute outlined_close).of_eq (by simp [Outline.ext_iff])

theorem outlined_implementationSteps :
    Outlined (implementationSteps variant subject) (implementation variant subject) := by
  rw [implementationSteps_eq]
  have hfunctions := (outlined_aggregateSteps h).append (@outlined_actionSteps variant subject h)
  exact ((outlined_accessorSteps h).append hfunctions).of_eq
    (by simp [Outline.ext_iff, implementation, requirements])

theorem outline_extension : ofLines (extension variant subject) =
    { extensions := [subject.className ++ "Elements"]
      defined := elementMembers .function (accessor subject) subject.outlets ++
        (tappable variant subject).map fun outlet => tapMember (Text.upperFirst outlet.name)
      elements := subject.outlets.map fun outlet =>
        ⟨.function, accessor subject outlet, [fullCitation subject outlet]⟩ } := by
  have helements : Outlined (separated (subject.outlets.map (elementSteps variant subject)))
      (definedElements .function (accessor subject) (fullCitation subject) subject.outlets) := by
    rw [← concat_definedElements]
    exact outlined_separated fun outlet ho => outlined_elementSteps h ho
  have hopening := outlined_extensionOpening h variant.pageStyle
  have hmembers := (hopening.append helements).append (@outlined_outletTapSteps variant subject h)
  exact (hmembers.append_mute outlined_close).compose.trans
    (by simp [Outline.ext_iff, definedElements])

theorem outline_fresh : ofLines (fresh variant subject) =
    requirements variant subject ++ implementation variant subject := by
  rw [fresh_eq]
  have himplementation := outlined_blank.mute_append (@outlined_implementationSteps variant _ h)
  exact ((outlined_requiredSteps h).append (outlined_close.mute_append himplementation)).compose

theorem split_fresh : ofLines (firstType (fresh variant subject)) = requirements variant subject ∧
    ofLines (afterFirstType (fresh variant subject)) = implementation variant subject := by
  rw [fresh_eq]
  exact outline_split (outlined_requiredSteps h)
    (outlined_blank.mute_append (outlined_implementationSteps h)) inside_requiredSteps

theorem names_fresh : Listing.names (fresh variant subject) = (accessors subject).map some := by
  have hlist := lists_accessors h (show "(at: index): status".toList ∈ Listing.statuses by decide)
  have hresult : Outlined [.line 1 "@discardableResult"] {} :=
    outlined_mute (List.forall_mem_singleton.2 mute_frame.1)
  have haccessors := (@outlined_accessorSteps variant subject h).append_mute hresult
  have hfront := (@outlined_requiredSteps variant subject h).append
    (outlined_close.mute_append (outlined_blank.mute_append haccessors))
  have hback := outlined_blank.mute_append (@outlined_actionSteps variant subject h)
  have hmembers : ∀ member ∈ ofCell subject [⟨.function, subject.accessorStem, elementType⟩] ++
      elementMembers .function (accessor subject) subject.outlets, member.lists = false := by
    refine List.forall_mem_append.2 ⟨?_, lists_elementMembers⟩
    unfold ofCell
    split_ifs
    · exact List.forall_mem_singleton.2 rfl
    · simp
  have hnames := Listing.names_compose hfront
    (by simpa [requirements, defined_implementationHead] using hmembers)
    (read_aggregateOpening h) rfl hlist (show Listing.closes (row 1 "\x7d") = true by decide)
    hback.whole
  rw [← hnames, fresh_eq, implementationSteps_eq, aggregateSteps]
  simp

end Cell

end OutletWiring.Page

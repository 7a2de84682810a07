import OutletWiring.Proofs.Page.Members.Cell
import OutletWiring.Proofs.Page.Members.Screen

/-!
# Page objects are complete

Whatever the kind of the subject and the style of the variant, the page object that is written at
first and the members that are added later have one element for each outlet, in order, which cites
its case, and one tap action for each outlet that can be tapped. The protocol of a view or cell
requires what its implementation defines apart from the actions, the list of elements names each
once, and what is added later extends a type that was declared at first.
-/

namespace OutletWiring.Page

open Outline (ofLines)

variable {variant : Variant} {subject : Subject}

/-! ## What is expected of a page object -/

def elementName (subject : Subject) (outlet : Outlet) : Text :=
  match subject.viewKind with
  | .viewController => outlet.name
  | _ => accessor subject outlet

/-- What the tap action of an outlet is called for. -/
def tapName (subject : Subject) (outlet : Outlet) : Text :=
  match subject.viewKind with
  | .view => Text.upperFirst (accessor subject outlet)
  | _ => Text.upperFirst outlet.name

def freshForm : ViewKind → Form
  | .view => .property
  | .viewController => .stored
  | .cell => .function

/-- How the elements are defined that are added later; an extension holds no stored ones. -/
def laterForm : ViewKind → Form
  | .view => .property
  | .viewController => .property
  | .cell => .function

def element (variant : Variant) (subject : Subject) (form : Form) (outlet : Outlet) : Element :=
  ⟨form, elementName subject outlet, [citation variant subject outlet]⟩

def typeName (style : PageStyle) (subject : Subject) : Text :=
  match subject.viewKind, style with
  | .viewController, .inline => subject.screenStem ++ "Page"
  | .viewController, .screenSplit => Screen.screenName subject
  | _, _ => subject.className ++ "Elements"

/-- What a tap action is called for: a function `tap…` whose type is that of an action. -/
def Member.tap? (member : Member) : Option Text :=
  if member.form = .function ∧ member.type = selfType then Text.afterPrefix? "tap" member.name
  else none

def Outline.taps (outline : Outline) : List Text :=
  outline.defined.filterMap Member.tap?

def accessorsAmong (members : List Member) : List Member :=
  members.filter (·.type = elementType)

/-! ## Tap actions among the members -/

theorem tap?_tapMember (name : Text) : (tapMember name).tap? = some name :=
  Text.afterPrefix?_append "tap" name

theorem tap?_aggregateMember (stem : Text) : (aggregateMember stem).tap? = none := by
  have htype : statusesType ≠ selfType := by decide
  simp [Member.tap?, aggregateMember, htype]

theorem tap?_checkMember (name : Text) : (checkMember name).tap? = none := by
  simp [Member.tap?, checkMember, Text.afterPrefix?]

theorem tap?_of_elementType (form : Form) (name : Text) :
    Member.tap? ⟨form, name, elementType⟩ = none := by
  have htype : elementType ≠ selfType := by decide
  simp [Member.tap?, htype]

theorem tap?_elementMembers {form : Form} {name : Outlet → Text} {outlets : List Outlet} :
    ∀ member ∈ elementMembers form name outlets, member.tap? = none :=
  List.forall_mem_map.2 fun outlet _ => tap?_of_elementType form (name outlet)

theorem tap?_ofCell (subject : Subject) (form : Form) (name : Text) :
    ∀ member ∈ Cell.ofCell subject [Member.mk form name elementType], member.tap? = none := by
  unfold Cell.ofCell
  split_ifs
  · exact List.forall_mem_singleton.2 (tap?_of_elementType form name)
  · simp

theorem View.tap?_requirements :
    ∀ member ∈ (View.requirements subject).required, member.tap? = none := by
  simp only [View.requirements, List.forall_mem_append, List.forall_mem_cons]
  exact ⟨tap?_elementMembers, tap?_aggregateMember _, tap?_checkMember _, by simp⟩

theorem Cell.tap?_requirements :
    ∀ member ∈ (Cell.requirements variant subject).required, member.tap? = none := by
  simp only [Cell.requirements, List.forall_mem_append, List.forall_mem_cons]
  exact ⟨⟨tap?_ofCell subject _ _, tap?_elementMembers⟩, tap?_aggregateMember _, tap?_checkMember _,
    by simp⟩

section Taps

variable {members : List Member} {names : List Text} (h : ∀ member ∈ members, member.tap? = none)
include h

/-- Actions at the end of the members are told from the rest. -/
theorem filterMap_tap? : (members ++ names.map tapMember).filterMap Member.tap? = names := by
  have hmembers : members.filterMap Member.tap? = [] := List.filterMap_eq_nil_iff.2 h
  have htaps : Member.tap? ∘ tapMember = some := funext tap?_tapMember
  rw [List.filterMap_append, hmembers, List.nil_append, List.filterMap_map, htaps,
    List.filterMap_some]

omit h in
theorem taps_eq (members : List Member) {outline : Outline}
    (hd : outline.defined = members ++ names.map tapMember)
    (hm : ∀ member ∈ members, member.tap? = none) : outline.taps = names := by
  rw [Outline.taps, hd, filterMap_tap? hm]

theorem filter_untapped :
    (members ++ names.map tapMember).filter (·.tap?.isNone) = members := by
  rw [List.filter_append, List.filter_eq_self.2 fun member hm => by rw [h member hm]; rfl]
  have htaps : (names.map tapMember).filter (·.tap?.isNone) = [] := by
    refine List.filter_eq_nil_iff.2 (List.forall_mem_map.2 fun name _ => ?_)
    simp [tap?_tapMember]
  rw [htaps, List.append_nil]

omit h in
theorem accessorsAmong_append_taps :
    accessorsAmong (members ++ names.map tapMember) = accessorsAmong members := by
  have htaps : accessorsAmong (names.map tapMember) = [] := by
    refine List.filter_eq_nil_iff.2 (List.forall_mem_map.2 fun name _ => ?_)
    have htype : selfType ≠ elementType := by decide
    simp [tapMember, htype]
  rw [accessorsAmong, List.filter_append, ← accessorsAmong, ← accessorsAmong, htaps,
    List.append_nil]

end Taps

/-! ## Every page object -/

section Identified

variable (h : subject.Identified)
include h

theorem elements_fresh : (ofLines (fresh variant subject)).elements =
    Cell.ofCell subject [⟨.function, subject.accessorStem,
      [.full subject.enumName subject.cellIdentifier]⟩] ++
    subject.outlets.map (element variant subject (freshForm subject.viewKind)) := by
  unfold fresh Screen.fresh element elementName citation Cell.ofCell
  cases hk : subject.viewKind with
  | view => simp [View.outline_fresh h, View.requirements, View.implementation, freshForm,
      Subject.identifiesCell, hk]
  | viewController =>
    cases hs : variant.pageStyle with
    | inline => simp [Screen.outline_inlinePage h, freshForm, Subject.identifiesCell, hk]
    | screenSplit => simp [Screen.outline_splitScreen h, freshForm, Subject.identifiesCell, hk]
  | cell =>
    have hhead : (Cell.implementationHead variant.pageStyle subject.className).elements = [] := by
      cases variant.pageStyle <;> rfl
    simp [Cell.outline_fresh h, Cell.requirements, Cell.implementation, freshForm, hhead, Cell.ofCell]

theorem elements_extension : (ofLines (extension variant subject)).elements =
    subject.outlets.map (element variant subject (laterForm subject.viewKind)) := by
  unfold extension Screen.extension element elementName citation
  cases hk : subject.viewKind with
  | view => simp [View.outline_extension h, laterForm]
  | viewController =>
    cases hs : variant.pageStyle with
    | inline => simp [Screen.outline_inlineExtension h, laterForm]
    | screenSplit => simp [Screen.outline_splitExtension h, laterForm]
  | cell => simp [Cell.outline_extension h, laterForm]

theorem taps_fresh : (ofLines (fresh variant subject)).taps =
    Cell.ofCell subject [Text.upperFirst subject.accessorStem] ++
      (tappable variant subject).map (tapName subject) := by
  unfold fresh Screen.fresh tapName
  cases hk : subject.viewKind with
  | view =>
    refine taps_eq (View.requirements subject).required ?_ View.tap?_requirements
    simp [View.outline_fresh h, View.requirements, View.implementation, Cell.ofCell,
      Subject.identifiesCell, hk]
  | viewController =>
    cases variant.pageStyle with
    | inline =>
      refine taps_eq [checkMember "Elements"] ?_ (List.forall_mem_singleton.2 (tap?_checkMember _))
      simp [Screen.outline_inlinePage h, Cell.ofCell, Subject.identifiesCell, hk]
    | screenSplit =>
      refine taps_eq [checkMember (Screen.screenName subject)] ?_
        (List.forall_mem_singleton.2 (tap?_checkMember _))
      simp [Screen.outline_splitScreen h, Cell.ofCell, Subject.identifiesCell, hk]
  | cell =>
    refine taps_eq (Cell.requirements variant subject).required ?_ Cell.tap?_requirements
    simp [Cell.outline_fresh h, Cell.implementation, Cell.defined_implementationHead,
      Cell.map_ofCell, Cell.requirements]

theorem taps_extension : (ofLines (extension variant subject)).taps =
    (tappable variant subject).map (tapName subject) := by
  unfold extension Screen.extension tapName
  cases subject.viewKind with
  | view =>
    refine taps_eq (elementMembers .property (accessor subject) subject.outlets) ?_
      tap?_elementMembers
    simp [View.outline_extension h]
  | viewController =>
    have hmembers := @tap?_elementMembers .property (·.name) subject.outlets
    cases variant.pageStyle with
    | inline => exact taps_eq _ (by simp [Screen.outline_inlineExtension h]) hmembers
    | screenSplit => exact taps_eq _ (by simp [Screen.outline_splitExtension h]) hmembers
  | cell =>
    refine taps_eq (elementMembers .function (accessor subject) subject.outlets) ?_
      tap?_elementMembers
    simp [Cell.outline_extension h]

/-- After the protocol of a view or cell stand the members that it requires, then the actions. -/
theorem defined_afterFirstType (hk : subject.viewKind ≠ .viewController) :
    ∃ names : List Text, (ofLines (afterFirstType (fresh variant subject))).defined =
        (ofLines (firstType (fresh variant subject))).required ++ names.map tapMember ∧
      ∀ member ∈ (ofLines (firstType (fresh variant subject))).required, member.tap? = none := by
  unfold fresh
  cases hkind : subject.viewKind with
  | view =>
    refine ⟨(tappable variant subject).map fun outlet => Text.upperFirst (accessor subject outlet),
      ?_⟩
    simp only [View.split_fresh h]
    exact ⟨by simp [View.implementation], View.tap?_requirements⟩
  | viewController => exact absurd hkind hk
  | cell =>
    refine ⟨Cell.ofCell subject [Text.upperFirst subject.accessorStem] ++
      (tappable variant subject).map fun outlet => Text.upperFirst outlet.name, ?_⟩
    simp only [Cell.split_fresh h]
    refine ⟨?_, Cell.tap?_requirements⟩
    simp [Cell.implementation, Cell.defined_implementationHead, Cell.map_ofCell]

theorem names_fresh :
    Listing.names (fresh variant subject) =
      (subject.outlets.map (elementName subject)).map some := by
  unfold fresh Screen.fresh elementName
  cases subject.viewKind with
  | view => exact View.names_fresh h
  | viewController =>
    cases variant.pageStyle with
    | inline => exact Screen.names_inlinePage h
    | screenSplit => exact Screen.names_splitScreen h
  | cell => exact Cell.names_fresh h

theorem typeName_mem_types : typeName variant.pageStyle subject ∈
    (ofLines (fresh variant subject)).types := by
  unfold fresh Screen.fresh typeName
  cases subject.viewKind with
  | view => simp [View.outline_fresh h, View.requirements]
  | viewController =>
    cases variant.pageStyle with
    | inline => simp [Screen.outline_inlinePage h]
    | screenSplit => simp [Screen.outline_splitScreen h]
  | cell =>
    rw [Cell.outline_fresh h]
    unfold Cell.requirements Cell.implementation Cell.implementationHead Cell.protocolName
    cases variant.pageStyle <;> simp

theorem extensions_extension : (ofLines (extension variant subject)).extensions ≠ [] ∧
    ∀ name ∈ (ofLines (extension variant subject)).extensions,
      name = typeName variant.pageStyle subject := by
  unfold extension Screen.extension typeName
  cases subject.viewKind with
  | view => simp [View.outline_extension h]
  | viewController =>
    cases variant.pageStyle with
    | inline => simp [Screen.outline_inlineExtension h]
    | screenSplit =>
      rw [Screen.outline_splitExtension h]
      split_ifs <;> simp
  | cell => simp [Cell.outline_extension h]

end Identified

/-- A page object has one element for each outlet, in order, and a tap action for each outlet that
can be tapped; a cell that gets an identifier has its own before them. The protocol of a view or cell
requires what is implemented apart from the actions, and so the same accessors. The list of elements
names that of each outlet once. What is added later extends a type that any page object of the same
class, kind and variant declares at first. -/
theorem page_members_complete (h : subject.Identified) (variant : Variant) :
    let page := ofLines (fresh variant subject)
    let added := ofLines (extension variant subject)
    let protocol := ofLines (firstType (fresh variant subject))
    let implementation := ofLines (afterFirstType (fresh variant subject))
    (page.elements = Cell.ofCell subject [⟨.function, subject.accessorStem,
          [.full subject.enumName subject.cellIdentifier]⟩] ++
        subject.outlets.map (element variant subject (freshForm subject.viewKind)) ∧
      added.elements =
        subject.outlets.map (element variant subject (laterForm subject.viewKind))) ∧
    (page.taps = Cell.ofCell subject [Text.upperFirst subject.accessorStem] ++
        (tappable variant subject).map (tapName subject) ∧
      added.taps = (tappable variant subject).map (tapName subject)) ∧
    (subject.viewKind ≠ .viewController →
      protocol.required = implementation.defined.filter (·.tap?.isNone) ∧
        accessorsAmong protocol.required = accessorsAmong implementation.defined) ∧
    Listing.names (fresh variant subject) = (subject.outlets.map (elementName subject)).map some ∧
    ∀ first : Subject, first.Identified → first.className = subject.className →
      first.viewKind = subject.viewKind → added.extensions ≠ [] ∧
        ∀ name ∈ added.extensions, name ∈ (ofLines (fresh variant first)).types := by
  intro page added protocol implementation
  refine ⟨⟨elements_fresh h, elements_extension h⟩, ⟨taps_fresh h, taps_extension h⟩, ?_,
    names_fresh h, ?_⟩
  · intro hk
    obtain ⟨names, hdefined, hmembers⟩ := @defined_afterFirstType variant subject h hk
    constructor
    · rw [hdefined, filter_untapped hmembers]
    · rw [hdefined, accessorsAmong_append_taps]
  · intro first hfirst hclass hkind
    obtain ⟨hne, hall⟩ := @extensions_extension variant subject h
    refine ⟨hne, fun name hname => ?_⟩
    -- the name of the type hangs on the class name and the kind alone
    have htype : typeName variant.pageStyle first = typeName variant.pageStyle subject := by
      simp only [typeName, Screen.screenName, Subject.screenStem, hclass, hkind]
    rw [hall name hname, ← htype]
    exact typeName_mem_types hfirst

/-- A cell with a search bar and a button, of which one can be tapped, when it is wired for the
first time; the outlets of a later run extend the class that is declared then. -/
theorem page_members_complete_searchCell :
    (∀ wired, (Subject.searchCell wired).Identified) ∧
    (ofLines (fresh .qa (.searchCell false))).elements =
      [⟨.function, "resultTableViewCell", [.full "ResultAccessibilityIdentifier"
          "resultTableViewCell"]⟩,
        ⟨.function, "resultTableViewCellSearchBar", [.full "ResultAccessibilityIdentifier"
          "searchBar"]⟩,
        ⟨.function, "resultTableViewCellClearButton", [.full "ResultAccessibilityIdentifier"
          "clearButton"]⟩] ∧
    (ofLines (fresh .qa (.searchCell false))).taps =
      ["ResultTableViewCell".toList, "ClearButton".toList] ∧
    accessorsAmong (ofLines (firstType (fresh .qa (.searchCell false)))).required =
      accessorsAmong (ofLines (afterFirstType (fresh .qa (.searchCell false)))).defined ∧
    Listing.names (fresh .qa (.searchCell false)) =
      [some "resultTableViewCellSearchBar".toList,
        some "resultTableViewCellClearButton".toList] ∧
    (ofLines (extension .qa (.searchCell true))).extensions ≠ [] ∧
    ∀ name ∈ (ofLines (extension .qa (.searchCell true))).extensions,
      name ∈ (ofLines (fresh .qa (.searchCell false))).types := by
  have hidentified : ∀ wired, (Subject.searchCell wired).Identified := by
    intro wired
    cases wired <;> exact ⟨by decide, by decide, by decide⟩
  obtain ⟨⟨helements, -⟩, ⟨htaps, -⟩, hprotocol, hnames, -⟩ :=
    page_members_complete (hidentified false) .qa
  obtain ⟨-, -, -, -, htypes⟩ := page_members_complete (hidentified true) .qa
  refine ⟨hidentified, ?_, ?_, (hprotocol (by decide)).2, ?_,
    htypes _ (hidentified false) rfl rfl⟩
  · rw [helements]
    decide
  · rw [htaps]
    decide
  · rw [hnames]
    decide

end OutletWiring.Page

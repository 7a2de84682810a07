import OutletWiring.Proofs.Page.Citations
import OutletWiring.Proofs.Page.Listing

/-!
# Rows and blocks of a page object

How the declarations that page objects are made of are read, if their names are identifiers: the row
of each kind of declaration gives its name and type, and a block of rows gives one element or one
function. The texts between them declare nothing.
-/

namespace OutletWiring

open Draft (Step row)
open Naming (IsFragment IsIdentifier)

structure Subject.Identified (subject : Subject) : Prop where
  className : IsIdentifier subject.className
  enumName : IsIdentifier subject.enumName
  outlets : ∀ o ∈ subject.outlets, IsIdentifier o.name

namespace Subject.Identified

variable {subject : Subject} (h : subject.Identified)
include h

theorem lacks : subject.Lacks .ofCases := by
  have hname : ∀ {name : Text}, IsIdentifier name → Text.Lacks .ofCases name := by
    intro name hn c hc
    have hword := hn.isFragment c hc
    rw [← Bool.not_eq_true]
    intro hmark
    simp only [Punctuation.ofCases, Bool.or_eq_true, beq_iff_eq] at hmark
    rcases hmark with (((rfl | rfl) | rfl) | rfl) | rfl <;> exact absurd hword (by decide)
  exact ⟨hname h.className, hname h.enumName, fun o ho => hname (h.outlets o ho)⟩

theorem accessorStem : IsFragment subject.accessorStem :=
  h.className.isFragment.accessorStem

theorem screenStem : IsFragment subject.screenStem :=
  h.className.isFragment.screenStem

theorem name {outlet : Outlet} (ho : outlet ∈ subject.outlets) : IsFragment outlet.name :=
  (h.outlets outlet ho).isFragment

theorem accessor {outlet : Outlet} (ho : outlet ∈ subject.outlets) :
    IsFragment (Page.accessor subject outlet) :=
  h.accessorStem.append (h.name ho).upperFirst

end Subject.Identified

namespace Page

open Entry (Leads read read_named read_of_sign)
open Outline (ofLines)

variable {variant : Variant} {subject : Subject}

/-! ## Rows -/

def tapMember (name : Text) : Member := ⟨.function, "tap" ++ name, selfType⟩

def aggregateMember (stem : Text) : Member := ⟨.function, stem ++ "Elements", statusesType⟩

def checkMember (name : Text) : Member := ⟨.function, "check" ++ name, selfType⟩

def elementMembers (form : Form) (name : Outlet → Text) (outlets : List Outlet) : List Member :=
  outlets.map fun outlet => ⟨form, name outlet, elementType⟩

def definedElements (form : Form) (name : Outlet → Text) (citation : Outlet → Citation)
    (outlets : List Outlet) : Outline where
  defined := elementMembers form name outlets
  elements := outlets.map fun outlet => ⟨form, name outlet, [citation outlet]⟩

theorem lists_elementMembers {form : Form} {name : Outlet → Text} {outlets : List Outlet} :
    ∀ member ∈ elementMembers form name outlets, member.lists = false := by
  have hlists : ∀ name, Member.lists ⟨form, name, elementType⟩ = false := fun name => rfl
  exact List.forall_mem_map.2 fun outlet _ => hlists (name outlet)

/-- What stands after the name of a function ends in this type, and in a brace if it is `braced`. -/
def Signs (tail : Text) (type : List Text) (braced : Bool) : Prop :=
  let mark := tail.takeWhile (· != ' ')
  let words := Line.tokens (tail.dropWhile (· != ' '))
  (' ' ∈ tail ∧ mark ≠ [] ∧ Line.flat mark = mark ∧ Line.Ends mark) ∧
    Entry.typeOf ((words.dropWhile (· != "->".toList)).drop 1) = type ∧
    (words.getLast? == some "\x7b".toList) = braced

instance (tail : Text) (type : List Text) (braced : Bool) : Decidable (Signs tail type braced) :=
  inferInstanceAs (Decidable (_ ∧ _))

/-- A literal is looked through as the list of its characters. -/
theorem signs_literal {chars : List Char} {type : List Text} {braced : Bool}
    (h : Signs chars type braced) : Signs (String.ofList chars).toList type braced := by
  rwa [String.toList_ofList]

theorem leads_func : Leads "func " "func" := by decide

section Rows

variable {level : Nat} {text lead name : Text} (hn : IsFragment name)
include hn

/-- A function is read with its type, whatever its parameters. -/
theorem read_function {tail : Text} {type : List Text} {braced : Bool} (hl : Leads lead "func")
    (ht : Signs tail type braced) (htext : text = lead ++ name ++ tail) :
    read (row level text) =
      cond braced (.defined ⟨.function, name, type⟩) (.required ⟨.function, name, type⟩) := by
  obtain ⟨⟨hmem, hmark⟩, hwords⟩ := ht
  obtain ⟨mark, more, rfl, hspace⟩ := List.eq_append_cons_of_mem hmem
  have hdrop : (mark ++ ' ' :: more).dropWhile (· != ' ') = [' '] ++ more := by
    rw [List.dropWhile_append_of_pos, List.dropWhile_cons_of_neg (by simp)]
    · rfl
    · exact fun c hc => by simpa using fun heq : c = ' ' => hspace (heq ▸ hc)
  rw [Line.takeWhile_append_cons hspace] at hmark
  have hblank : Line.tokens [' '] = [] := by decide
  rw [hdrop, Line.tokens_append_of_space rfl, hblank, List.nil_append] at hwords
  obtain ⟨htype, hbrace⟩ := hwords
  obtain ⟨hne, hflat, hends⟩ := hmark
  rw [htext, read_named hl hn mark more rfl ⟨hflat, hspace, hends⟩ (by simp [hne])]
  show Entry.ofMember _ _ = _
  rw [htype, Entry.ofMember]
  cases braced with
  | true => rw [if_pos (by simpa using hbrace)]; rfl
  | false => rw [if_neg (by simpa using hbrace)]; rfl

theorem read_check {tail : Text} {braced : Bool} (ht : Signs tail selfType braced) :
    read (row level ("func check" ++ name ++ tail)) =
      cond braced (.defined (checkMember name)) (.required (checkMember name)) :=
  read_function (IsFragment.append (by decide) hn) leads_func ht (by simp)

theorem read_aggregate {tail rest : Text} {braced : Bool} (ht : Signs tail statusesType braced)
    (hrest : rest = "Elements".toList ++ tail) :
    read (row level ("func " ++ name ++ rest)) =
      cond braced (.defined (aggregateMember name)) (.required (aggregateMember name)) :=
  read_function (hn.append (show IsFragment "Elements" by decide))
    leads_func ht (by simp [hrest])

theorem read_tap {visibility tail : Text} (hv : Leads (visibility ++ "func ") "func")
    (ht : Signs tail selfType true) :
    read (row level (visibility ++ "func tap" ++ name ++ tail)) = .defined (tapMember name) :=
  read_function (IsFragment.append (by decide) hn) hv ht (by simp)

theorem read_property (hl : Leads lead "var") :
    read (row level (lead ++ name ++ ": XCUIElement \x7b")) =
        .defined ⟨.property, name, elementType⟩ ∧
      read (row level (lead ++ name ++ ": XCUIElement \x7b get \x7d")) =
        .required ⟨.property, name, elementType⟩ := by
  constructor
  · exact (read_named hl hn ":" "XCUIElement \x7b" rfl (by decide) (by simp)).trans rfl
  · exact (read_named hl hn ":" "XCUIElement \x7b get \x7d" rfl (by decide) (by simp)).trans rfl

theorem read_type {keyword mark more : Text} (hl : Leads lead keyword)
    (hk : keyword = "protocol" ∨ keyword = "class") (hm : mark = [] ∨ mark = [':']) (hne : name ≠ [])
    (htext : text = lead ++ name ++ (mark ++ ' ' :: more)) : read (row level text) = .type name := by
  have hmark : Line.flat mark = mark ∧ ' ' ∉ mark ∧ Line.Ends mark := by
    rcases hm with rfl | rfl <;> decide
  rw [htext, read_named hl hn mark more rfl hmark (by simp [hne]), Entry.ofKeyword, if_pos hk]

/-- A protocol of elements that only pages can adopt. -/
theorem read_publicProtocol (base : Text) :
    read (row level ("public protocol " ++ name ++ "Elements where Self: " ++ base ++ " \x7b")) =
      .type (name ++ "Elements") := by
  have htext : "public protocol ".toList ++ name ++ "Elements where Self: ".toList ++ base ++
      " \x7b".toList = "public protocol ".toList ++ (name ++ "Elements".toList) ++
        ([] ++ ' ' :: ("where Self: ".toList ++ base ++ " \x7b".toList)) := by
    simp
  exact read_type (hn.append (by decide)) (show Leads "public protocol " "protocol" by decide)
    (.inl rfl) (.inl rfl) (by simp) htext

theorem read_extension (hl : Leads lead "extension") (hne : name ≠ [])
    (htext : text = lead ++ name ++ " \x7b") : read (row level text) = .extension name := by
  rw [htext]
  exact (read_named hl hn [] "\x7b" rfl (by decide) (by simp [hne])).trans rfl

end Rows

/-! ## Blocks -/

theorem mute_frame : Mute (.line 1 "@discardableResult") ∧ Mute (.line 2 "return self") ∧
    Mute (.line 1 "\x7d") ∧ Mute (.line 0 "\x7d") :=
  ⟨mute_line (by decide), mute_line (by decide), mute_line (by decide), mute_line (by decide)⟩

theorem outlined_close : Outlined [.line 0 "\x7d"] {} :=
  outlined_mute (List.forall_mem_singleton.2 mute_frame.2.2.2)

/-- A function that is no element, between lines that declare nothing. -/
theorem outlined_function (before : List Step) {after : List Step} {opening : Text}
    {member : Member} (ho : read (row 1 opening) = .defined member) (hm : member.type ≠ elementType)
    (hb : ∀ step ∈ before, Mute step) (ha : ∀ step ∈ after, Mute step) :
    Outlined (before ++ ([.line 1 opening] ++ after)) { defined := [member] } := by
  have hline : Outlined [.line 1 opening] { defined := [member] } :=
    outlined_line ho fun next? => by rw [Entry.outline, if_neg hm]
  exact (outlined_mute hb).mute_append (hline.append_mute (outlined_mute ha))

/-- A tap action, with the call in its body. -/
theorem outlined_tap {opening name : Text} (ho : read (row 1 opening) = .defined (tapMember name))
    (element status : Text) :
    Outlined [.line 1 "@discardableResult", .line 1 opening,
      .line 2 ("expect(element: " ++ element ++ status), .line 2 "return self", .line 1 "\x7d"]
      { defined := [tapMember name] } := by
  obtain ⟨hresult, hreturn, hclose, -⟩ := mute_frame
  have hcall : Mute (.line 2 ("expect(element: " ++ element ++ status)) :=
    mute_line (@read_of_sign 2 "expect" '(' (by decide) (by decide) 0 _)
  have hafter : ∀ step ∈ [.line 2 ("expect(element: " ++ element ++ status), .line 2 "return self",
      .line 1 "\x7d"], Mute step := by
    simp only [List.forall_mem_cons]
    exact ⟨hcall, hreturn, hclose, by simp⟩
  exact outlined_function [_] ho (show selfType ≠ elementType by decide)
    (List.forall_mem_singleton.2 hresult) hafter

section Items

variable {form : Form} {name : Outlet → Text} {citation : Outlet → Citation}
  {member : Outlet → Member} {outlets : List Outlet}

theorem concat_definedElements :
    Outline.concat (outlets.map fun outlet => definedElements form name citation [outlet]) =
      definedElements form name citation outlets := by
  simp [Outline.concat, definedElements, elementMembers, List.flatMap_map, ← List.map_eq_flatMap]

theorem concat_defined :
    Outline.concat (outlets.map fun outlet => { defined := [member outlet] }) =
      { defined := outlets.map member } := by
  simp [Outline.concat, List.flatMap_map, ← List.map_eq_flatMap]

theorem concat_required :
    Outline.concat (outlets.map fun outlet => { required := [member outlet] }) =
      { required := outlets.map member } := by
  simp [Outline.concat, List.flatMap_map, ← List.map_eq_flatMap]

theorem concat_elements {element : Outlet → Element} :
    Outline.concat (outlets.map fun outlet => { elements := [element outlet] }) =
      { elements := outlets.map element } := by
  simp [Outline.concat, List.flatMap_map, ← List.map_eq_flatMap]

end Items

theorem read_lookup_app (outlet : Outlet) :
    read (row 2 (lookup variant subject .app outlet)) =
      .other (row 2 (lookup variant subject .app outlet)) := by
  obtain ⟨middle, closing, -, -, heq⟩ := lookup_eq variant subject .app outlet
  rw [heq]
  exact @read_of_sign 2 "app" '.' (by decide) (by decide) 0 _

theorem read_lookup_cell {stem : Text} (h : IsFragment stem) (outlet : Outlet) :
    read (row 2 (lookup variant subject (.cell stem) outlet)) =
      .other (row 2 (lookup variant subject (.cell stem) outlet)) := by
  obtain ⟨middle, closing, -, -, heq⟩ := lookup_eq variant subject (.cell stem) outlet
  have hroot : (Scope.cell stem).root = stem ++ '(' :: "at: index)".toList := rfl
  rw [heq, hroot, List.append_assoc, List.cons_append]
  exact read_of_sign (Line.space_not_mem_of_isFragment h) (by decide) 0 _

/-- The accessors in brackets, each with its status. -/
theorem lists_accessors (h : subject.Identified) {status : Text} (hs : status ∈ Listing.statuses) :
    Listing.Lists (.list 2 "[" ((accessors subject).map (· ++ status)) " " "]")
      (accessors subject) := by
  have hname : ∀ name ∈ accessors subject, IsFragment name := by
    rw [accessors, List.forall_mem_map]
    exact fun outlet ho => h.accessor ho
  exact Listing.lists_step (show "[".toList ∈ Listing.openings by decide) hs
    (show "]".toList ∈ Listing.stops by decide) hname 2 1

end Page

end OutletWiring

import OutletWiring.Proofs.Line.Calls
import OutletWiring.Proofs.Page.Members

/-!
# Calls in the lines of a page object

The lines that page objects are made of, each with the condition under which it is taken for a
binding. A function that is named for the subject may have a name that ends in that of the binding
function; those of the test framework do not.
-/

namespace OutletWiring

open Draft (Step)
open Line (Mark.typealias bindingName setterName)
open Naming (IsFragment)

theorem Naming.IsFragment.lacks_ofMarks {name : Text} (h : IsFragment name) :
    Text.Lacks .ofMarks name := by
  intro c hc
  have hword := h c hc
  rw [← Bool.not_eq_true]
  intro hmark
  simp only [Punctuation.ofMarks, Bool.or_eq_true, beq_iff_eq] at hmark
  rcases hmark with (rfl | rfl) | rfl <;> exact absurd hword (by decide)

theorem Subject.Identified.lacks_ofMarks {subject : Subject} (h : subject.Identified) :
    subject.Lacks .ofMarks where
  className := h.className.isFragment.lacks_ofMarks
  enumName := h.enumName.isFragment.lacks_ofMarks
  outlets _ ho := (h.name ho).lacks_ofMarks

theorem Text.lacks_literal {marks : Punctuation} {chars : List Char}
    (h : (chars.all fun c => !marks.holds c) = true) :
    Text.Lacks marks (String.ofList chars).toList := by
  rw [String.toList_ofList]
  intro c hc
  simpa using List.all_eq_true.1 h c hc

/-! ## Texts around names -/

namespace Line.BindsIff

variable {name before : Text} {chars : List Char}

/-- A name between fixed texts that call nothing. -/
theorem named {front back : List Char} (hn : IsFragment name)
    (hf : (front.all fun c => !Punctuation.ofMarks.holds c) = true)
    (hb : (back.all fun c => !Punctuation.ofMarks.holds c) = true) :
    BindsIff ((String.ofList front).toList ++ name ++ (String.ofList back).toList) False :=
  of_lacks (((Text.lacks_literal hf).append hn.lacks_ofMarks).append (Text.lacks_literal hb))

/-- The declaration of a function is a binding if the name of the function ends in that of the
binding function. -/
theorem declaration {lead : Text} (before front : Text) (hlead : lead = before ++ ' ' :: front)
    (hbefore : Text.Lacks .ofMarks before) (hname : IsFragment (front ++ name))
    (hset : front ++ name = "setAccessibilityIdentifiers" → chars.head? ≠ some ')')
    (hrest : BindsIff (String.ofList chars).toList False) :
    BindsIff (lead ++ name ++ (String.ofList ('(' :: chars)).toList)
      (bindingName <:+ front ++ name) := by
  have htext : lead ++ name ++ (String.ofList ('(' :: chars)).toList =
      (before ++ ' ' :: (front ++ name)) ++ '(' :: (String.ofList chars).toList := by
    simp [hlead]
  have hlacks : Text.Lacks .ofMarks (before ++ ' ' :: (front ++ name)) :=
    hbefore.append (List.forall_mem_cons.2 ⟨rfl, hname.lacks_ofMarks⟩)
  have hspace : ' ' ∉ front ++ name := fun hm => absurd (hname ' ' hm) (by decide)
  have hsetter : setterName = "func".toList ++ ' ' :: "setAccessibilityIdentifiers".toList := by
    decide
  rw [htext]
  refine call_only hlacks ?_ (Text.suffix_append_cons_iff _ _ (by decide)) hrest
  rw [hsetter, Text.append_cons_suffix_iff (by decide) hspace]
  rintro ⟨-, heq⟩ ⟨rest, hclose⟩
  rw [String.toList_ofList] at hclose
  exact hset heq.symm (by rw [← hclose]; rfl)

theorem function (hn : IsFragment name) (hset : chars.head? ≠ some ')')
    (hrest : BindsIff (String.ofList chars).toList False) :
    BindsIff ("func " ++ name ++ (String.ofList ('(' :: chars)).toList) (bindingName <:+ name) :=
  declaration "func" [] (by simp) (by decide) hn (fun _ => hset) hrest

theorem check (hn : IsFragment name) (hrest : BindsIff (String.ofList chars).toList False) :
    BindsIff ("func check" ++ name ++ (String.ofList ('(' :: chars)).toList)
      (bindingName <:+ "check" ++ name) :=
  declaration "func" "check" (by simp) (by decide)
    (IsFragment.append (by decide) hn) (by simp) hrest

theorem tap {lead : Text} (before : Text) (hlead : lead = before ++ ' ' :: "tap")
    (hbefore : Text.Lacks .ofMarks before) (hn : IsFragment name)
    (hrest : BindsIff (String.ofList chars).toList False) :
    BindsIff (lead ++ name ++ (String.ofList ('(' :: chars)).toList)
      (bindingName <:+ "tap" ++ name) :=
  declaration before "tap" hlead hbefore (IsFragment.append (by decide) hn) (by simp) hrest

/-- The functions that list the elements are named for what they list; the word is spelled out to
meet the texts that it starts. -/
theorem listing (hb : Text.Lacks .ofMarks before) (hrest : BindsIff (String.ofList chars).toList False) :
    BindsIff (before ++
      (String.ofList ('E' :: 'l' :: 'e' :: 'm' :: 'e' :: 'n' :: 't' :: 's' :: '(' :: chars)).toList)
      False := by
  have htext : before ++
      (String.ofList ('E' :: 'l' :: 'e' :: 'm' :: 'e' :: 'n' :: 't' :: 's' :: '(' :: chars)).toList =
        (before ++ 'E' :: "lements") ++ '(' :: (String.ofList chars).toList := by
    simp
  have hlacks : Text.Lacks .ofMarks (before ++ 'E' :: "lements") := hb.append (by decide)
  rw [htext]
  refine call_other_of_lacks hlacks ?_ hrest
  rw [Text.suffix_append_cons_iff _ _ (by decide), Text.suffix_append_cons_iff _ _ (by decide)]
  decide

theorem lister (hn : IsFragment name) (hrest : BindsIff (String.ofList chars).toList False) :
    BindsIff ("func " ++ name ++
      (String.ofList ('E' :: 'l' :: 'e' :: 'm' :: 'e' :: 'n' :: 't' :: 's' :: '(' :: chars)).toList)
      False :=
  listing (Text.Lacks.append (by decide) hn.lacks_ofMarks) hrest

/-- A call that waits for the elements that are listed. -/
theorem waiting (hn : IsFragment name) (hrest : BindsIff (String.ofList chars).toList False) :
    BindsIff ("waitForElements(elements: " ++ name ++
      (String.ofList ('E' :: 'l' :: 'e' :: 'm' :: 'e' :: 'n' :: 't' :: 's' :: '(' :: chars)).toList)
      False := by
  have htext : ("waitForElements(elements: " : Text) ++ name =
      "waitForElements" ++ '(' :: ("elements: " ++ name) := by
    simp
  have hlead : Text.Lacks .ofMarks ("elements: " ++ name) :=
    Text.Lacks.append (by decide) hn.lacks_ofMarks
  rw [htext, List.append_assoc, List.cons_append]
  exact call_other_of_lacks (by decide) (by decide) (listing hlead hrest)

/-- The end of a tap on an element. -/
theorem tapping (hb : Text.Lacks .ofMarks before) :
    BindsIff (before ++ ", status: .exist).tap()") False := by
  have htext : before ++ ", status: .exist).tap()".toList =
      ((before ++ ", status: .exist)") ++ '.' :: "tap") ++ '(' :: ")".toList := by
    simp
  have hlacks : Text.Lacks .ofMarks ((before ++ ", status: .exist)") ++ '.' :: "tap") :=
    (hb.append (by decide)).append (by decide)
  rw [htext]
  refine call_other_of_lacks hlacks ?_ (.literal rfl)
  rw [Text.suffix_append_cons_iff _ _ (by decide), Text.suffix_append_cons_iff _ _ (by decide)]
  decide

/-- A tap on an element that is a property. -/
theorem expectation (hn : IsFragment name) :
    BindsIff ("expect(element: " ++ name ++ ", status: .exist).tap()") False := by
  have htext : ("expect(element: " ++ name ++ ", status: .exist).tap()" : Text) =
      "expect" ++ '(' :: (("element: " ++ name) ++ ", status: .exist).tap()") := by
    simp
  have hlead : Text.Lacks .ofMarks ("element: " ++ name) :=
    Text.Lacks.append (by decide) hn.lacks_ofMarks
  rw [htext]
  exact call_other_of_lacks (by decide) (by decide) (tapping hlead)

/-- A tap on an element that a function gives for a row. -/
theorem rowExpectation (hn : IsFragment name) :
    BindsIff ("expect(element: " ++ name ++ "(at: index), status: .exist).tap()")
      (bindingName <:+ name) := by
  have htext : ("expect(element: " ++ name ++ "(at: index), status: .exist).tap()" : Text) =
      "expect" ++ '(' :: (("element:" ++ ' ' :: name) ++
        '(' :: ("at: index)" ++ ", status: .exist).tap()")) := by
    simp
  have hlacks : Text.Lacks .ofMarks ("element:" ++ ' ' :: name) :=
    Text.Lacks.append (by decide) (List.forall_mem_cons.2 ⟨rfl, hn.lacks_ofMarks⟩)
  have hcall : BindsIff (("element:" ++ ' ' :: name) ++
      '(' :: ("at: index)" ++ ", status: .exist).tap()")) (bindingName <:+ name) :=
    call_only hlacks (by simp) (Text.suffix_append_cons_iff _ _ (by decide)) (tapping (by decide))
  rw [htext]
  exact call_other_of_lacks (by decide) (by decide) hcall

end Line.BindsIff

/-! ## Lookups -/

namespace Page

variable {variant : Variant} {subject : Subject}

/-- A lookup after the place where it starts. -/
def lookupEnd (variant : Variant) (subject : Subject) (outlet : Outlet) : Text :=
  match outlet.kind variant.prominentButton? with
  | .prominentButton =>
    ".buttons.element(matching: .button, identifier: " ++ identifier subject outlet.name ++ ")"
  | kind => "." ++ kind.query ++ "[" ++ identifier subject outlet.name ++ "]"

theorem lookup_eq_append (scope : Scope) (outlet : Outlet) :
    lookup variant subject scope outlet = scope.root ++ lookupEnd variant subject outlet := by
  unfold lookup lookupEnd
  cases outlet.kind variant.prominentButton? <;> simp only [List.append_assoc]

theorem lacks_query_ofMarks (kind : ElementKind) :
    Text.Lacks .ofMarks kind.query ∧ Text.Lacks .ofMarks kind.constructorName := by
  cases kind <;> decide

theorem bindsIff_separated {items : List Outlet} {f : Outlet → List Step} {p : Outlet → Prop}
    (h : ∀ item ∈ items, Draft.BindsIff (f item) (p item)) :
    Draft.BindsIff (separated (items.map f)) (∃ item ∈ items, p item) := by
  induction items with
  | nil => exact Draft.BindsIff.nil.congr (by simp)
  | cons item items ih =>
    rw [List.forall_mem_cons] at h
    cases items with
    | nil => exact h.1.congr (by simp)
    | cons next items =>
      rw [List.map_cons, List.map_cons, separated.eq_3 _ _ (by simp), ← List.map_cons]
      exact (h.1.append (.cons_other .blank (ih h.2))).congr (by simp)

section Identified

variable (h : subject.Identified)
include h

theorem lacks_identifier_ofMarks {name : Text} (hn : Text.Lacks .ofMarks name) :
    Text.Lacks .ofMarks (identifier subject name) := by
  unfold identifier
  simp only [Text.lacks_append_iff, and_assoc]
  exact ⟨Text.lacks_literal rfl, h.lacks_ofMarks.enumName, Text.lacks_literal rfl, hn,
    Text.lacks_literal rfl⟩

/-- A lookup calls at most the framework after the place where it starts. -/
theorem bindsIff_lookupEnd {outlet : Outlet} (ho : outlet ∈ subject.outlets) {root : Text}
    (hparen : '(' ∉ root)
    (htypealias : ∀ rest, '=' ∉ rest → Text.occursIn Mark.typealias (root ++ rest) = false) :
    Line.BindsIff (root ++ lookupEnd variant subject outlet) False := by
  have hid := lacks_identifier_ofMarks h (h.name ho).lacks_ofMarks
  unfold lookupEnd
  split
  · have htext : root ++ (".buttons.element(matching: .button, identifier: " ++
        identifier subject outlet.name ++ ")") = ((root ++ ".buttons") ++ '.' :: "element") ++
          '(' :: ("matching: .button, identifier: " ++ identifier subject outlet.name ++ ")") := by
      simp
    have hrest : Text.Lacks .ofMarks
        ("matching: .button, identifier: " ++ identifier subject outlet.name ++ ")") :=
      ((Text.lacks_literal rfl).append hid).append (Text.lacks_literal rfl)
    rw [htext]
    refine .call_other (by simp [hparen]) ?_ ?_ ?_ (.of_lacks hrest)
    · rw [List.append_assoc]
      exact htypealias _ (by decide)
    · rw [Text.suffix_append_cons_iff _ _ (by decide)]
      decide
    · rw [Text.suffix_append_cons_iff _ _ (by decide)]
      decide
  · have hrest : Text.Lacks .ofMarks ("." ++
        (outlet.kind variant.prominentButton?).query ++ "[" ++
          identifier subject outlet.name ++ "]") := by
      simp only [Text.lacks_append_iff, and_assoc]
      exact ⟨Text.lacks_literal rfl, (lacks_query_ofMarks _).1, Text.lacks_literal rfl, hid,
        Text.lacks_literal rfl⟩
    refine .of_not_mem ?_ (htypealias _ (hrest.not_mem rfl))
    rw [List.mem_append, not_or]
    exact ⟨hparen, hrest.not_mem rfl⟩

theorem bindsIff_lookup_app {outlet : Outlet} (ho : outlet ∈ subject.outlets) :
    Line.BindsIff (lookup variant subject .app outlet) False := by
  rw [lookup_eq_append]
  refine bindsIff_lookupEnd h ho (by decide) fun rest hrest => ?_
  refine Text.occursIn_eq_false_of_not_mem (c := '=') (by decide) ?_
  simp [Scope.root, hrest]

/-- A lookup in a cell starts with a call of the accessor of the cell. -/
theorem bindsIff_lookup_cell {outlet : Outlet} (ho : outlet ∈ subject.outlets) :
    Line.BindsIff (lookup variant subject (.cell subject.accessorStem) outlet)
      (bindingName <:+ subject.accessorStem) := by
  have htext : lookup variant subject (.cell subject.accessorStem) outlet =
      subject.accessorStem ++ '(' :: ("at: index)" ++ lookupEnd variant subject outlet) := by
    rw [lookup_eq_append]
    simp [Scope.root]
  have hend : Line.BindsIff ("at: index)" ++ lookupEnd variant subject outlet) False := by
    refine bindsIff_lookupEnd h ho (by decide) fun rest hrest => ?_
    refine Text.occursIn_eq_false_of_not_mem (c := '=') (by decide) ?_
    simp [hrest]
  rw [htext]
  exact .call_only h.accessorStem.lacks_ofMarks (by simp) Iff.rfl hend

end Identified

end Page

end OutletWiring

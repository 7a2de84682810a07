import OutletWiring.Proofs.Page.Functions

/-!
# What is written, read again

A run classifies the lines that earlier runs have written. The setter is found by one signature and
one type alias, and it has a binding for each case; the enum holds none of the marks that these are
found by. A page object holds no mark but that of a binding, and that one only if a function of the
page object has a name that ends in the name of the binding function (`written_line_kinds`).
-/

namespace OutletWiring

open Draft (row)
open Naming (IsFragment)

/-! ## Kinds of single lines -/

namespace Line

variable {line text : Text}

/-- Lines of the kind are read when a class is wired. -/
def Kind.marked : Kind → Bool
  | setterSignature | binding | typealias | outlet => true
  | _ => false

theorem marked_kind_eq_false_iff :
    (kind line).marked = false ↔ Text.occursIn Mark.setter line = false ∧
      Text.occursIn Mark.binding line = false ∧ Text.occursIn Mark.typealias line = false ∧
        Text.occursIn Mark.outlet line = false := by
  unfold kind
  split_ifs <;> simp_all [Kind.marked]

theorem kind_eq_typealias (hs : Text.occursIn Mark.setter line = false)
    (hb : Text.occursIn Mark.binding line = false)
    (ht : Text.occursIn Mark.typealias line = true) : kind line = .typealias := by
  simp [kind, hs, hb, ht]

/-- A row whose text has none of the signs of marks holds no mark. -/
theorem marked_row_of_lacks (h : Text.Lacks .ofMarks text) (level : Nat) :
    (kind (row level text)).marked = false := by
  have hbinds := BindsIff.of_lacks h
  have houtlet : Text.occursIn Mark.outlet text = false :=
    Text.occursIn_eq_false_of_not_mem (c := '@') (by decide) (h.not_mem rfl)
  have hbinding : Text.occursIn Mark.binding text = false :=
    Bool.eq_false_iff.2 (mt hbinds.binding.1 not_false)
  rw [marked_kind_eq_false_iff]
  refine ⟨?_, ?_, ?_, ?_⟩ <;> rw [Text.occursIn_row (by decide) (by decide) (by decide)]
  · exact hbinds.setter
  · exact hbinding
  · exact hbinds.typealias
  · exact houtlet

end Line

namespace Lines

open Line (kind)

variable {lines : Lines} {p : Prop}

/-- The kinds of the lines that hold a mark, in order. -/
def markedKinds (lines : Lines) : List Line.Kind :=
  (lines.map kind).filter Line.Kind.marked

theorem markedKinds_cons_of_marked {line : Text} {k : Line.Kind} (h : kind line = k)
    (hk : k.marked = true) : markedKinds (line :: lines) = k :: markedKinds lines := by
  subst h
  exact List.filter_cons_of_pos hk

theorem markedKinds_cons_of_unmarked {line : Text} (h : (kind line).marked = false) :
    markedKinds (line :: lines) = markedKinds lines :=
  List.filter_cons_of_neg (by simp [h])

theorem markedKinds_append (front back : Lines) :
    markedKinds (front ++ back) = markedKinds front ++ markedKinds back := by
  simp only [markedKinds, List.map_append, List.filter_append]

/-- Among such lines, what is no outlet and holds a mark is a binding. -/
theorem BindsIff.eq_binding_of_marked (h : BindsIff lines p)
    (ho : ∀ line ∈ lines, kind line ≠ .outlet) :
    ∀ line ∈ lines, (kind line).marked = true → kind line = .binding := by
  intro line hline hmarked
  obtain ⟨hsetter, htypealias⟩ := h.unnamed line hline
  by_contra hkind
  have hbinding : Text.occursIn Line.Mark.binding line = false := by
    rw [← Bool.not_eq_true]
    exact fun hb => hkind (Line.kind_eq_binding_iff.2 ⟨hsetter, hb⟩)
  have houtlet : Text.occursIn Line.Mark.outlet line = false := by
    rw [← Bool.not_eq_true]
    exact fun hm => ho line hline (Line.kind_eq_outlet_iff.2 ⟨hsetter, hbinding, htypealias, hm⟩)
  rw [Line.marked_kind_eq_false_iff.2 ⟨hsetter, hbinding, htypealias, houtlet⟩] at hmarked
  cases hmarked

end Lines

/-! ## The setter and the enum -/

namespace Identifiers

open Line (Mark.binding Mark.setter Mark.typealias kind)
open Lines (markedKinds markedKinds_append markedKinds_cons_of_marked markedKinds_cons_of_unmarked)

/-- A call of the binding function is a binding if its arguments call nothing. -/
theorem kind_row_binding {rest : Text} (hr : '(' ∉ rest) (level : Nat) :
    kind (row level (Mark.binding ++ rest)) = .binding := by
  have hsetter : Text.occursIn Mark.setter (Mark.binding ++ rest) = false := by
    rw [Bool.eq_false_iff, ne_eq, Text.occursIn_iff, Line.setter_eq_append, Line.binding_eq_append,
      List.append_assoc, List.cons_append, List.nil_append,
      Text.append_cons_infix_append_cons_iff (by decide) (by decide)]
    rintro (⟨hname, -⟩ | hrest)
    · exact absurd hname (by decide)
    · exact hr (hrest.subset (by simp))
  have hbinding : Text.occursIn Mark.binding (Mark.binding ++ rest) = true :=
    Text.occursIn_append_left (Text.occursIn_iff.2 (List.infix_refl _))
  rw [Line.kind_eq_binding_iff, Text.occursIn_row (by decide) (by decide) (by decide),
    Text.occursIn_row (by decide) (by decide) (by decide)]
  exact ⟨hsetter, hbinding⟩

theorem kind_bindingRow {target name : Text} (ht : Text.Lacks .ofMarks target)
    (hn : Text.Lacks .ofMarks name) : kind (bindingRow target name) = .binding := by
  unfold bindingRow
  rw [List.append_assoc, List.append_assoc, List.append_assoc]
  refine kind_row_binding ?_ 2
  simp [ht.not_mem, hn.not_mem, Punctuation.ofMarks]

/-- An outlet has a binding for each of its cases. -/
theorem markedKinds_bindingLines {outlet : Outlet} (h : Text.Lacks .ofMarks outlet.name) :
    markedKinds (bindingLines outlet) = List.replicate outlet.cases.length .binding := by
  have htarget : Text.Lacks .ofMarks outlet.target := by
    unfold Outlet.target
    split_ifs
    · decide
    · exact h
  have hkind : kind (bindingRow outlet.target outlet.name) = .binding := kind_bindingRow htarget h
  have hfield : kind (bindingRow (outlet.name ++ ".textfield") outlet.textFieldCase) = .binding :=
    kind_bindingRow (h.append (by decide)) (h.append (by decide))
  rw [bindingLines_eq, Outlet.cases, markedKinds_cons_of_marked hkind rfl]
  split_ifs
  · rw [markedKinds_cons_of_marked hfield rfl]
    rfl
  · rfl

theorem markedKinds_flatMap_bindingLines {outlets : List Outlet}
    (h : ∀ o ∈ outlets, Text.Lacks .ofMarks o.name) :
    markedKinds (outlets.flatMap bindingLines) =
      List.replicate (outlets.flatMap Outlet.cases).length .binding := by
  induction outlets with
  | nil => rfl
  | cons outlet outlets ih =>
    rw [List.forall_mem_cons] at h
    rw [List.flatMap_cons, List.flatMap_cons, markedKinds_append, markedKinds_bindingLines h.1,
      ih h.2, List.length_append, List.replicate_append_replicate]

variable {subject : Subject} (h : subject.Identified)
include h

/-- The overload for a row is no signature of the setter, since it has an argument. -/
theorem markedKinds_cellRows :
    markedKinds (cellRows subject) = if subject.identifiesCell then [.binding] else [] := by
  have hcell : kind (cellRow subject) = .binding := by
    unfold cellRow
    rw [List.append_assoc, List.append_assoc]
    refine kind_row_binding ?_ 2
    simp [h.lacks_ofMarks.cellIdentifier.not_mem, Punctuation.ofMarks]
  have hblank := Line.marked_row_of_lacks Text.lacks_nil 0
  have hoverload : (kind (row 1 "func setAccessibilityIdentifiers(at index: Int) \x7b")).marked =
      false := by
    decide +kernel
  have hclose : (kind (row 1 "\x7d")).marked = false :=
    Line.marked_row_of_lacks (Text.lacks_literal rfl) 1
  unfold cellRows
  split_ifs
  · rw [markedKinds_cons_of_unmarked hblank, markedKinds_cons_of_unmarked hoverload,
      markedKinds_cons_of_marked hcell rfl, markedKinds_cons_of_unmarked hclose]
    rfl
  · rfl

theorem markedKinds_setterHead :
    markedKinds (setterHead subject) = [.typealias, .setterSignature] := by
  have hblank := Line.marked_row_of_lacks Text.lacks_nil 0
  have hmark : (kind (row 0 "// MARK: - UITestable")).marked = false :=
    Line.marked_row_of_lacks (Text.lacks_literal rfl) 0
  have hextension : (kind (row 0 ("extension " ++ subject.className ++ ": UITestablePage \x7b"))).marked =
      false := by
    refine Line.marked_row_of_lacks ?_ 0
    exact ((Text.lacks_literal rfl).append h.lacks_ofMarks.className).append
      (Text.lacks_literal rfl)
  have hsetter : kind (row 1 (Mark.setter ++ " \x7b")) = .setterSignature := by
    rw [Line.kind_eq_setterSignature_iff, Text.occursIn_row (by decide) (by decide) (by decide)]
    exact Text.occursIn_append_left (Text.occursIn_iff.2 (List.infix_refl _))
  have htypealias : kind (row 1 (Mark.typealias ++ subject.enumName)) = .typealias := by
    have hparen : '(' ∉ Mark.typealias ++ subject.enumName := by
      rw [List.mem_append, not_or]
      exact ⟨by decide, h.lacks_ofMarks.enumName.not_mem rfl⟩
    refine Line.kind_eq_typealias ?_ ?_ ?_ <;>
      rw [Text.occursIn_row (by decide) (by decide) (by decide)]
    · exact Text.occursIn_eq_false_of_not_mem (c := '(') (by decide) hparen
    · exact Text.occursIn_eq_false_of_not_mem (c := '(') (by decide) hparen
    · exact Text.occursIn_append_left (Text.occursIn_iff.2 (List.infix_refl _))
  unfold setterHead
  rw [markedKinds_cons_of_unmarked hblank, markedKinds_cons_of_unmarked hmark,
    markedKinds_cons_of_unmarked hextension, markedKinds_cons_of_marked htypealias rfl,
    markedKinds_cons_of_unmarked hblank, markedKinds_cons_of_marked hsetter rfl]
  rfl

/-- In the setter there is one type alias, then one signature, then a binding for each case, and
nothing else that holds a mark. -/
theorem markedKinds_setterBlock :
    markedKinds (setterBlock subject) =
      .typealias :: .setterSignature :: List.replicate subject.cases.length .binding := by
  have hclose : ∀ level, (kind (row level "\x7d")).marked = false :=
    Line.marked_row_of_lacks (Text.lacks_literal rfl)
  have hlast : markedKinds [row 0 "\x7d"] = [] := markedKinds_cons_of_unmarked (hclose 0)
  have hcell : markedKinds (cellRows subject) = List.replicate
      (if subject.identifiesCell then [subject.cellIdentifier] else []).length .binding := by
    rw [markedKinds_cellRows h]
    split_ifs <;> rfl
  have houtlets := markedKinds_flatMap_bindingLines h.lacks_ofMarks.outlets
  rw [setterBlock_eq, markedKinds_append, markedKinds_append, markedKinds_setterHead h, houtlets,
    markedKinds_cons_of_unmarked (hclose 1), markedKinds_append, hcell, hlast, List.append_nil,
    List.append_assoc, List.replicate_append_replicate, ← List.length_append]
  rfl

theorem marked_caseLines : ∀ line ∈ caseLines subject, (kind line).marked = false := by
  intro line hline
  rw [caseLines_eq, List.mem_map] at hline
  obtain ⟨name, hname, rfl⟩ := hline
  refine Line.marked_row_of_lacks ?_ 2
  exact (Text.lacks_literal rfl).append (h.lacks_ofMarks.of_mem_cases hname)

theorem marked_enumBlock : ∀ line ∈ enumBlock subject, (kind line).marked = false := by
  intro line hline
  simp only [enumBlock_eq, enumHead, List.mem_append, List.mem_cons, List.not_mem_nil,
    or_false] at hline
  rcases hline with ((rfl | rfl | rfl | rfl) | hline) | rfl | rfl
  · exact Line.marked_row_of_lacks Text.lacks_nil 0
  · exact Line.marked_row_of_lacks (Text.lacks_literal rfl) 0
  · refine Line.marked_row_of_lacks ?_ 1
    exact ((Text.lacks_literal rfl).append h.lacks_ofMarks.enumName).append
      (Text.lacks_literal rfl)
  · refine Line.marked_row_of_lacks ?_ 2
    exact (Text.lacks_literal rfl).append h.lacks_ofMarks.className
  · exact marked_caseLines h line hline
  · exact Line.marked_row_of_lacks (Text.lacks_literal rfl) 1
  · exact Line.marked_row_of_lacks (Text.lacks_literal rfl) 0

end Identifiers

/-! ## All that is written -/

theorem Subject.Identified.worded {subject : Subject} (h : subject.Identified) : subject.Worded where
  className := .of_isIdentifier h.className
  enumName := .of_isIdentifier h.enumName
  outlets o ho := .of_isIdentifier (h.outlets o ho)

namespace Page

open Identifiers (caseLines enumBlock setterBlock)
open Line (QuietRow bindingName declaresProtocol kind)
open Lines (markedKinds)

variable {variant : Variant} {subject : Subject}

theorem quietRow_fresh_of_identified (h : subject.Identified) :
    ∀ line ∈ fresh variant subject, QuietRow (Naming.viewProtocol subject.className) line := by
  refine quietRow_fresh h.worded fun _ heq => ?_
  have hmem : '=' ∈ Naming.viewProtocol subject.className := by
    rw [heq]
    decide
  exact h.className.not_mem (by decide) (Naming.mem_of_mem_viewProtocol hmem)

/-- No line that is written for a subject declares the interface protocol of its class. -/
theorem quietRow_written (h : subject.Identified) :
    ∀ line ∈ setterBlock subject ++ enumBlock subject ++ caseLines subject ++
      fresh variant subject ++ extension variant subject,
        QuietRow (Naming.viewProtocol subject.className) line := by
  simp only [List.forall_mem_append]
  refine ⟨⟨⟨⟨?_, ?_⟩, ?_⟩, quietRow_fresh_of_identified h⟩, quietRow_extension h.worded⟩
  · exact fun line hline => (Identifiers.inertRow_setterBlock h.worded line hline).quiet
  · exact fun line hline => (Identifiers.inertRow_enumBlock h.worded line hline).quiet
  · exact fun line hline => (Identifiers.inertRow_caseLines h.worded line hline).quiet

/-- Read again, the setter has one type alias, one signature and as many bindings as there are cases,
in this order, and nothing else that holds a mark; the enum and its cases hold none. A line of a page
object that holds a mark is taken for a binding, and there is one exactly if a function of the page
object has a name that ends in that of the binding function. No line declares the interface protocol
of the class. -/
theorem written_line_kinds {subject : Subject} (h : subject.Identified) (variant : Variant) :
    markedKinds (setterBlock subject) =
        .typealias :: .setterSignature :: List.replicate subject.cases.length .binding ∧
      (∀ line ∈ enumBlock subject ++ caseLines subject, (kind line).marked = false) ∧
      (∀ line ∈ fresh variant subject ++ extension variant subject,
        (kind line).marked = true → kind line = .binding) ∧
      ((∃ line ∈ fresh variant subject, kind line = .binding) ↔
        ∃ name ∈ freshFunctions variant subject, bindingName <:+ name) ∧
      ((∃ line ∈ extension variant subject, kind line = .binding) ↔
        ∃ name ∈ laterFunctions variant subject, bindingName <:+ name) ∧
      ∀ line ∈ setterBlock subject ++ enumBlock subject ++ caseLines subject ++
        fresh variant subject ++ extension variant subject,
          declaresProtocol (Naming.viewProtocol subject.className) line = false := by
  have hfresh := @bindsIff_fresh variant subject h
  have hextension := @bindsIff_extension variant subject h
  refine ⟨Identifiers.markedKinds_setterBlock h, ?_, ?_, hfresh.exists_binding_iff,
    hextension.exists_binding_iff, ?_⟩
  · rw [List.forall_mem_append]
    exact ⟨Identifiers.marked_enumBlock h, Identifiers.marked_caseLines h⟩
  · rw [List.forall_mem_append]
    constructor
    · exact hfresh.eq_binding_of_marked fun line hline =>
        ((quietRow_fresh_of_identified h line hline).quietLine .newline).kind_ne_outlet
    · exact hextension.eq_binding_of_marked fun line hline =>
        ((@quietRow_extension variant subject h.worded [] line hline).quietLine .newline).kind_ne_outlet
  · intro line hline
    exact ((quietRow_written h line hline).quietLine .newline).declaresProtocol_eq_false

/-- A cell that is wired for the first time, with a search bar that has two cases. -/
theorem written_line_kinds_searchCell :
    (Subject.searchCell false).Identified ∧
      markedKinds (setterBlock (.searchCell false)) =
        [.typealias, .setterSignature, .binding, .binding, .binding, .binding] ∧
      (¬ ∃ line ∈ fresh .qa (.searchCell false), kind line = .binding) ∧
      ¬ ∃ line ∈ extension .qa (.searchCell false), kind line = .binding := by
  have hidentified : (Subject.searchCell false).Identified := ⟨by decide, by decide, by decide⟩
  obtain ⟨hsetter, -, -, hfresh, hextension, -⟩ := written_line_kinds hidentified .qa
  refine ⟨hidentified, hsetter, ?_, ?_⟩
  · rw [hfresh]
    decide
  · rw [hextension]
    decide

end Page

/-- A controller with a button, the name of whose tap action ends in that of the binding function. -/
def Subject.remaking : Subject where
  className := "LoginViewController"
  viewKind := .viewController
  outlets := [⟨"remakeViewTestable", "UIButton"⟩]
  enumName := "LoginAccessibilityIdentifier"

/-- The line that declares a tap action is taken for a binding. -/
theorem Page.tap_action_read_as_binding :
    Subject.remaking.Identified ∧
      "\tpublic func tapRemakeViewTestable() -> Self \x7b\n".toList ∈ Page.fresh .dev .remaking ∧
      Line.kind "\tpublic func tapRemakeViewTestable() -> Self \x7b\n" = .binding :=
  ⟨⟨by decide, by decide, by decide⟩, by decide, by decide⟩

end OutletWiring

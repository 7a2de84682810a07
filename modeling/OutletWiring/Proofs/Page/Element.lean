import OutletWiring.Page.Element
import OutletWiring.Proofs.Identifiers.Worded
import OutletWiring.Proofs.Line.Quiet

/-!
# Parts of a page object

A page object is added to the file that it is made from, so its lines must not be taken for source.
Where the names of the subject are words, so are the accessors and identifiers made from them, and
the parts that all page objects share are quiet.
-/

namespace OutletWiring

open Draft (Step)
open Line (Inert IsWord Quiet)

namespace Line

theorem IsWord.upperFirst {text : Text} (h : IsWord text) : IsWord (Text.upperFirst text) :=
  h.of_signs fun _ hc => Text.mem_of_mem_upperFirst hc

end Line

namespace Subject.Worded

variable {subject : Subject} (h : subject.Worded)
include h

theorem accessorStem : IsWord subject.accessorStem :=
  h.className.of_signs fun _ hc => Naming.mem_of_mem_accessorStem hc

theorem screenStem : IsWord subject.screenStem :=
  h.className.of_signs fun _ _ => Naming.mem_of_mem_screenStem

theorem accessor {outlet : Outlet} (ho : outlet ∈ subject.outlets) :
    IsWord (Page.accessor subject outlet) :=
  h.accessorStem.append (h.outlets outlet ho).upperFirst

theorem accessors : ∀ word ∈ Page.accessors subject, IsWord word := by
  unfold Page.accessors
  simp only [List.forall_mem_map]
  exact fun outlet ho => h.accessor ho

theorem identifier {name : Text} (hn : IsWord name) : IsWord (Page.identifier subject name) := by
  have helements : IsWord Line.Mark.elements := by decide
  exact ((((helements.append h.enumName).append (by decide)).append hn).append (by decide))

end Subject.Worded

namespace Page

variable {variant : Variant} {subject : Subject}

theorem isWord_query (kind : ElementKind) : IsWord kind.query := by
  cases kind <;> decide

theorem isWord_constructorName (kind : ElementKind) : IsWord kind.constructorName := by
  cases kind <;> decide

/-- Where a lookup starts is inert if the accessor of its cell is a word. -/
theorem inert_lookup (h : subject.Worded) {scope : Scope} (hs : Inert scope.root) {outlet : Outlet}
    (ho : outlet ∈ subject.outlets) : Inert (lookup variant subject scope outlet) := by
  have hid := (h.identifier (h.outlets outlet ho)).inert
  unfold lookup
  split
  · simp [hs, hid]
  · next kind _ => simp [hs, hid, (isWord_query (outlet.kind variant.prominentButton?)).inert]

/-- An attribute, but not that of an outlet. -/
theorem quiet_discardable (name : Text) : Step.Quiet name (.line 1 "@discardableResult") := by
  refine Step.quiet_line_of_quiet ⟨by decide, by decide, fun ending => ?_⟩
  refine Line.declaresProtocol_of_gapless ?_
  cases ending <;> decide

/-- A list of words, each with the same mark after it. -/
theorem quiet_wordList {words : List Text} (hw : ∀ word ∈ words, IsWord word) {mark : Text}
    (hm : Inert mark ∧ mark.head? ≠ some ' ') {opening continuation closing : Text}
    (ho : Inert opening ∧ opening.getLast? ≠ some 'l')
    (hc : Inert continuation ∧ continuation.getLast? ≠ some 'l')
    (hclosing : Inert closing ∧ closing.head? ≠ some ' ') {level : Nat} {name : Text} :
    Step.Quiet name (.list level opening (words.map (· ++ mark)) continuation closing) := by
  have hentry : ∀ before : Text, Inert before ∧ before.getLast? ≠ some 'l' →
      ∀ entry ∈ words.map (· ++ mark), Inert (before ++ entry) := by
    intro before hbefore
    simp only [List.forall_mem_map]
    intro word hword
    simp [hbefore.1, hbefore.2, (hw word hword).inert, hm.1, hm.2]
  exact Step.quiet_list (hentry _ ho) (hentry _ hc) hclosing.1 hclosing.2

/-- The protocol that is declared for a test has a longer name than that of the class. -/
theorem quiet_publicProtocol {className base : Text} (hc : IsWord className) (hb : IsWord base)
    (hl : base.getLast? ≠ some 'l') :
    Step.Quiet (Naming.viewProtocol className)
      (.line 0 ("public protocol " ++ className ++ "Elements where Self: " ++ base ++ " \x7b")) := by
  have htext : ("public protocol " ++ className ++ "Elements where Self: " ++ base ++ " \x7b" : Text) =
      "public" ++ ' ' :: ("protocol" ++ ' ' ::
        ((className ++ "Elements") ++ ' ' :: ("where Self: " ++ base ++ " \x7b"))) := by
    simp
  have hrest : Inert ((className ++ "Elements") ++ ' ' :: ("where Self: " ++ base ++ " \x7b")) := by
    simp [hc.inert, hb.inert, hl]
  have hname : Line.protocolName (className ++ "Elements") ≠ Naming.viewProtocol className := by
    have hword : className ++ ("Elements" : Text) = (className ++ "Element") ++ ['s'] := by simp
    rw [hword, Line.protocolName_append_singleton (by decide) (by decide) (by decide), ← hword]
    exact Naming.append_ne_viewProtocol className (by decide)
  refine Step.quiet_line_of_quiet ?_
  rw [htext]
  exact ((hrest.quiet).cons_pair (by decide) (hc.append (by decide)) (by simp)
    hname).cons_of_ne (by decide) (by decide)

theorem allQuiet_separated {blocks : List (List Step)} {name : Text}
    (h : ∀ block ∈ blocks, Draft.AllQuiet name block) : Draft.AllQuiet name (separated blocks) := by
  fun_induction separated blocks with
  | case1 => exact Draft.allQuiet_nil
  | case2 block => exact h block (by simp)
  | case3 block blocks _ ih =>
    rw [Draft.allQuiet_append, Draft.allQuiet_cons]
    exact ⟨h block (by simp), Step.quiet_blank, ih fun b hb => h b (by simp [hb])⟩

end Page

end OutletWiring

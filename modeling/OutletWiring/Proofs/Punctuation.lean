import OutletWiring.Page.Element
import OutletWiring.Proofs.Naming
import Mathlib.Tactic.SplitIfs

/-!
# Names without some punctuation

What is written for a subject can be read back if its names do not hold the punctuation by which it
is read. No rule that derives a name puts punctuation in, so it is enough to ask this of the names
that a subject comes with.
-/

namespace OutletWiring

/-- Characters to be kept out of names, none of them a letter. -/
structure Punctuation where
  holds : Char → Bool
  isSign : ∀ {c : Char}, holds c = true → Letter.isSign c = true

namespace Text

variable {marks : Punctuation} {text word : Text}

def Lacks (marks : Punctuation) (text : Text) : Prop :=
  ∀ c ∈ text, marks.holds c = false

instance : Decidable (Lacks marks text) :=
  inferInstanceAs (Decidable (∀ _ ∈ _, _))

theorem Lacks.not_mem (h : Lacks marks text) {c : Char} (hc : marks.holds c = true) : c ∉ text :=
  fun hm => by
    rw [h c hm] at hc
    cases hc

/-- Where the marks are one character, a text lacks them if it does not hold it. -/
theorem lacks_iff_not_mem {c : Char} (h : ∀ x, marks.holds x = (x == c)) :
    Lacks marks text ↔ c ∉ text := by
  constructor
  · intro hlacks
    exact hlacks.not_mem (by simp [h])
  · intro hc x hx
    rw [h, beq_eq_false_iff_ne]
    rintro rfl
    exact hc hx

/-- A text whose signs all stand in a text without the marks has none of them either. -/
theorem Lacks.of_signs (h : Lacks marks word)
    (hs : ∀ c, Letter.isSign c = true → c ∈ text → c ∈ word) : Lacks marks text := by
  intro c hc
  rw [Bool.eq_false_iff]
  exact fun hm => h.not_mem hm (hs c (marks.isSign hm) hc)

theorem Lacks.upperFirst (h : Lacks marks text) : Lacks marks (upperFirst text) :=
  h.of_signs fun _ hc => mem_of_mem_upperFirst hc

theorem Lacks.append (ht : Lacks marks text) (hw : Lacks marks word) :
    Lacks marks (text ++ word) :=
  List.forall_mem_append.2 ⟨ht, hw⟩

theorem lacks_of_letters (h : ∀ c ∈ text, Letter.isSign c = false) : Lacks marks text := by
  intro c hc
  rw [Bool.eq_false_iff]
  intro hm
  have hc := h c hc
  rw [marks.isSign hm] at hc
  cases hc

end Text

structure Subject.Lacks (marks : Punctuation) (subject : Subject) : Prop where
  className : Text.Lacks marks subject.className
  enumName : Text.Lacks marks subject.enumName
  outlets : ∀ o ∈ subject.outlets, Text.Lacks marks o.name

namespace Subject.Lacks

variable {marks : Punctuation} {subject : Subject} (h : subject.Lacks marks)
include h

theorem cellIdentifier : Text.Lacks marks subject.cellIdentifier :=
  h.className.of_signs fun _ hc => Naming.mem_of_mem_cellIdentifier hc

theorem accessorStem : Text.Lacks marks subject.accessorStem :=
  h.className.of_signs fun _ hc => Naming.mem_of_mem_accessorStem hc

theorem screenStem : Text.Lacks marks subject.screenStem :=
  h.className.of_signs fun _ _ => Naming.mem_of_mem_screenStem

theorem accessor {outlet : Outlet} (ho : outlet ∈ subject.outlets) :
    Text.Lacks marks (Page.accessor subject outlet) :=
  h.accessorStem.append (h.outlets outlet ho).upperFirst

theorem of_mem_cases {name : Text} (hn : name ∈ subject.cases) : Text.Lacks marks name := by
  simp only [Subject.cases, List.mem_append, List.mem_flatMap] at hn
  rcases hn with ⟨outlet, hmem, hn⟩ | hn
  · have ho := h.outlets outlet hmem
    unfold Outlet.cases at hn
    split_ifs at hn
    · simp only [List.mem_cons, List.not_mem_nil, or_false] at hn
      rcases hn with rfl | rfl
      · exact ho
      · exact ho.append (Text.lacks_of_letters (by decide))
    · rw [List.mem_singleton] at hn
      exact hn ▸ ho
  · split_ifs at hn
    · rw [List.mem_singleton] at hn
      exact hn ▸ h.cellIdentifier
    · cases hn

end Subject.Lacks

/-- A cell with a search bar, which has two identifiers, and a button. -/
def Subject.searchCell (alreadyGenerated : Bool) : Subject where
  className := "ResultTableViewCell"
  viewKind := .cell
  outlets := [⟨"searchBar", "UISearchBar"⟩, ⟨"clearButton", "UIButton"⟩]
  alreadyGenerated := alreadyGenerated
  enumName := "ResultAccessibilityIdentifier"

end OutletWiring

import OutletWiring.Proofs.Capability
import OutletWiring.Proofs.Line.Inert
import OutletWiring.Proofs.Text.Pieces

/-!
# Lines that nothing reacts to

A run reads a file through a few questions that it asks of single lines. A line is unseen if the
answer to each of them is no, so that every search passes it over. The outlet of a layout constraint
is such a line (`unseen_constraintOutlet`): it is taken for an outlet before anything else, and its
type keeps it from being one.
-/

namespace OutletWiring

namespace Line

open Text (occursIn words)
open Lines (Ending)

/-- The line is looked at for an outlet only, and declares none; no search for a protocol, an enum,
a typealias, a binding or an import finds it. -/
structure Unseen (line : Text) : Prop where
  kind : kind line = .outlet
  outlet : outlet? line = none
  protocol : ∀ name, declaresProtocol name line = false
  enum : ∀ name, declaresEnum name line = false
  typealias : typealiasTarget? line = none
  binding : ∀ outlet, occursIn (bindingProbe outlet) line = false
  imports : occursIn (Mark.importWord ++ [' ']) line = false

theorem Unseen.outlets {line : Text} (h : Unseen line) : Lines.outlets [line] = [] := by
  simp [Lines.outlets, h.kind, h.outlet]

def constraintOutlet (indent name : Text) (mark : Ending) : Text :=
  indent ++ "@IBOutlet weak var " ++ name ++ ": " ++ Outlet.layoutConstraint ++ "!" ++ mark.text

def IsIndent (text : Text) : Prop :=
  ∀ c ∈ text, c = ' ' ∨ c = '\t'

instance (text : Text) : Decidable (IsIndent text) :=
  inferInstanceAs (Decidable (∀ c ∈ text, _))

section Constraint

variable {indent name : Text} {mark : Ending} (hi : IsIndent indent)

/-- The declaration, cut at its last two spaces. -/
theorem constraintOutlet_eq (indent name : Text) (mark : Ending) :
    constraintOutlet indent name mark = (indent ++ "@IBOutlet weak var") ++ ' ' ::
      ((name ++ ":") ++ ' ' :: ((Outlet.layoutConstraint ++ "!") ++ mark.text)) := by
  simp [constraintOutlet]

/-- The last word of the declaration is its type, which is that of no outlet. -/
theorem outlet?_constraintOutlet (indent name : Text) (mark : Ending) :
    outlet? (constraintOutlet indent name mark) = none := by
  have htrim : Text.trimEnd (constraintOutlet indent name mark) =
      (indent ++ "@IBOutlet weak var") ++ ' ' ::
        ((name ++ ":") ++ ' ' :: (Outlet.layoutConstraint ++ "!")) := by
    have hassoc : constraintOutlet indent name mark = ((indent ++ "@IBOutlet weak var") ++ ' ' ::
        ((name ++ ":") ++ ' ' :: (Outlet.layoutConstraint ++ "!"))) ++ mark.text := by
      simp [constraintOutlet]
    rw [hassoc, Text.trimEnd_append_ending]
    simp [Text.trimEnd, Text.dropEndWhile, Text.isBlank]
  have hword : words (Outlet.layoutConstraint ++ "!") = [Outlet.layoutConstraint ++ "!"] :=
    Text.words_of_not_mem (by decide) (by decide)
  have hlast : (words (Text.trimEnd (constraintOutlet indent name mark))).getLast? =
      some (Outlet.layoutConstraint ++ "!") := by
    rw [htrim, Text.words_append_space, Text.words_append_space, hword, ← List.append_assoc,
      List.getLast?_concat]
  have htype : declaredType? (Outlet.layoutConstraint ++ "!") = some Outlet.layoutConstraint := by
    decide
  unfold outlet?
  simp only [hlast, Option.bind_some, htype]
  cases (words (Text.trimEnd (constraintOutlet indent name mark))).findSome? declaredName? <;> simp

include hi in
theorem IsIndent.not_mem {c : Char} (hc : c ∉ (" \t" : Text)) : c ∉ indent := by
  intro hm
  rcases hi c hm with rfl | rfl
  · exact hc (by decide)
  · exact hc (by decide)

variable (hn : Naming.IsIdentifier name)
include hi hn

/-- A sign stands in the declaration only if it stands in every one. -/
theorem not_mem_constraintOutlet {c : Char} (hw : Naming.isWordChar c = false)
    (hc : c ∉ constraintOutlet " \t" [] .returnNewline) :
    c ∉ constraintOutlet indent name mark := by
  have hname : c ∉ name := hn.not_mem hw
  simp only [constraintOutlet, List.mem_append, not_or] at hc ⊢
  have hmark : c ∉ mark.text := by
    cases mark with
    | newline => exact fun hm => hc.2 (List.mem_cons_of_mem _ hm)
    | returnNewline => exact hc.2
  have hindent : c ∉ indent := hi.not_mem hc.1.1.1.1.1.1
  tauto

/-- No keyword in the declaration is followed by a space but its own two. -/
theorem not_infix_constraintOutlet {key : Text} {c : Char} (hs : ' ' ∉ key) (hc : c ∈ key)
    (hf : c ∉ (" \t" : Text) ++ "@IBOutlet weak var") (hl : key.getLast? ≠ some ':')
    (hl' : key.getLast? ≠ some '\n') : ¬ key ++ [' '] <:+: constraintOutlet indent name mark := by
  intro hinfix
  have hkey : key ≠ [] := List.ne_nil_of_mem hc
  obtain ⟨word, hword, hsuffix⟩ := Text.exists_word_of_space hkey hs hinfix
  have hlast : word.getLast? = key.getLast? := by
    obtain ⟨front, rfl⟩ := hsuffix
    exact List.getLast?_append_of_ne_nil _ hkey
  have hname : ' ' ∉ name ++ ":" := by
    simpa using hn.not_mem (c := ' ') (by decide)
  have htype : ' ' ∉ (Outlet.layoutConstraint ++ "!") ++ mark.text := by
    cases mark <;> decide
  rw [constraintOutlet_eq, Text.words_append_space, Text.words_append_space,
    Text.words_of_not_mem hname (by simp), Text.words_of_not_mem htype (by simp)] at hword
  simp only [List.mem_append, List.mem_singleton] at hword
  rcases hword with hword | rfl | rfl
  · have hmem := (Text.infix_of_mem_words hword).subset (hsuffix.subset hc)
    rcases List.mem_append.1 hmem with hm | hm
    · exact hi.not_mem (fun h => hf (List.mem_append_left _ h)) hm
    · exact hf (List.mem_append_right _ hm)
  · exact hl (hlast ▸ List.getLast?_concat)
  · refine hl' (hlast ▸ ?_)
    cases mark <;> rfl

theorem kind_constraintOutlet : kind (constraintOutlet indent name mark) = .outlet := by
  have hparenthesis : '(' ∉ constraintOutlet indent name mark :=
    not_mem_constraintOutlet hi hn (by decide) (by decide)
  have hequals : '=' ∉ constraintOutlet indent name mark :=
    not_mem_constraintOutlet hi hn (by decide) (by decide)
  refine kind_eq_outlet_iff.2 ⟨?_, ?_, ?_, ?_⟩
  · exact Text.occursIn_eq_false_of_not_mem (c := '(') (by decide) hparenthesis
  · exact Text.occursIn_eq_false_of_not_mem (c := '(') (by decide) hparenthesis
  · exact Text.occursIn_eq_false_of_not_mem (c := '=') (by decide) hequals
  · rw [constraintOutlet_eq]
    exact Text.occursIn_append_left (Text.occursIn_append_right (by decide))

theorem unseen_constraintOutlet : Unseen (constraintOutlet indent name mark) where
  kind := kind_constraintOutlet hi hn
  outlet := outlet?_constraintOutlet indent name mark
  protocol other := by
    rw [Bool.eq_false_iff]
    intro hd
    obtain ⟨front, second, back, hw, -⟩ := exists_words_of_declaresAmong hd
    exact not_infix_constraintOutlet hi hn (c := 'p') (by decide) (by decide) (by decide)
      (by decide) (by decide) (append_space_infix_of_words hw)
  enum other := by
    rw [declaresEnum, Bool.eq_false_iff]
    intro hd
    have hneedle : ("enum" : Text) ++ [' '] <:+: ("enum " : Text) ++ other ++ ": String" :=
      ⟨[], other ++ ": String", by simp⟩
    exact not_infix_constraintOutlet hi hn (c := 'm') (by decide) (by decide) (by decide)
      (by decide) (by decide) (hneedle.trans (Text.occursIn_iff.1 hd))
  typealias := by
    have hmark : occursIn Mark.typealias (constraintOutlet indent name mark) = false :=
      (kind_eq_outlet_iff.1 (kind_constraintOutlet hi hn)).2.2.1
    simp [typealiasTarget?, hmark]
  binding outlet := by
    refine Text.occursIn_eq_false_of_not_mem (c := '(') ?_
      (not_mem_constraintOutlet hi hn (by decide) (by decide))
    have hmark : '(' ∈ Mark.binding := by decide
    unfold bindingProbe
    split_ifs <;> simp [hmark]
  imports := by
    rw [Bool.eq_false_iff]
    intro ho
    exact not_infix_constraintOutlet hi hn (c := 'm') (by decide) (by decide) (by decide)
      (by decide) (by decide) (Text.occursIn_iff.1 ho)

end Constraint

end Line

end OutletWiring

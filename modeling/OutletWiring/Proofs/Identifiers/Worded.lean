import OutletWiring.Proofs.Identifiers.Rows
import OutletWiring.Proofs.Line.Inert
import OutletWiring.Variant

/-!
# Identifiers made of words

Where the names of a subject are words, everything that is written into the setter and the enum is
inert: it is one line each, no outlet, and declares no protocol.
-/

namespace OutletWiring

structure Subject.Worded (subject : Subject) : Prop where
  className : Line.IsWord subject.className
  enumName : Line.IsWord subject.enumName
  outlets : ∀ o ∈ subject.outlets, Line.IsWord o.name

theorem Subject.Worded.cellIdentifier {subject : Subject} (h : subject.Worded) :
    Line.IsWord subject.cellIdentifier :=
  h.className.of_signs fun _ hc => Naming.mem_of_mem_cellIdentifier hc

theorem Variant.isWord_freshEnumName {className : Text} (h : Line.IsWord className) :
    Line.IsWord (freshEnumName className) :=
  (h.of_signs fun _ _ => Naming.mem_of_mem_screenStem).append (by decide)

namespace Identifiers

open Draft (row)
open Line (Mark.binding Inert InertRow IsWord inertRow_row)

theorem inert_binding : Inert Mark.binding ∧ Mark.binding.getLast? ≠ some 'l' := by
  decide

theorem inertRow_bindingRow {target name : Text} (ht : IsWord target) (hn : IsWord name) :
    InertRow (bindingRow target name) :=
  inertRow_row (by simp [inert_binding, ht.inert, hn.inert])

theorem inertRow_bindingLines {outlet : Outlet} (h : IsWord outlet.name) :
    ∀ line ∈ bindingLines outlet, InertRow line := by
  have htarget : IsWord outlet.target := by
    unfold Outlet.target
    split_ifs
    · decide
    · exact h
  intro line hline
  rw [bindingLines_eq, List.mem_cons] at hline
  rcases hline with rfl | hline
  · exact inertRow_bindingRow htarget h
  · split_ifs at hline
    · rw [List.mem_singleton] at hline
      exact hline ▸ inertRow_bindingRow (h.append (by decide)) (h.append (by decide))
    · cases hline

section Worded

variable {subject : Subject} (h : subject.Worded)
include h

theorem isWord_of_mem_cases {name : Text} (hn : name ∈ subject.cases) : IsWord name := by
  simp only [Subject.cases, List.mem_append, List.mem_flatMap] at hn
  rcases hn with ⟨outlet, hmem, hn⟩ | hn
  · have ho := h.outlets outlet hmem
    unfold Outlet.cases at hn
    split_ifs at hn
    · simp only [List.mem_cons, List.not_mem_nil, or_false] at hn
      rcases hn with rfl | rfl
      · exact ho
      · exact ho.append (by decide)
    · rw [List.mem_singleton] at hn
      exact hn ▸ ho
  · split_ifs at hn
    · rw [List.mem_singleton] at hn
      exact hn ▸ h.cellIdentifier
    · cases hn

theorem inertRow_caseLines : ∀ line ∈ caseLines subject, InertRow line := by
  intro line hline
  rw [caseLines_eq, List.mem_map] at hline
  obtain ⟨name, hname, rfl⟩ := hline
  have hword := isWord_of_mem_cases h hname
  exact inertRow_row (by simp [hword.inert, hword.head?_ne])

theorem inertRow_enumBlock : ∀ line ∈ enumBlock subject, InertRow line := by
  intro line hline
  simp only [enumBlock_eq, enumHead, List.mem_append, List.mem_cons, List.not_mem_nil,
    or_false] at hline
  rcases hline with ((rfl | rfl | rfl | rfl) | hline) | rfl | rfl
  · exact inertRow_row (by simp)
  · exact inertRow_row (by simp)
  · exact inertRow_row (by simp [h.enumName.inert])
  · exact inertRow_row (by simp [h.className.inert])
  · exact inertRow_caseLines h line hline
  · exact inertRow_row (by simp)
  · exact inertRow_row (by simp)

theorem inertRow_cellRows : ∀ line ∈ cellRows subject, InertRow line := by
  intro line hline
  unfold cellRows at hline
  split_ifs at hline
  · simp only [List.mem_cons, List.not_mem_nil, or_false] at hline
    rcases hline with rfl | rfl | rfl | rfl
    · exact inertRow_row (by simp)
    · exact inertRow_row (by simp)
    · exact inertRow_row (by simp [inert_binding, h.cellIdentifier.inert])
    · exact inertRow_row (by simp)
  · cases hline

theorem inertRow_setterBlock : ∀ line ∈ setterBlock subject, InertRow line := by
  have htypealias : Inert Line.Mark.typealias ∧ Line.Mark.typealias.getLast? ≠ some 'l' := by
    decide
  intro line hline
  simp only [setterBlock_eq, setterHead, List.mem_append, List.mem_cons, List.not_mem_nil, or_false,
    List.mem_flatMap] at hline
  rcases hline with ((rfl | rfl | rfl | rfl | rfl | rfl) | ⟨outlet, hmem, hline⟩) | rfl | hline | rfl
  · exact inertRow_row (by simp)
  · exact inertRow_row (by simp)
  · exact inertRow_row (by simp [h.className.inert])
  · exact inertRow_row (by simp [htypealias, h.enumName.inert])
  · exact inertRow_row (by simp)
  · exact inertRow_row (by decide)
  · exact inertRow_bindingLines (h.outlets outlet hmem) line hline
  · exact inertRow_row (by simp)
  · exact inertRow_cellRows h line hline
  · exact inertRow_row (by simp)

end Worded

end Identifiers

end OutletWiring

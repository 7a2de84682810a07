import OutletWiring.Page.Block
import OutletWiring.Proofs.Page.Cell
import OutletWiring.Proofs.Page.Screen
import OutletWiring.Proofs.Page.View

/-!
# Page objects are not taken for source

A page object declares classes and protocols of its own, in the file that the next run reads. No
line of its block is an outlet, and none declares the interface protocol of the subject, if the
names of the subject and the modules of the variant are words.
-/

namespace OutletWiring

open Draft (AllQuiet Step)
open Line (QuietRow)

/-- The name of a controller holds the letter `V`, which stays in that of its interface. -/
theorem Naming.viewProtocol_ne_equals {className : Text}
    (h : ViewKind.ofClassName className = .viewController) : viewProtocol className ≠ "=" := by
  have hv : 'V' ∈ className := by
    unfold ViewKind.ofClassName at h
    split_ifs at h with _ hmark
    have hlast : 'V' ∈ Text.lastChars 15 className := Text.mem_of_occursIn hmark (by decide)
    exact List.mem_of_mem_drop hlast
  have hmem : 'V' ∈ viewProtocol className := Text.mem_erase (by decide) (by decide) hv
  intro heq
  rw [heq] at hmem
  exact absurd hmem (by decide)

namespace Page

variable {variant : Variant} {subject : Subject}

theorem header_ne_nil (variant : Variant) (subject : Subject) : header variant subject ≠ [] := by
  rw [header, Draft.compose_eq_flatMap_rows]
  · rw [List.flatMap_cons]
    exact List.cons_ne_nil _ _
  · intro step hstep
    rcases List.mem_cons.1 hstep with rfl | hstep
    · rfl
    · split_ifs at hstep
      · cases hstep
      · simp only [List.mem_append, List.mem_cons, List.not_mem_nil, or_false,
          List.mem_map] at hstep
        rcases hstep with (rfl | ⟨module, -, rfl⟩) | rfl <;> rfl

theorem block_ne_nil (variant : Variant) (subject : Subject) : block variant subject ≠ [] :=
  List.append_ne_nil_of_left_ne_nil (header_ne_nil variant subject) _

theorem terminated_block (variant : Variant) (subject : Subject) :
    ∀ line ∈ block variant subject, Lines.terminated line = true := by
  have hextension : ∀ line ∈ extension variant subject, Lines.terminated line = true := by
    unfold extension Screen.extension
    split
    · exact Lines.terminated_compose _
    · split <;> exact Lines.terminated_compose _
    · exact Lines.terminated_compose _
  have hfresh : ∀ line ∈ fresh variant subject, Lines.terminated line = true := by
    unfold fresh Screen.fresh
    split
    · exact Lines.terminated_compose _
    · split <;> exact Lines.terminated_compose _
    · exact Lines.terminated_compose _
  intro line hline
  rcases List.mem_append.1 hline with hline | hline
  · exact Lines.terminated_compose _ line hline
  · split_ifs at hline
    · exact hextension line hline
    · exact hfresh line hline

section Worded

variable (h : subject.Worded)

theorem quietRow_header {name : Text} (hm : ∀ module ∈ variant.viewModules, Line.IsWord module) :
    ∀ line ∈ header variant subject, QuietRow name line := by
  have hmodules : ∀ module ∈ modules variant subject.viewKind, Line.IsWord module := by
    intro module hmodule
    cases hk : subject.viewKind <;> rw [hk] at hmodule
    · exact hm module hmodule
    · cases hmodule
    · cases hmodule
  refine AllQuiet.quietRow ?_
  rw [Draft.allQuiet_cons]
  refine ⟨Step.quiet_blank, ?_⟩
  split_ifs
  · exact Draft.allQuiet_nil
  · simp only [Draft.allQuiet_append, Draft.allQuiet_cons, Draft.allQuiet_nil, and_true,
      Draft.allQuiet_map, Step.quiet_blank]
    refine ⟨Step.quiet_line (by decide), fun module hmodule => Step.quiet_line ?_⟩
    simp [(hmodules module hmodule).inert]

include h

theorem quietRow_extension {name : Text} :
    ∀ line ∈ extension variant subject, QuietRow name line := by
  unfold extension Screen.extension
  split
  · exact View.quietRow_extension h
  · split
    · exact Screen.quietRow_inlineExtension h
    · exact Screen.quietRow_splitExtension h
  · exact Cell.quietRow_extension h

theorem quietRow_fresh (hname : subject.viewKind = .viewController →
      Naming.viewProtocol subject.className ≠ "=") :
    ∀ line ∈ fresh variant subject, QuietRow (Naming.viewProtocol subject.className) line := by
  unfold fresh Screen.fresh
  split
  · exact View.quietRow_fresh h
  · next hcontroller =>
    split
    · exact Screen.quietRow_inlinePage h (hname hcontroller)
    · exact Screen.quietRow_splitScreen h (hname hcontroller)
  · exact Cell.quietRow_fresh h

/-- No line of a page object is taken for an outlet or for the interface protocol. -/
theorem quietRow_block (hm : ∀ module ∈ variant.viewModules, Line.IsWord module)
    (hk : subject.viewKind = ViewKind.ofClassName subject.className) :
    ∀ line ∈ block variant subject, QuietRow (Naming.viewProtocol subject.className) line := by
  intro line hline
  rcases List.mem_append.1 hline with hline | hline
  · exact quietRow_header hm line hline
  · split_ifs at hline
    · exact quietRow_extension h line hline
    · have hname : subject.viewKind = .viewController →
          Naming.viewProtocol subject.className ≠ "=" :=
        fun hcontroller => Naming.viewProtocol_ne_equals (hk.symm.trans hcontroller)
      exact quietRow_fresh h hname line hline

end Worded

end Page

end OutletWiring

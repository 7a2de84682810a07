import OutletWiring.Proofs.Page.Intact
import OutletWiring.Proofs.Run.Bounds
import OutletWiring.Proofs.Run.Names

/-!
# Whether the setter stage keeps lines well cut

The stage reads its names off lines that hold a newline at their end only, and trims it off, so all
that it writes is complete lines unless the name of the class itself holds a newline. But lines that
go right behind an unterminated last line do not terminate it (`Exposed`).
-/

namespace OutletWiring

open Lines (Complete WellCut terminated)

/-! ## Names on a line -/

namespace Text

theorem newline_not_mem_trimEnd {text : Text} (h : '\n' ∉ text.dropLast) :
    '\n' ∉ trimEnd text := by
  intro hm
  rcases List.eq_nil_or_concat' text with rfl | ⟨init, c, rfl⟩
  · cases hm
  · rw [List.dropLast_concat] at h
    by_cases hc : c = '\n'
    · have htrim : trimEnd (init ++ [c]) = trimEnd init := by
        rw [hc]
        exact trimEnd_append_ending init .newline
      rw [htrim] at hm
      exact h ((dropEndWhile_prefix_self isBlank init).subset hm)
    · have hmem := (dropEndWhile_prefix_self isBlank (init ++ [c])).subset hm
      rw [List.mem_append, List.mem_singleton] at hmem
      exact hmem.elim h fun heq => hc heq.symm

theorem newline_not_mem_dropLast_of_suffix {text tail : Text} (h : '\n' ∉ text.dropLast)
    (hs : tail <:+ text) : '\n' ∉ tail.dropLast := by
  obtain ⟨front, rfl⟩ := hs
  by_cases ht : tail = []
  · simp [ht]
  · rw [List.dropLast_append_of_ne_nil ht, List.mem_append, not_or] at h
    exact h.2

end Text

namespace Line

variable {line : Text} (h : '\n' ∉ line.dropLast)
include h

theorem newline_not_mem_of_outlet? {outlet : Outlet} (ho : outlet? line = some outlet) :
    '\n' ∉ outlet.name := by
  unfold outlet? at ho
  cases hn : (Text.words (Text.trimEnd line)).findSome? declaredName? with
  | none => simp [hn] at ho
  | some name =>
    obtain ⟨front, word, back, hwords, hname, -⟩ := List.findSome?_eq_some_iff.1 hn
    have hword : word ∈ Text.words (Text.trimEnd line) := by simp [hwords]
    have hnewline : '\n' ∉ name := by
      unfold declaredName? at hname
      split_ifs at hname
      rw [Option.some.injEq] at hname
      rw [← hname]
      intro hm
      exact Text.newline_not_mem_trimEnd h
        ((Text.infix_of_mem_words hword).subset (List.dropLast_subset _ hm))
    cases ht : (Text.words (Text.trimEnd line)).getLast?.bind declaredType? with
    | none => simp [hn, ht] at ho
    | some type =>
      simp only [hn, ht, Option.ite_none_left_eq_some, Option.some.injEq] at ho
      rw [← ho.2]
      exact hnewline

theorem newline_not_mem_of_typealiasTarget? {target : Text}
    (ht : typealiasTarget? line = some target) : '\n' ∉ target := by
  unfold typealiasTarget? at ht
  split_ifs at ht
  simp only [Option.ite_none_left_eq_some, Option.some.injEq] at ht
  rw [← ht.2]
  refine Text.newline_not_mem_trimEnd (Text.newline_not_mem_dropLast_of_suffix h ?_)
  exact (List.dropWhile_suffix _).trans (Text.afterLast_suffix _ _)

end Line

namespace IdentifierSetter

variable {variant : Variant} {lines : Lines} {subject : Subject}

theorem newline_not_mem_of_mem_wiredOutlets (h : ∀ line ∈ lines, '\n' ∉ line.dropLast)
    (hc : '\n' ∉ subject.className) {outlet : Outlet}
    (ho : outlet ∈ wiredOutlets variant subject lines) : '\n' ∉ outlet.name := by
  rcases (mem_wiredOutlets.1 ho).1 with hdeclared | ⟨-, rfl⟩
  · obtain ⟨line, hline, houtlet⟩ := List.mem_filterMap.1 hdeclared
    exact Line.newline_not_mem_of_outlet? (h line (List.mem_of_mem_filter hline)) houtlet
  · exact fun hm => hc (Naming.mem_of_mem_rootViewIdentifier (by decide) hm)

theorem newline_not_mem_freshEnumName (hc : '\n' ∉ subject.className) :
    '\n' ∉ Variant.freshEnumName subject.className := by
  have hstem : '\n' ∉ Naming.screenStem subject.className := mt Naming.mem_of_mem_screenStem hc
  simp [Variant.freshEnumName, hstem]

theorem newline_not_mem_existingEnumName (h : ∀ line ∈ lines, '\n' ∉ line.dropLast)
    (hc : '\n' ∉ subject.className) :
    '\n' ∉ variant.existingEnumName subject.className lines.typealiasTarget? := by
  unfold Variant.existingEnumName
  split
  · cases ht : lines.typealiasTarget? with
    | none => simp [hc]
    | some target =>
      obtain ⟨line, hline, htarget⟩ := List.exists_of_findSome?_eq_some ht
      exact Line.newline_not_mem_of_typealiasTarget? (h line hline) htarget
  · exact newline_not_mem_freshEnumName hc

/-- The names that the stage passes on hold no newline, if that of the class does not. -/
theorem lacks_newline_run (h : ∀ line ∈ lines, '\n' ∉ line.dropLast)
    (hc : '\n' ∉ subject.className) (ho : subject.outlets = []) (he : subject.enumName = []) :
    (run variant lines subject).subject.Lacks .newline := by
  have hclass : '\n' ∉ (run variant lines subject).subject.className := by
    rwa [(run_className variant lines subject).1]
  have henum : '\n' ∉ (run variant lines subject).subject.enumName := by
    unfold run runM
    simp only
    split_ifs
    · simp [he]
    · simp [he]
    · split
      · exact newline_not_mem_freshEnumName hc
      · exact newline_not_mem_existingEnumName h hc
  refine ⟨Text.lacks_newline_iff.2 hclass, Text.lacks_newline_iff.2 henum, fun o hmem => ?_⟩
  exact Text.lacks_newline_iff.2
    (newline_not_mem_of_mem_wiredOutlets h hc (run_outlets_subset ho hmem))

end IdentifierSetter

/-! ## The lines behind the last one -/

namespace IdentifierSetter

open Identifiers

variable {variant : Variant} {lines : Lines} {subject : Subject} {index place : Nat}

/-- The last line is not terminated, and bindings or cases go right behind it: it is the signature
of the setter, or it is the enum, or the section comment under the enum, below the setter. -/
def Exposed (lines : Lines) (enumName : Text) : Prop :=
  (∃ last ∈ lines.getLast?, terminated last = false) ∧
    ∃ index ∈ lines.setter?, index + 1 = lines.length ∨
      ∃ place ∈ lines.enum? enumName, index < place ∧ casesIndex lines place = lines.length

instance (lines : Lines) (enumName : Text) : Decidable (Exposed lines enumName) :=
  inferInstanceAs (Decidable (_ ∧ ∃ _ ∈ _, _ ∨ ∃ _ ∈ _, _))

section Bound

variable {bindings : Lines} (hi : index < lines.length)
include hi

/-- Below the setter, the place for the cases moves with the enum. -/
theorem casesIndex_insertBlock_of_lt (hp : index < place) :
    casesIndex (lines.insertBlock (index + 1) bindings) (place + bindings.length) =
      casesIndex lines place + bindings.length := by
  have hnext : (lines.insertBlock (index + 1) bindings)[place + bindings.length + 1]? =
      lines[place + 1]? := by
    rw [show place + bindings.length + 1 = place + 1 + bindings.length by omega]
    exact Lines.getElem?_insertBlock_of_le hi (by omega)
  unfold casesIndex
  rw [hnext]
  split_ifs <;> omega

/-- Down to the signature of the setter, the cases go no further than the bindings. -/
theorem casesIndex_insertBlock_le (hne : bindings ≠ []) (hp : place ≤ index)
    (hb : ∀ line ∈ bindings, isSectionComment (Lines.withEnding lines.ending line) = false) :
    casesIndex (lines.insertBlock (index + 1) bindings) place ≤ index + 1 := by
  unfold casesIndex
  rcases Nat.lt_or_eq_of_le hp with hlt | rfl
  · split_ifs <;> omega
  · obtain ⟨first, rest, rfl⟩ := List.exists_cons_of_ne_nil hne
    rw [Lines.getElem?_insertBlock_self hi, Option.any_some, hb first (by simp)]
    simp

/-- With the bindings put in, the cases go behind the last line exactly if they would without them,
to an enum below the setter. -/
theorem length_le_casesIndex_iff (hne : bindings ≠ []) (hp : place < lines.length)
    (hb : ∀ line ∈ bindings, isSectionComment (Lines.withEnding lines.ending line) = false) :
    (lines.insertBlock (index + 1) bindings).length ≤
        casesIndex (lines.insertBlock (index + 1) bindings)
          (if place < index + 1 then place else place + bindings.length) ↔
      index < place ∧ casesIndex lines place = lines.length := by
  have hpos := List.length_pos_iff.2 hne
  rw [Lines.length_insertBlock]
  by_cases hle : place ≤ index
  · have hcases := casesIndex_insertBlock_le hi hne hle hb
    rw [if_pos (by omega)]
    omega
  · have hcases := casesIndex_le hp
    rw [if_neg (by omega), casesIndex_insertBlock_of_lt hi (by omega)]
    omega

end Bound

theorem caseLines_ne_nil (h : subject.outlets ≠ []) : caseLines subject ≠ [] := by
  obtain ⟨outlet, outlets, ho⟩ := List.exists_cons_of_ne_nil h
  rw [caseLines_eq, Ne, List.map_eq_nil_iff]
  have hcases : outlet.cases ≠ [] := by
    unfold Outlet.cases
    split_ifs <;> exact List.cons_ne_nil _ _
  simp [Subject.cases, ho, hcases]

/-- The last line is the same with a block put in, unless that comes behind it. -/
theorem getLast?_insertBlock (hi : index < lines.length) (block : Lines) :
    (lines.insertBlock index block).getLast? = lines.getLast? := by
  have hdrop : lines.drop index ≠ [] := by simpa using hi
  rw [Lines.insertBlock, List.getLast?_append_of_ne_nil _ hdrop, List.getLast?_drop,
    if_neg (by omega)]

theorem wellCut_of_addCases (h : WellCut (addCases subject lines)) : WellCut lines := by
  cases henum : lines.enum? subject.enumName with
  | none =>
    rw [addCases_of_none henum] at h
    exact h.of_appendBlock (enumBlock_ne_nil subject)
  | some place =>
    rw [addCases_of_some henum] at h
    exact h.of_insertBlock

/-- With the bindings and the cases put in, lines stay well cut exactly if none of them goes behind
an unterminated last line. -/
theorem wellCut_addCases_iff (h : WellCut lines) (hs : lines.setter? = some index)
    (ho : subject.outlets ≠ []) (hspace : ∀ o ∈ subject.outlets, ' ' ∉ o.name)
    (hn : subject.Lacks .newline) :
    WellCut (addCases subject
        (lines.insertBlock (index + 1) (subject.outlets.flatMap bindingLines))) ↔
      ¬ Exposed lines subject.enumName := by
  have hi : index < lines.length := Lines.lt_length_of_findKind? hs
  have hbindings := bindings_ne_nil ho
  have hcomplete : ∀ line ∈ subject.outlets.flatMap bindingLines, Complete line := by
    rw [List.forall_mem_flatMap]
    exact fun outlet hmem => complete_bindingLines (hn.outlets outlet hmem).intact
  have hcomment := isSectionComment_bindings subject.outlets lines.ending
  have henum := @enum?_insertBlock lines (subject.outlets.flatMap bindingLines) (index + 1) hi
    subject.enumName (declaresEnum_bindings hspace _ _)
  constructor
  · rintro hcut ⟨⟨last, hlast, hopen⟩, setter, hsetter, hbehind⟩
    obtain rfl : index = setter := Option.some.inj (hs.symm.trans hsetter)
    have hclosed : terminated last = true := by
      rcases hbehind with hend | ⟨place, he, hlt, hcases⟩
      · exact (wellCut_of_addCases hcut).terminated_of_insertBlock (by omega) hbindings last hlast
      · have hp : place < lines.length := (List.findIdx?_eq_some_iff_getElem.1 he).1
        rw [Option.mem_def.1 he, Option.map_some] at henum
        rw [addCases_of_some henum] at hcut
        refine hcut.terminated_of_insertBlock
          ((length_le_casesIndex_iff hi hbindings hp hcomment).2 ⟨hlt, hcases⟩)
          (caseLines_ne_nil ho) last ?_
        rwa [getLast?_insertBlock (by omega)]
    rw [hopen] at hclosed
    cases hclosed
  · intro hexposed
    have hbound : WellCut
        (lines.insertBlock (index + 1) (subject.outlets.flatMap bindingLines)) := by
      refine h.insertBlock hcomplete fun hend last hlast => ?_
      by_contra hopen
      exact hexposed ⟨⟨last, hlast, by simpa using hopen⟩, index, hs, .inl (by omega)⟩
    cases he : lines.enum? subject.enumName with
    | none =>
      rw [he, Option.map_none] at henum
      rw [addCases_of_none henum]
      exact hbound.appendBlock (complete_enumBlock hn)
    | some place =>
      rw [he, Option.map_some] at henum
      rw [addCases_of_some henum]
      have hp : place < lines.length := (List.findIdx?_eq_some_iff_getElem.1 he).1
      refine hbound.insertBlock (complete_caseLines hn) fun hend last hlast => ?_
      obtain ⟨hlt, hcases⟩ := (length_le_casesIndex_iff hi hbindings hp hcomment).1 hend
      rw [getLast?_insertBlock (by omega)] at hlast
      by_contra hopen
      exact hexposed ⟨⟨last, hlast, by simpa using hopen⟩, index, hs,
        .inr ⟨place, he, hlt, hcases⟩⟩

/-- The lines of a run that finds a setter and binds something. -/
theorem extendExisting_lines (hs : lines.setter? = some index)
    (ho : (extendExisting variant subject lines index).subject.outlets ≠ []) :
    (extendExisting variant subject lines index).lines =
      addCases (extendExisting variant subject lines index).subject
        (lines.insertBlock (index + 1)
          ((extendExisting variant subject lines index).subject.outlets.flatMap bindingLines)) := by
  have hbound := bindMissing_lines lines (Lines.lt_length_of_findKind? hs) subject.outlets
  rw [lines_extendExisting, if_neg (by simpa using ho), hbound]
  rfl

theorem wellCut_of_run (h : WellCut (run variant lines subject).lines) : WellCut lines := by
  by_cases ho : (run variant lines subject).subject.outlets = []
  · rwa [run_lines_of_outlets_nil ho] at h
  · rcases run_cases variant lines subject with ⟨hl, -⟩ | ⟨-, hrun⟩ | ⟨index, hs, hrun⟩
    · rwa [hl] at h
    · rw [hrun] at h
      exact (h.of_appendBlock (enumBlock_ne_nil _)).of_appendBlock (setterBlock_ne_nil _)
    · rw [hrun] at h ho
      rw [extendExisting_lines hs ho] at h
      exact (wellCut_of_addCases h).of_insertBlock

/-- A stage that passes outlets on has completed. -/
theorem completed_of_outlets (hs : subject.outlets = [])
    (ho : (run variant lines subject).subject.outlets ≠ []) :
    (run variant lines subject).verdict = .completed := by
  unfold run runM at ho ⊢
  simp only at ho ⊢
  split_ifs at ho ⊢ with hc hw
  · exact absurd hs ho
  · exact absurd (List.isEmpty_iff.1 hw) ho
  · split <;> rfl

/-- A run that binds something keeps lines well cut exactly if it puts nothing behind an
unterminated last line. -/
theorem wellCut_run_iff (h : WellCut lines) (hc : ' ' ∉ subject.className)
    (hs : subject.outlets = []) (ho : (run variant lines subject).subject.outlets ≠ [])
    (hn : (run variant lines subject).subject.Lacks .newline) :
    WellCut (run variant lines subject).lines ↔
      ¬ Exposed lines (run variant lines subject).subject.enumName := by
  have hspace : ∀ o ∈ (run variant lines subject).subject.outlets, ' ' ∉ o.name := fun o hmem =>
    not_mem_of_mem_wiredOutlets hc (run_outlets_subset hs hmem)
  rcases run_cases variant lines subject with ⟨hl, hv⟩ | ⟨hnone, hrun⟩ | ⟨index, hsetter, hrun⟩
  · exact absurd (completed_of_outlets hs ho) hv
  · rw [hrun] at hn ⊢
    constructor
    · rintro - ⟨-, index, hsetter, -⟩
      rw [hnone] at hsetter
      cases hsetter
    · intro _
      exact (h.appendBlock (complete_setterBlock hn)).appendBlock (complete_enumBlock hn)
  · rw [hrun] at hn ho hspace ⊢
    rw [extendExisting_lines hsetter ho]
    exact wellCut_addCases_iff h hsetter ho hspace hn

end IdentifierSetter

end OutletWiring

import OutletWiring.Proofs.Line.Inert
import OutletWiring.Proofs.Lines.Weave
import OutletWiring.Proofs.Setter.Count
import OutletWiring.Proofs.Setter.Wired

/-!
# Where the setter stage puts its lines

Each place is found in the lines as they are at the time: the place for the cases is looked for after
the bindings have gone in. The bindings are not taken for the enum, so both places can be told from
the lines before the run: the bindings go right after the signature of the setter, and the cases
right after the declaration of the enum, or after a section comment that follows it.
-/

namespace OutletWiring.IdentifierSetter

open Identifiers
open Lines (Additions Ending withEnding only both weave)
open Text (gapped)

variable {variant : Variant} {lines : Lines} {subject : Subject}

/-- What may be put between the lines of a file by the setter stage. -/
inductive Placed (lines : Lines) (enumName : Text) : (Nat → Lines) → Prop
  | nowhere : Placed lines enumName fun _ => []
  /-- Bindings after the signature of the setter. -/
  | setter {index : Nat} (hs : lines.setter? = some index) (bindings : Lines) :
      Placed lines enumName (only (index + 1) bindings)
  /-- Cases after the declaration of the enum or the section comment under it, and bindings. -/
  | enum {index place gap : Nat} (hs : lines.setter? = some index)
      (he : lines.enum? enumName = some place)
      (hg : gap = place + 1 ∨ gap = place + 2 ∧ lines[place + 1]?.any isSectionComment = true)
      (cases bindings : Lines) :
      Placed lines enumName (both gap cases (index + 1) bindings)

/-! ## The enum is found where it was -/

theorem not_mem_of_mem_wiredOutlets (hc : ' ' ∉ subject.className) {outlet : Outlet}
    (h : outlet ∈ wiredOutlets variant subject lines) : ' ' ∉ outlet.name := by
  rcases (mem_wiredOutlets.1 h).1 with hdeclared | ⟨-, rfl⟩
  · exact Lines.not_mem_of_mem_outlets hdeclared
  · exact fun hm => hc (Naming.mem_of_mem_rootViewIdentifier (by decide) hm)

theorem gapped_bindingRow {target name : Text} (ht : ' ' ∉ target) (hn : ' ' ∉ name)
    (ending : Ending) : gapped 'm' (withEnding ending (bindingRow target name)) = false := by
  have hmark : gapped 'm' Line.Mark.binding = false ∧
      Line.Mark.binding.getLast? ≠ some 'm' := by decide
  have htabs : gapped 'm' (List.replicate 2 '\t') = false := by decide
  have hending : gapped 'm' ending.text = false ∧ ending.text.head? ≠ some ' ' := by
    cases ending <;> decide
  have hrow : withEnding ending (bindingRow target name) = List.replicate 2 '\t' ++
      (Line.Mark.binding ++ target ++ ", using: ." ++ name ++ ")") ++ ending.text :=
    Lines.withEnding_append_newline _ ending
      (by rw [List.getLast?_append, List.getLast?_append]; simp)
  rw [hrow]
  simp [Text.gapped_append, Text.gapped_cons, Text.gapped_of_not_mem ht,
    Text.gapped_of_not_mem hn, hmark, hending, gapped]

theorem declaresEnum_bindingLines {outlet : Outlet} (h : ' ' ∉ outlet.name) (ending : Ending)
    (name : Text) : ∀ line ∈ bindingLines outlet,
      Line.declaresEnum name (withEnding ending line) = false := by
  have htarget : ' ' ∉ outlet.target := by
    unfold Outlet.target
    split_ifs
    · decide
    · exact h
  intro line hline
  refine Line.declaresEnum_of_gapless ?_
  rw [bindingLines_eq, List.mem_cons] at hline
  rcases hline with rfl | hline
  · exact gapped_bindingRow htarget h ending
  · split_ifs at hline
    · rw [List.mem_singleton] at hline
      subst hline
      exact gapped_bindingRow (by simp [h]) (by simp [h, Outlet.textFieldCase]) ending
    · cases hline

theorem declaresEnum_bindings {outlets : List Outlet} (h : ∀ outlet ∈ outlets, ' ' ∉ outlet.name)
    (ending : Ending) (name : Text) : ∀ line ∈ outlets.flatMap bindingLines,
      Line.declaresEnum name (withEnding ending line) = false := by
  rw [List.forall_mem_flatMap]
  exact fun outlet hmem => declaresEnum_bindingLines (h outlet hmem) ending name

theorem enum?_insertBlock {block : Lines} {index : Nat} (hi : index ≤ lines.length) {name : Text}
    (h : ∀ line ∈ block, Line.declaresEnum name (withEnding lines.ending line) = false) :
    (lines.insertBlock index block).enum? name =
      (lines.enum? name).map fun place =>
        if place < index then place else place + block.length := by
  have hblock : (block.map (withEnding lines.ending)).findIdx? (Line.declaresEnum name) = none := by
    rw [List.findIdx?_eq_none_iff]
    simpa using h
  have hsplit : lines.enum? name =
      (lines.take index ++ lines.drop index).findIdx? (Line.declaresEnum name) := by
    rw [List.take_append_drop]
    rfl
  rw [hsplit, Lines.enum?, Lines.insertBlock, List.append_assoc, List.findIdx?_append,
    List.findIdx?_append, hblock, List.findIdx?_append]
  cases hf : (lines.take index).findIdx? (Line.declaresEnum name) with
  | some place =>
    have : place < index := by
      have := (List.findIdx?_eq_some_iff_getElem.1 hf).1
      simp at this
      omega
    simp [this]
  | none =>
    have hlen : (lines.take index).length = index := by simp [hi]
    cases (lines.drop index).findIdx? (Line.declaresEnum name) with
    | none => rfl
    | some place =>
      have : ¬ place + index < index := by omega
      simp [hlen, this]
      omega

/-! ## The places -/

/-- Where the cases go, told from the lines without the bindings. -/
theorem casesIndex_insertBlock {block : Lines} {index place : Nat} (hi : index < lines.length)
    (hne : block ≠ []) (hb : ∀ line ∈ block, isSectionComment (withEnding lines.ending line) = false) :
    ∃ gap, (gap = place + 1 ∨ gap = place + 2 ∧ lines[place + 1]?.any isSectionComment = true) ∧
      casesIndex (lines.insertBlock (index + 1) block)
          (if place < index + 1 then place else place + block.length) =
        if gap ≤ index + 1 then gap else gap + block.length := by
  obtain ⟨first, rest, rfl⟩ := List.exists_cons_of_ne_nil hne
  have hle : index + 1 ≤ lines.length := hi
  rcases lt_trichotomy place index with hlt | rfl | hgt
  · rw [if_pos (by omega), casesIndex, Lines.getElem?_insertBlock_of_lt hle (by omega)]
    split_ifs with hcomment
    · exact ⟨place + 2, .inr ⟨rfl, hcomment⟩, by rw [if_pos (by omega)]⟩
    · exact ⟨place + 1, .inl rfl, by rw [if_pos (by omega)]⟩
  · -- the line after the enum is the first binding now
    rw [if_pos (by omega), casesIndex, Lines.getElem?_insertBlock_self hle, Option.any_some,
      hb first (by simp)]
    exact ⟨place + 1, .inl rfl, by simp⟩
  · have hnext : place + (first :: rest).length + 1 = (place + 1) + (first :: rest).length := by omega
    rw [if_neg (by omega), casesIndex, hnext, Lines.getElem?_insertBlock_of_le hle (by omega)]
    split_ifs with hcomment
    · exact ⟨place + 2, .inr ⟨rfl, hcomment⟩, by rw [if_neg (by omega)]; omega⟩
    · exact ⟨place + 1, .inl rfl, by rw [if_neg (by omega)]⟩

/-- The bindings and the cases, each in its own place. -/
theorem addCases_insertBlock {bindings : Lines} {index place : Nat} (hs : lines.setter? = some index)
    (hne : bindings ≠ []) (he : lines.enum? subject.enumName = some place)
    (hc : ∀ line ∈ bindings, isSectionComment (withEnding lines.ending line) = false)
    (hd : ∀ line ∈ bindings,
      Line.declaresEnum subject.enumName (withEnding lines.ending line) = false) :
    ∃ gap, (gap = place + 1 ∨ gap = place + 2 ∧ lines[place + 1]?.any isSectionComment = true) ∧
      addCases subject (lines.insertBlock (index + 1) bindings) =
        weave (both gap
          ((caseLines subject).map (withEnding (lines.insertBlock (index + 1) bindings).ending))
          (index + 1) (bindings.map (withEnding lines.ending))) lines := by
  have hi : index + 1 ≤ lines.length := Lines.lt_length_of_findKind? hs
  have hplace : place < lines.length := (List.findIdx?_eq_some_iff_getElem.1 he).1
  obtain ⟨gap, hgap, hindex⟩ := @casesIndex_insertBlock lines bindings index place hi hne hc
  refine ⟨gap, hgap, ?_⟩
  have hle : gap ≤ lines.length := by
    rcases hgap with rfl | ⟨rfl, hcomment⟩
    · omega
    · cases hnext : lines[place + 1]? with
      | none => simp [hnext] at hcomment
      | some next =>
        obtain ⟨hlt, -⟩ := List.getElem?_eq_some_iff.1 hnext
        omega
  have hbound := Lines.insertBlock_eq_weave hi bindings
  have henum := enum?_insertBlock hi hd
  rw [he, Option.map_some] at henum
  rw [addCases_of_some henum, hindex, Lines.insertBlock]
  generalize (lines.insertBlock (index + 1) bindings).ending = mark
  rw [hbound]
  split_ifs with h
  · exact Lines.weave_both_of_le h hi
  · have hcases := @Lines.weave_both_of_lt lines ((caseLines subject).map (withEnding mark))
      (bindings.map (withEnding lines.ending)) gap (index + 1) (Nat.lt_of_not_le h) hle
    rwa [List.length_map] at hcases

theorem isSectionComment_bindingLines (outlet : Outlet) (ending : Ending) :
    ∀ line ∈ bindingLines outlet, isSectionComment (withEnding ending line) = false := by
  have hrow : ∀ target name, isSectionComment (withEnding ending (bindingRow target name)) = false := by
    intro target name
    have heq : withEnding ending (bindingRow target name) = List.replicate 2 '\t' ++
        (Line.Mark.binding ++ target ++ ", using: ." ++ name ++ ")") ++ ending.text :=
      Lines.withEnding_append_newline _ ending
        (by rw [List.getLast?_append, List.getLast?_append]; simp)
    rw [heq, binding_eq]
    simp [isSectionComment, Text.trimStart, Text.isBlank, List.isPrefixOf]
  intro line hline
  rw [bindingLines_eq, List.mem_cons] at hline
  rcases hline with rfl | hline
  · exact hrow _ _
  · split_ifs at hline
    · rw [List.mem_singleton] at hline
      exact hline ▸ hrow _ _
    · cases hline

theorem isSectionComment_bindings (outlets : List Outlet) (ending : Ending) :
    ∀ line ∈ outlets.flatMap bindingLines, isSectionComment (withEnding ending line) = false := by
  rw [List.forall_mem_flatMap]
  exact fun outlet _ => isSectionComment_bindingLines outlet ending

/-- The line is written from a row of the block, in some terminator. -/
def Writes (block : Lines) (line : Text) : Prop :=
  ∃ raw ∈ block, ∃ ending, line = withEnding ending raw

theorem writes_of_mem_map {block : Lines} {ending : Ending} {line : Text}
    (h : line ∈ block.map (withEnding ending)) : Writes block line := by
  obtain ⟨raw, hraw, rfl⟩ := List.mem_map.1 h
  exact ⟨raw, hraw, ending, rfl⟩

theorem Writes.mono {block others : Lines} {line : Text} (h : Writes block line)
    (hs : block ⊆ others) : Writes others line := by
  obtain ⟨raw, hraw, ending, rfl⟩ := h
  exact ⟨raw, hs hraw, ending, rfl⟩

/-- Additions of the setter stage, by the subject that it leaves. -/
structure Adds (lines : Lines) (after : Subject) (additions : Additions) : Prop where
  placed : Placed lines after.enumName additions.gaps
  gaps : ∀ gap, ∀ line ∈ additions.gaps gap,
    Writes (after.outlets.flatMap bindingLines ++ caseLines after) line
  tail : ∀ line ∈ additions.tail, Writes (setterBlock after ++ enumBlock after) line

def nothing : Additions :=
  .between (fun _ => []) (by simp)

theorem apply_nothing (lines : Lines) : nothing.apply lines = lines := by
  rw [nothing, Additions.apply_between, Lines.weave_nil]

theorem adds_nothing (lines : Lines) (after : Subject) : Adds lines after nothing where
  placed := .nowhere
  gaps _ line hline := by cases hline
  tail line hline := by cases hline

theorem terminated_setterBlock (subject : Subject) :
    ∀ line ∈ setterBlock subject, Lines.terminated line = true :=
  Lines.terminated_compose _

theorem terminated_enumBlock (subject : Subject) :
    ∀ line ∈ enumBlock subject, Lines.terminated line = true :=
  Lines.terminated_compose _

theorem setterBlock_ne_nil (subject : Subject) : setterBlock subject ≠ [] := by
  simp [setterBlock_eq, setterHead]

theorem bindingLines_ne_nil (outlet : Outlet) : bindingLines outlet ≠ [] := by
  rw [bindingLines_eq]
  exact List.cons_ne_nil _ _

theorem bindings_ne_nil {outlets : List Outlet} (h : outlets ≠ []) :
    outlets.flatMap bindingLines ≠ [] := by
  obtain ⟨outlet, hmem⟩ := List.exists_mem_of_ne_nil _ h
  exact fun hnil => bindingLines_ne_nil outlet (List.flatMap_eq_nil_iff.1 hnil outlet hmem)

theorem enumBlock_ne_nil (subject : Subject) : enumBlock subject ≠ [] := by
  simp [enumBlock_eq, enumHead]

theorem writeFresh_adds (subject : Subject) (lines : Lines) :
    ∃ additions, Adds lines (writeFresh subject lines).subject additions ∧
      (writeFresh subject lines).lines = additions.apply lines := by
  let fresh := (writeFresh subject lines).subject
  let first := nothing.append lines (setterBlock fresh) (terminated_setterBlock fresh)
  refine ⟨first.append lines (enumBlock fresh) (terminated_enumBlock fresh), ⟨.nowhere, ?_, ?_⟩, ?_⟩
  · intro gap line hline
    cases hline
  · intro line hline
    rcases List.mem_append.1 hline with hline | hline
    · rcases List.mem_append.1 hline with hline | hline
      · cases hline
      · exact (writes_of_mem_map hline).mono (List.subset_append_left ..)
    · exact (writes_of_mem_map hline).mono (List.subset_append_right ..)
  · rw [← Additions.appendBlock_apply _ _ (enumBlock_ne_nil fresh),
      ← Additions.appendBlock_apply _ _ (setterBlock_ne_nil fresh), apply_nothing]
    rfl

theorem terminated_caseLines (subject : Subject) :
    ∀ line ∈ caseLines subject, Lines.terminated line = true :=
  Lines.terminated_compose _

theorem terminated_bindings (outlets : List Outlet) :
    ∀ line ∈ outlets.flatMap bindingLines, Lines.terminated line = true := by
  intro line hline
  obtain ⟨outlet, -, hline⟩ := List.mem_flatMap.1 hline
  exact (plain_bindingLines outlet line hline).terminated

theorem mem_only {place gap : Nat} {block : Lines} {line : Text} (h : line ∈ only place block gap) :
    line ∈ block := by
  unfold only at h
  split_ifs at h
  · exact h
  · cases h

theorem mem_both {place place' gap : Nat} {block block' : Lines} {line : Text}
    (h : line ∈ both place block place' block' gap) : line ∈ block ∨ line ∈ block' :=
  (List.mem_append.1 h).imp mem_only mem_only

/-- What is put in where the cases have to be found a place. -/
theorem addCases_adds {index : Nat} (hs : lines.setter? = some index)
    (hne : subject.outlets ≠ []) (hn : ∀ o ∈ subject.outlets, ' ' ∉ o.name) :
    ∃ additions, Adds lines subject additions ∧
      addCases subject (lines.insertBlock (index + 1) (subject.outlets.flatMap bindingLines)) =
        additions.apply lines := by
  have hi : index + 1 ≤ lines.length := Lines.lt_length_of_findKind? hs
  let bindings := subject.outlets.flatMap bindingLines
  have hbindings : bindings ≠ [] := bindings_ne_nil hne
  have hdeclares := declaresEnum_bindings hn lines.ending subject.enumName
  have hcomment := isSectionComment_bindings subject.outlets lines.ending
  have hterminated := Additions.terminated_map_withEnding (terminated_bindings subject.outlets)
    lines.ending
  cases he : lines.enum? subject.enumName with
  | none =>
    have hbound : (lines.insertBlock (index + 1) bindings).enum? subject.enumName = none := by
      rw [enum?_insertBlock hi hdeclares, he]
      rfl
    let first := Additions.between (only (index + 1) (bindings.map (withEnding lines.ending)))
      fun _ line hline => hterminated line (mem_only hline)
    refine ⟨first.append lines (enumBlock subject) (terminated_enumBlock subject), ⟨?_, ?_, ?_⟩, ?_⟩
    · exact .setter hs _
    · intro gap line hline
      exact (writes_of_mem_map (mem_only hline)).mono (List.subset_append_left ..)
    · intro line hline
      exact (writes_of_mem_map hline).mono (List.subset_append_right ..)
    · rw [← Additions.appendBlock_apply _ _ (enumBlock_ne_nil subject), Additions.apply_between,
        ← Lines.insertBlock_eq_weave hi, addCases_of_none hbound]
  | some place =>
    obtain ⟨gap, hgap, heq⟩ := addCases_insertBlock hs hbindings he hcomment hdeclares
    refine ⟨.between _ fun _ line hline => ?_, ⟨.enum hs he hgap _ _, ?_, ?_⟩,
      heq.trans (Additions.apply_between _ _ _).symm⟩
    · rcases mem_both hline with hline | hline
      · exact Additions.terminated_map_withEnding (terminated_caseLines subject) _ line hline
      · exact hterminated line hline
    · intro gap line hline
      rcases mem_both hline with hline | hline
      · exact (writes_of_mem_map hline).mono (List.subset_append_right ..)
      · exact (writes_of_mem_map hline).mono (List.subset_append_left ..)
    · intro line hline
      cases hline

theorem extendExisting_adds {index : Nat} (hs : lines.setter? = some index)
    (hn : ∀ o ∈ subject.outlets, ' ' ∉ o.name) :
    ∃ additions, Adds lines (extendExisting variant subject lines index).subject additions ∧
      (extendExisting variant subject lines index).lines = additions.apply lines := by
  let extended := (extendExisting variant subject lines index).subject
  have hbound : (bindMissing lines (index + 1) subject.outlets).lines =
      lines.insertBlock (index + 1) (extended.outlets.flatMap bindingLines) :=
    bindMissing_lines lines (Lines.lt_length_of_findKind? hs) subject.outlets
  have hlines : (extendExisting variant subject lines index).lines =
      if extended.outlets.isEmpty then (bindMissing lines (index + 1) subject.outlets).lines
      else addCases extended (bindMissing lines (index + 1) subject.outlets).lines := rfl
  rw [hlines, hbound]
  by_cases hne : extended.outlets = []
  · refine ⟨nothing, adds_nothing .., ?_⟩
    rw [apply_nothing, hne]
    exact Lines.insertBlock_nil lines _
  · rw [if_neg (by simp [hne])]
    exact addCases_adds hs hne fun o ho =>
      hn o ((bindMissing_outlets_subset lines (index + 1) subject.outlets).subset ho)

/-- The setter stage puts lines in at its two places and at the end, and touches nothing else. -/
theorem run_adds (hc : ' ' ∉ subject.className) :
    ∃ additions, Adds lines (run variant lines subject).subject additions ∧
      (run variant lines subject).lines = additions.apply lines := by
  rcases run_cases variant lines subject with ⟨hl, -⟩ | ⟨-, hrun⟩ | ⟨index, hs, hrun⟩
  · exact ⟨nothing, adds_nothing .., by rw [hl, apply_nothing]⟩
  · rw [hrun]
    exact writeFresh_adds _ lines
  · rw [hrun]
    exact extendExisting_adds hs fun o ho => not_mem_of_mem_wiredOutlets hc ho

end OutletWiring.IdentifierSetter

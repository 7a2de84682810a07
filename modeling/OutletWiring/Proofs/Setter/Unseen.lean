import OutletWiring.Proofs.Conformance.Unseen
import OutletWiring.Proofs.Setter.WellCut

/-!
# The setter stage passes an unseen line over

With one unseen line more, the same outlets are wired, and the same of them are found bound. What is
written goes to the same places, with one exception: a line right behind the declaration of the enum
parts it from the section comment under it, and then the cases go in above that comment. Otherwise
the stage leaves the same lines with the unseen line besides (`run_inserted`).
-/

namespace OutletWiring.IdentifierSetter

open Conformance (moved)
open Identifiers
open Lines (Drifts EndsIn Led Settled pushed)

variable {variant : Variant} {lines others : Lines} {line : Text} {index place : Nat}
  {subject : Subject} {mark : Lines.Ending}

/-! ## Bindings -/

theorem isBound_inserted (hu : Line.Unseen line) (outlet : Outlet) :
    isBound (lines.inserted index line) outlet = isBound lines outlet :=
  Lines.any_inserted (hu.binding outlet)

theorem isBound_insertBlock_eq (lines block : Lines) (cursor : Nat) (outlet : Outlet) :
    isBound (lines.insertBlock cursor block) outlet =
      (isBound lines outlet || isBound (block.map (Lines.withEnding lines.ending)) outlet) := by
  unfold isBound Lines.insertBlock
  nth_rewrite 4 [← List.take_append_drop cursor lines]
  simp only [List.any_append]
  cases (lines.take cursor).any (Text.occursIn (Line.bindingProbe outlet)) <;>
    simp [Bool.or_comm]

/-- Which outlets are bound does not depend on where, only on what is bound before and on the
terminator of the file. -/
theorem bindMissing_outlets_congr (hb : ∀ outlet, isBound others outlet = isBound lines outlet)
    (he : others.ending = lines.ending) (cursor cursor' : Nat) (outlets : List Outlet) :
    (bindMissing others cursor' outlets).outlets = (bindMissing lines cursor outlets).outlets := by
  induction outlets generalizing lines others cursor cursor' with
  | nil => rfl
  | cons outlet outlets ih =>
    have hplain : ∀ line ∈ (bindingLines outlet).head?, Lines.Plain line := fun line hline =>
      plain_bindingLines outlet line (List.mem_of_mem_head? hline)
    rw [bindMissing_cons, bindMissing_cons, hb outlet]
    split_ifs
    · exact ih hb he cursor cursor'
    · -- what was written is searched for the next outlets, in the terminator of the file
      refine congrArg (outlet :: ·) (ih (fun other => ?_) ?_ _ _)
      · rw [isBound_insertBlock_eq, isBound_insertBlock_eq, hb, he]
      · rw [Lines.ending_insertBlock others cursor' hplain,
          Lines.ending_insertBlock lines cursor hplain, he]

/-! ## Cases -/

section Cases

variable (hi : index ≤ lines.length) (hne : place + 1 ≠ index)
include hi hne

theorem getElem?_moved_succ :
    (lines.inserted index line)[moved index place + 1]? = lines[place + 1]? := by
  have hmoved : moved index place + 1 = moved index (place + 1) := by
    unfold moved
    split_ifs <;> omega
  rw [hmoved, Lines.getElem?_inserted hi]

/-- The cases go to the same place in the enum, unless the line comes right behind the
declaration. -/
theorem insertBlock_casesIndex_inserted (hp : place < lines.length)
    (he : (lines.inserted index line).ending = lines.ending) (block : Lines) :
    (lines.inserted index line).insertBlock
        (casesIndex (lines.inserted index line) (moved index place)) block =
      (lines.insertBlock (casesIndex lines place) block).inserted
        (pushed place block.length index) line := by
  unfold casesIndex
  rw [getElem?_moved_succ hi hne]
  split_ifs with hcomment
  · -- behind the section comment, which is the next line in both files
    have hlt : place + 1 < lines.length := by
      by_contra hge
      rw [List.getElem?_eq_none (by omega)] at hcomment
      cases hcomment
    have hmoved : moved index place + 2 = moved index (place + 1) + 1 := by
      unfold moved
      split_ifs <;> omega
    have hpushed : pushed place block.length index = pushed (place + 1) block.length index := by
      unfold pushed
      split_ifs <;> omega
    rw [hmoved, hpushed]
    exact Lines.insertBlock_moved_succ hi hlt he
  · exact Lines.insertBlock_moved_succ hi hp he

end Cases

/-- With the cases added, the line stays or makes room for them. -/
theorem addCases_inserted (hu : Line.Unseen line) (hl : EndsIn mark line)
    (hi : index < lines.length) (h : Led mark lines)
    (hne : ∀ place ∈ lines.enum? subject.enumName, place + 1 ≠ index) :
    ∃ landing, Drifts index landing lines (addCases subject lines) ∧
      addCases subject (lines.inserted index line) =
        (addCases subject lines).inserted landing line := by
  have henum := Lines.findIdx?_inserted (Nat.le_of_lt hi) (hu.enum subject.enumName)
  cases hp : lines.enum? subject.enumName with
  | none =>
    rw [addCases_of_none hp, addCases_of_none (henum.trans (congrArg _ hp))]
    exact ⟨index, .appendBlock _, Lines.appendBlock_inserted hi h hl _⟩
  | some place =>
    rw [addCases_of_some hp, addCases_of_some (henum.trans (congrArg _ hp))]
    have hlt : place < lines.length := (List.findIdx?_eq_some_iff_getElem.1 hp).1
    exact ⟨_, .pushed place _ _,
      insertBlock_casesIndex_inserted (Nat.le_of_lt hi) (hne place hp) hlt
        (h.ending_inserted hl index) _⟩

/-! ## The stage -/

/-- The cases come below the declaration of the enum, so they do not lead. -/
theorem led_addCases (h : Led mark lines)
    (ht : ∀ line ∈ lines, Line.declaresEnum subject.enumName line = true →
      Lines.terminated line = true) : Led mark (addCases subject lines) := by
  cases hp : lines.enum? subject.enumName with
  | none =>
    rw [addCases_of_none hp]
    exact h.appendBlock _
  | some place =>
    rw [addCases_of_some hp]
    obtain ⟨hlt, hd, -⟩ := List.findIdx?_eq_some_iff_getElem.1 hp
    have hterminated := ht lines[place] (List.getElem_mem hlt) hd
    refine h.insertBlock_below (List.getElem?_eq_getElem hlt) hterminated ?_
    unfold casesIndex
    split_ifs <;> omega

theorem terminated_enum_insertBlock {outlets : List Outlet} {cursor : Nat} (h : Settled mark lines)
    {name : Text} (hline : line ∈ lines.insertBlock cursor (outlets.flatMap bindingLines))
    (hd : Line.declaresEnum name line = true) : Lines.terminated line = true := by
  rcases Lines.mem_insertBlock.1 hline with hline | ⟨raw, hraw, rfl⟩
  · exact h.enum name line hline hd
  · obtain ⟨outlet, -, hmem⟩ := List.mem_flatMap.1 hraw
    rw [Lines.terminated_withEnding]
    exact (plain_bindingLines outlet raw hmem).terminated

/-- With the bindings put in, the line stands right behind the enum only if it did before. -/
theorem enum?_ne_pushed {bindings : Lines} (hs : place < lines.length)
    {name : Text} (hb : ∀ line ∈ bindings,
      Line.declaresEnum name (Lines.withEnding lines.ending line) = false)
    (hne : ∀ enumPlace ∈ lines.enum? name, enumPlace + 1 ≠ index) :
    ∀ enumPlace ∈ (lines.insertBlock (place + 1) bindings).enum? name,
      enumPlace + 1 ≠ pushed place bindings.length index := by
  intro enumPlace hmem
  rw [enum?_insertBlock hs hb, Option.mem_def, Option.map_eq_some_iff] at hmem
  obtain ⟨old, hold, rfl⟩ := hmem
  have hbefore := hne old hold
  unfold pushed
  split_ifs <;> omega

/-- A new setter and enum are added to both files. -/
theorem writeFresh_inserted (subject : Subject) (hl : EndsIn mark line) (hi : index < lines.length)
    (h : Led mark lines) :
    Stage.Alike line index index lines (writeFresh subject lines)
      (writeFresh subject (lines.inserted index line)) ∧
      Led mark (writeFresh subject lines).lines := by
  have hsetter : ∀ block, Led mark (lines.appendBlock block) := h.appendBlock
  have hdrift : ∀ block, Drifts index index lines (lines.appendBlock block) := .appendBlock
  refine ⟨⟨rfl, rfl, fun _ => (hdrift _).trans (.appendBlock _), fun _ => ?_⟩,
    (hsetter _).appendBlock _⟩
  rw [lines_writeFresh, lines_writeFresh, Lines.appendBlock_inserted hi h hl,
    Lines.appendBlock_inserted ((hdrift _).lt_length hi) (hsetter _) hl]
  rfl

section Extend

variable (hu : Line.Unseen line) (hl : EndsIn mark line) (h : Led mark lines)
include hu hl h

theorem extendExisting_subject_inserted (cursor cursor' : Nat) :
    (extendExisting variant subject (lines.inserted index line) cursor').subject =
      (extendExisting variant subject lines cursor).subject := by
  have hbound : (bindMissing (lines.inserted index line) (cursor' + 1) subject.outlets).outlets =
      (bindMissing lines (cursor + 1) subject.outlets).outlets :=
    bindMissing_outlets_congr (isBound_inserted hu) (h.ending_inserted hl index) _ _ _
  simp only [extendExisting, extendExistingM, Id.run_bind, Id.run_pure, run_bindMissingM, hbound,
    Lines.typealiasTarget?_inserted hu.typealias]

/-- A setter that is there is extended by the same bindings and cases. -/
theorem extendExisting_inserted (hi : index < lines.length) (hs : lines.setter? = some place)
    (hsettled : Settled mark lines) (hspace : ∀ o ∈ subject.outlets, ' ' ∉ o.name)
    (ho : (extendExisting variant subject lines place).subject.outlets ≠ [])
    (hne : ∀ enumPlace ∈ lines.enum? (extendExisting variant subject lines place).subject.enumName,
      enumPlace + 1 ≠ index) :
    Led mark (extendExisting variant subject lines place).lines ∧
      ∃ landing, Drifts index landing lines (extendExisting variant subject lines place).lines ∧
        (extendExisting variant subject (lines.inserted index line) (moved index place)).lines =
          (extendExisting variant subject lines place).lines.inserted landing line := by
  have hplace : place < lines.length := Lines.lt_length_of_findKind? hs
  have hsetter : (lines.inserted index line).setter? = some (moved index place) := by
    rw [Lines.setter?_inserted hu (Nat.le_of_lt hi), hs, Option.map_some]
  have hsubject : (extendExisting variant subject (lines.inserted index line)
      (moved index place)).subject = (extendExisting variant subject lines place).subject :=
    extendExisting_subject_inserted hu hl h place _
  have hsub : (extendExisting variant subject lines place).subject.outlets.Sublist
      subject.outlets := bindMissing_outlets_subset lines (place + 1) subject.outlets
  rw [extendExisting_lines hsetter (hsubject ▸ ho), extendExisting_lines hs ho, hsubject,
    Lines.insertBlock_moved_succ (Nat.le_of_lt hi) hplace (h.ending_inserted hl index)]
  generalize (extendExisting variant subject lines place).subject = extended at *
  have hbound : Led mark (lines.insertBlock (place + 1) (extended.outlets.flatMap bindingLines)) :=
    h.insertBlock_plain (plain_head_bindings extended.outlets)
  have hdrift : Drifts index
      (pushed place (extended.outlets.flatMap bindingLines).length index) lines
      (lines.insertBlock (place + 1) (extended.outlets.flatMap bindingLines)) := .pushed ..
  have henum := declaresEnum_bindings (fun outlet hmem => hspace outlet (hsub.subset hmem))
    lines.ending extended.enumName
  obtain ⟨landing, hdrift', hlines⟩ := addCases_inserted hu hl (hdrift.lt_length hi) hbound
    (enum?_ne_pushed hplace henum hne)
  exact ⟨led_addCases hbound fun _ => terminated_enum_insertBlock hsettled,
    landing, hdrift.trans hdrift', hlines⟩

end Extend

/-- Where the enum is declared that the stage adds cases to. -/
def enumFound? (variant : Variant) (lines : Lines) (subject : Subject) : Option Nat :=
  let extended := (run variant lines subject).subject
  if extended.alreadyGenerated && !extended.outlets.isEmpty then lines.enum? extended.enumName
  else none

section Run

variable (hu : Line.Unseen line) (hl : EndsIn mark line) (hi : index < lines.length)
  (h : Settled mark lines) (hspace : ' ' ∉ subject.className)
  (hne : ∀ place ∈ enumFound? variant lines subject, place + 1 ≠ index)
include hu

theorem wiredOutlets_inserted (variant : Variant) (subject : Subject) (lines : Lines)
    (index : Nat) :
    wiredOutlets variant subject (lines.inserted index line) = wiredOutlets variant subject lines :=
  wiredOutlets_congr rfl rfl (Lines.outlets_inserted hu.outlets)

include hl hi h hspace hne

/-- With a setter in the file, the stage comes to the same end with the line. -/
theorem run_inserted_of_setter (hc : subject.hasClass = true)
    (hw : wiredOutlets variant subject lines ≠ []) (hs : lines.setter? = some place) :
    (∃ landing, Stage.Alike line index landing lines (run variant lines subject)
      (run variant (lines.inserted index line) subject)) ∧
      Led mark (run variant lines subject).lines := by
  have hled : Led mark lines := h.led (outlets_ne_nil_of_wiredOutlets hw)
  have hwired := wiredOutlets_inserted hu variant subject lines index
  have hsetter : (lines.inserted index line).setter? = some (moved index place) := by
    rw [Lines.setter?_inserted hu (Nat.le_of_lt hi), hs, Option.map_some]
  have hrun := run_of_setter_some hc hw hs
  have hrun' := run_of_setter_some hc (hwired ▸ hw) hsetter
  rw [hwired] at hrun'
  have hsubject : (run variant (lines.inserted index line) subject).subject =
      (run variant lines subject).subject := by
    rw [hrun, hrun']
    exact extendExisting_subject_inserted hu hl hled place _
  have hverdict : (run variant (lines.inserted index line) subject).verdict =
      (run variant lines subject).verdict := by
    rw [hrun, hrun']
    rfl
  by_cases ho : (run variant lines subject).subject.outlets = []
  · have hlines := run_lines_of_outlets_nil ho
    have hlines' := run_lines_of_outlets_nil (hsubject ▸ ho)
    refine ⟨⟨index, hsubject, hverdict, fun _ => ?_, fun _ => ?_⟩, ?_⟩
    · rw [hlines]
      exact .refl index lines
    · rw [hlines, hlines']
    · rwa [hlines]
  · have hgenerated : (run variant lines subject).subject.alreadyGenerated = true := by
      rw [hrun]
      rfl
    have hfound : enumFound? variant lines subject =
        lines.enum? (run variant lines subject).subject.enumName := by
      simp [enumFound?, hgenerated, ho]
    -- something is bound, so the enum is searched for
    rw [hfound, hrun] at hne
    rw [hrun] at ho
    obtain ⟨hextended, landing, hdrift, hlines⟩ := extendExisting_inserted hu hl hled hi hs h
      (fun outlet hmem => not_mem_of_mem_wiredOutlets hspace hmem) ho hne
    rw [← hrun] at hextended hdrift
    rw [← hrun, ← hrun'] at hlines
    exact ⟨⟨landing, hsubject, hverdict, fun _ => hdrift, fun _ => hlines⟩, hextended⟩

/-- The stage comes to the same end with the line. If it completes, its lines lead with the
terminator of the file. -/
theorem run_inserted :
    (∃ landing, Stage.Alike line index landing lines (run variant lines subject)
      (run variant (lines.inserted index line) subject)) ∧
      ((run variant lines subject).verdict = .completed →
        Led mark (run variant lines subject).lines) := by
  by_cases hc : subject.hasClass = true
  · have hwired := wiredOutlets_inserted hu variant subject lines index
    by_cases hw : wiredOutlets variant subject lines = []
    · rw [run_of_wiredOutlets_nil hc hw, run_of_wiredOutlets_nil hc (hwired.trans hw)]
      refine ⟨⟨index, rfl, rfl, fun _ => .refl index lines, fun _ => rfl⟩, ?_⟩
      intro hcompleted
      cases hcompleted
    · cases hs : lines.setter? with
      | none =>
        have hsetter : (lines.inserted index line).setter? = none := by
          rw [Lines.setter?_inserted hu (Nat.le_of_lt hi), hs, Option.map_none]
        rw [run_of_setter_none hc hw hs, run_of_setter_none hc (hwired ▸ hw) hsetter, hwired]
        obtain ⟨halike, hfresh⟩ := writeFresh_inserted
          { subject with outlets := wiredOutlets variant subject lines } hl hi
          (h.led (outlets_ne_nil_of_wiredOutlets hw))
        exact ⟨⟨index, halike⟩, fun _ => hfresh⟩
      | some place =>
        obtain ⟨halike, hextended⟩ := run_inserted_of_setter hu hl hi h hspace hne hc hw hs
        exact ⟨halike, fun _ => hextended⟩
  · simp only [run, runM, hc]
    refine ⟨⟨index, rfl, rfl, fun _ => .refl index lines, fun _ => rfl⟩, ?_⟩
    intro hcompleted
    cases hcompleted

end Run

end OutletWiring.IdentifierSetter

import OutletWiring.Proofs.Line.Inert

/-!
# Lines that do not declare one protocol

Some of what is written is not inert: an attribute of a method, or a protocol that is declared for a
test. Such a text is read word by word. It is quiet for a protocol if it is no outlet and does not
declare that protocol, in any terminator.
-/

namespace OutletWiring

namespace Line

open Lines (Ending withEnding)
open Text (gapped words)

variable {name text word rest : Text}

theorem declaresAmong_cons {first : Text} {others : List Text}
    (h : declaresAmong name (first :: others) = true) :
    (first = Mark.protocolWord ∧ ∃ second ∈ others.head?, protocolName second = name) ∨
      declaresAmong name others = true := by
  cases others with
  | nil => cases h
  | cons second others =>
    rw [declaresAmong, Bool.or_eq_true, Bool.and_eq_true, beq_iff_eq, beq_iff_eq] at h
    exact h.imp_left fun ⟨hfirst, hsecond⟩ => ⟨hfirst, second, rfl, hsecond⟩

/-- A protocol declared by a text is declared by its first two words or after the first word. -/
theorem declaresProtocol_append_space (hw : ' ' ∉ word)
    (h : declaresProtocol name (word ++ ' ' :: rest) = true) :
    (word = Mark.protocolWord ∧ ∃ second ∈ (words rest).head?, protocolName second = name) ∨
      declaresProtocol name rest = true := by
  unfold declaresProtocol at h ⊢
  rw [Text.words_append_space] at h
  by_cases hne : word = []
  · subst hne
    exact .inr h
  · rw [Text.words_of_not_mem hw hne] at h
    exact declaresAmong_cons h

/-- The name of a protocol is taken to end where the word does. -/
theorem protocolName_append_singleton {c : Char} (hb : Text.isBlank c = false) (hc : c ≠ ':')
    (hbrace : c ≠ '\x7b') : protocolName (word ++ [c]) = word ++ [c] := by
  simp [protocolName, Text.trimEnd, Text.dropEndWhile, hb, hc, hbrace]

/-- The text is one line that is no outlet and does not declare the protocol. -/
structure Quiet (name text : Text) : Prop where
  unbroken : Lines.Unbroken text
  outlet : Text.occursIn Mark.outlet text = false
  protocol : ∀ ending : Ending, declaresProtocol name (text ++ ending.text) = false

theorem Inert.quiet (h : Inert text) : Quiet name text where
  unbroken := h.unbroken
  outlet := Text.occursIn_eq_false_of_not_mem (c := '@') (by decide) h.at_not_mem
  protocol ending := by
    have hend : ending.text.head? ≠ some ' ' ∧ gapped 'l' ending.text = false := by
      cases ending <;> decide
    refine declaresProtocol_of_gapless ?_
    rw [Text.gapped_append, h.gapless, hend.2]
    simp [hend.1]

theorem outlet_not_occursIn_append_space
    (hw : Text.occursIn Mark.outlet word = false) (hr : Text.occursIn Mark.outlet rest = false) :
    Text.occursIn Mark.outlet (word ++ ' ' :: rest) = false := by
  rw [Text.occursIn_append_cons (by decide) (by decide), hw, hr]
  rfl

/-- One word more in front, unless it makes the next word the protocol. -/
theorem Quiet.cons_word (hw : IsWord word) (h : Quiet name rest)
    (hp : word = Mark.protocolWord → ∀ ending : Ending, ∀ second ∈ (words (rest ++ ending.text)).head?,
      protocolName second ≠ name) :
    Quiet name (word ++ ' ' :: rest) where
  unbroken := by
    have := hw.2.1
    have := h.unbroken
    simp_all [Lines.Unbroken]
  outlet := outlet_not_occursIn_append_space
    (Text.occursIn_eq_false_of_not_mem (c := '@') (by decide) hw.2.2) h.outlet
  protocol ending := by
    rw [Bool.eq_false_iff]
    intro hd
    rw [List.append_assoc, List.cons_append] at hd
    rcases declaresProtocol_append_space hw.1 hd with ⟨heq, second, hsecond, hname⟩ | hd
    · exact hp heq ending second hsecond hname
    · rw [h.protocol ending] at hd
      cases hd

theorem Quiet.cons_of_ne (hw : IsWord word) (hne : word ≠ Mark.protocolWord) (h : Quiet name rest) :
    Quiet name (word ++ ' ' :: rest) :=
  h.cons_word hw fun heq => absurd heq hne

theorem append_ne_protocolWord {mark : Text} (h : mark.isSuffixOf Mark.protocolWord = false)
    (front : Text) : front ++ mark ≠ Mark.protocolWord := by
  intro heq
  rw [Bool.eq_false_iff, Ne, List.isSuffixOf_iff_suffix, ← heq] at h
  exact h (List.suffix_append ..)

/-- Two words more in front, of which the second is not the protocol. -/
theorem Quiet.cons_pair {second : Text} (hw : IsWord word) (hs : IsWord second) (hne : second ≠ [])
    (hname : protocolName second ≠ name) (h : Quiet name (second ++ ' ' :: rest)) :
    Quiet name (word ++ ' ' :: (second ++ ' ' :: rest)) := by
  refine h.cons_word hw fun _ ending next hnext => ?_
  rw [List.append_assoc, List.cons_append, Text.words_append_space,
    Text.words_of_not_mem hs.1 hne] at hnext
  simp only [List.singleton_append, List.head?_cons, Option.mem_def, Option.some.injEq] at hnext
  exact hnext ▸ hname

/-! ## Rows and steps -/

def QuietRow (name line : Text) : Prop :=
  ∃ level text, line = Draft.row level text ∧ Quiet name (List.replicate level '\t' ++ text)

theorem isWord_tabs (level : Nat) : IsWord (List.replicate level '\t') :=
  ⟨not_mem_tabs (by decide) level, ⟨not_mem_tabs (by decide) level, not_mem_tabs (by decide) level⟩,
    not_mem_tabs (by decide) level⟩

theorem InertRow.quiet {line : Text} (h : InertRow line) : QuietRow name line := by
  obtain ⟨level, text, rfl, ht⟩ := h
  have hlast : (List.replicate level '\t').getLast? ≠ some 'l' := fun hl =>
    not_mem_tabs (by decide) level (List.mem_of_getLast? hl)
  exact ⟨level, text, rfl, Inert.quiet (by simp [(isWord_tabs level).inert, ht, hlast])⟩

def QuietLine (name line : Text) : Prop :=
  ∃ (text : Text) (ending : Ending), line = text ++ ending.text ∧ Quiet name text

theorem QuietRow.quietLine {line : Text} (h : QuietRow name line) (ending : Ending) :
    QuietLine name (withEnding ending line) := by
  obtain ⟨level, text, rfl, ht⟩ := h
  have hr : '\r' ∉ text := fun hm => ht.unbroken.2 (by simp [hm])
  exact ⟨_, ending, withEnding_row hr ending, ht⟩

namespace QuietLine

variable {line : Text} (h : QuietLine name line)
include h

theorem single : Lines.Single line := by
  obtain ⟨text, ending, rfl, ht⟩ := h
  exact Lines.single_append_ending ht.unbroken.1 ending

theorem terminated : Lines.terminated line = true := by
  obtain ⟨text, ending, rfl, -⟩ := h
  exact Lines.terminated_append_ending text ending

theorem kind_ne_outlet : kind line ≠ .outlet := by
  obtain ⟨text, ending, rfl, ht⟩ := h
  have hmark : Lines.Unbroken Mark.outlet ∧ Mark.outlet ≠ [] := by decide
  intro hk
  have hocc := (kind_eq_outlet_iff.1 hk).2.2.2
  rw [Lines.ignoresEnding_occursIn hmark.1 hmark.2, ht.outlet] at hocc
  cases hocc

theorem declaresProtocol_eq_false : declaresProtocol name line = false := by
  obtain ⟨text, ending, rfl, ht⟩ := h
  exact ht.protocol ending

end QuietLine

end Line

namespace Draft

open Line (Inert QuietRow inertRow_row)

def Step.Quiet (name : Text) (step : Step) : Prop :=
  step.whole = true ∧ ∀ line ∈ step.rows, QuietRow name line

variable {name : Text}

@[simp] theorem Step.quiet_blank : Step.Quiet name .blank :=
  ⟨rfl, by simpa [Step.rows] using (@inertRow_row 0 [] Line.inert_nil).quiet⟩

theorem Step.quiet_line_of_quiet {level : Nat} {text : Text}
    (h : Line.Quiet name (List.replicate level '\t' ++ text)) : Step.Quiet name (.line level text) :=
  ⟨rfl, by simpa [Step.rows] using ⟨level, text, rfl, h⟩⟩

theorem Step.quiet_line {level : Nat} {text : Text} (h : Inert text) :
    Step.Quiet name (.line level text) :=
  ⟨rfl, by simpa [Step.rows] using (@inertRow_row level text h).quiet⟩

/-- The entries of a list are inert where its parts are and each entry is set off by a sign. -/
theorem inert_listed {opening continuation closing : Text} {entries : List Text}
    (ho : ∀ entry ∈ entries, Inert (opening ++ entry))
    (hc : ∀ entry ∈ entries, Inert (continuation ++ entry)) (hclosing : Inert closing)
    (hhead : closing.head? ≠ some ' ') : ∀ text ∈ listed opening continuation closing entries,
      Inert text := by
  intro text htext
  fun_induction listed opening continuation closing entries with
  | case1 => cases htext
  | case2 opening entry =>
    rw [List.mem_singleton] at htext
    subst htext
    rw [Line.inert_append]
    exact ⟨ho entry (by simp), hclosing, fun _ => hhead⟩
  | case3 opening entry entries _ ih =>
    rw [List.mem_cons] at htext
    rcases htext with rfl | htext
    · rw [Line.inert_append]
      exact ⟨ho entry (by simp), by decide, fun _ => by decide⟩
    · exact ih (fun e he => hc e (by simp [he])) (fun e he => hc e (by simp [he])) htext

theorem Step.quiet_list {level : Nat} {opening continuation closing : Text} {entries : List Text}
    (ho : ∀ entry ∈ entries, Inert (opening ++ entry))
    (hc : ∀ entry ∈ entries, Inert (continuation ++ entry)) (hclosing : Inert closing)
    (hhead : closing.head? ≠ some ' ') :
    Step.Quiet name (.list level opening entries continuation closing) := by
  refine ⟨rfl, fun line hline => ?_⟩
  obtain ⟨text, htext, rfl⟩ := List.mem_map.1 hline
  exact (inertRow_row (inert_listed ho hc hclosing hhead text htext)).quiet

def AllQuiet (name : Text) (steps : List Step) : Prop :=
  ∀ step ∈ steps, step.Quiet name

@[simp] theorem allQuiet_nil : AllQuiet name [] := by
  simp [AllQuiet]

@[simp] theorem allQuiet_cons {step : Step} {steps : List Step} :
    AllQuiet name (step :: steps) ↔ step.Quiet name ∧ AllQuiet name steps := by
  simp [AllQuiet]

@[simp] theorem allQuiet_append {front back : List Step} :
    AllQuiet name (front ++ back) ↔ AllQuiet name front ∧ AllQuiet name back :=
  List.forall_mem_append

@[simp] theorem allQuiet_flatMap {α : Type} {items : List α} {steps : α → List Step} :
    AllQuiet name (items.flatMap steps) ↔ ∀ item ∈ items, AllQuiet name (steps item) :=
  List.forall_mem_flatMap

@[simp] theorem allQuiet_map {α : Type} {items : List α} {step : α → Step} :
    AllQuiet name (items.map step) ↔ ∀ item ∈ items, (step item).Quiet name :=
  List.forall_mem_map

theorem AllQuiet.quietRow {steps : List Step} (h : AllQuiet name steps) :
    ∀ line ∈ compose steps, QuietRow name line := by
  intro line hline
  rw [compose_eq_flatMap_rows fun step hstep => (h step hstep).1, List.mem_flatMap] at hline
  obtain ⟨step, hstep, hline⟩ := hline
  exact (h step hstep).2 line hline

end Draft

end OutletWiring

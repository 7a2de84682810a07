import OutletWiring.Proofs.Line.Kind
import OutletWiring.Proofs.Lines.Insertion
import OutletWiring.Proofs.Naming

/-!
# Lines that declare nothing

Most of what is written must never be taken for a declaration of the user. A text is inert if it is
one line, holds no attribute, and has no `l` right before a space, so that no word `protocol` in it
has another word after it. Inert texts are put together from words, such as names, and fixed texts;
the lemmas marked `simp` do this for any text that is written out.
-/

namespace OutletWiring

namespace Text

/-- The letter stands somewhere right before a space. -/
def gapped (letter : Char) : Text → Bool
  | c :: d :: rest => (c == letter && d == ' ') || gapped letter (d :: rest)
  | _ => false

variable {letter : Char}

theorem gapped_cons (letter c : Char) (text : Text) :
    gapped letter (c :: text) =
      (c == letter && text.head? == some ' ' || gapped letter text) := by
  cases text with
  | nil => simp [gapped]
  | cons d rest => simp [gapped]

theorem gapped_append (letter : Char) (a b : Text) :
    gapped letter (a ++ b) = (gapped letter a || gapped letter b ||
      (a.getLast? == some letter && b.head? == some ' ')) := by
  induction a with
  | nil => simp [gapped]
  | cons c a ih =>
    rw [List.cons_append, gapped_cons, ih, gapped_cons]
    cases a with
    | nil => cases h : gapped letter b <;> simp [gapped]
    | cons d a => simp [List.getLast?_cons_cons, Bool.or_assoc]

theorem gapped_of_not_mem {text : Text} (h : ' ' ∉ text) : gapped letter text = false := by
  induction text with
  | nil => rfl
  | cons c text ih =>
    have htext : ' ' ∉ text := fun hm => h (by simp [hm])
    have hhead : text.head? ≠ some ' ' := fun hh => htext (List.mem_of_head? hh)
    simp [gapped_cons, ih htext, hhead]

theorem gapped_of_infix {text : Text} (h : [letter, ' '] <:+: text) :
    gapped letter text = true := by
  obtain ⟨front, back, rfl⟩ := h
  simp [gapped_append, gapped]

/-- A mark with the letter before a space does not stand in a text without. -/
theorem not_infix_of_gapless {mark text : Text} (hm : [letter, ' '] <:+: mark)
    (h : gapped letter text = false) : ¬ mark <:+: text := by
  intro hinfix
  have hgapped := gapped_of_infix (hm.trans hinfix)
  rw [h] at hgapped
  cases hgapped

theorem occursIn_of_gapless {mark text : Text} (hm : [letter, ' '] <:+: mark)
    (h : gapped letter text = false) : occursIn mark text = false := by
  rw [Bool.eq_false_iff, Ne, occursIn_iff]
  exact not_infix_of_gapless hm h

/-- A piece that is not the last stands in the text with the separator after it. -/
theorem append_singleton_infix_of_split {c : Char} {text piece next : Text} {front back : List Text}
    (h : split c text = front ++ piece :: next :: back) : piece ++ [c] <:+: text := by
  induction hn : text.length using Nat.strong_induction_on generalizing text front with
  | _ n ih =>
    by_cases hc : c ∈ text
    · obtain ⟨xs, ys, rfl, hxs⟩ := List.eq_append_cons_of_mem hc
      rw [split_append_cons, split_of_not_mem hxs] at h
      cases front with
      | nil =>
        simp only [List.cons_append, List.nil_append, List.cons.injEq] at h
        exact ⟨[], ys, by simp [h.1]⟩
      | cons first front =>
        simp only [List.cons_append, List.nil_append, List.cons.injEq] at h
        have hys : piece ++ [c] <:+: ys := ih ys.length (by simp [← hn]; omega) h.2 rfl
        exact hys.trans ((List.suffix_cons c ys).trans (List.suffix_append xs _)).isInfix
    · rw [split_of_not_mem hc] at h
      have := congrArg List.length h
      simp only [List.length_cons, List.length_nil, List.length_append] at this
      omega

end Text

namespace Line

open Text (gapped)

theorem append_space_infix_of_words {line first second : Text} {front back : List Text}
    (h : Text.words line = front ++ first :: second :: back) : first ++ [' '] <:+: line := by
  obtain ⟨l₁, l₂, hsplit, -, h₂⟩ := List.filter_eq_append_iff.1 h
  obtain ⟨l₃, l₄, rfl, -, -, h₄⟩ := List.filter_eq_cons_iff.1 h₂
  -- some piece follows, as one that is not empty does
  cases l₄ with
  | nil => cases h₄
  | cons next rest =>
    have hpieces : Text.split ' ' line = (l₁ ++ l₃) ++ first :: next :: rest := by simp [hsplit]
    exact Text.append_singleton_infix_of_split hpieces

theorem exists_words_of_declaresAmong {name : Text} {words : List Text}
    (h : declaresAmong name words = true) :
    ∃ front second back, words = front ++ Mark.protocolWord :: second :: back ∧
      protocolName second = name := by
  fun_induction declaresAmong name words with
  | case1 first second rest ih =>
    rw [Bool.or_eq_true, Bool.and_eq_true, beq_iff_eq, beq_iff_eq] at h
    rcases h with ⟨rfl, hname⟩ | h
    · exact ⟨[], second, rest, rfl, hname⟩
    · obtain ⟨front, next, back, heq, hname⟩ := ih h
      exact ⟨first :: front, next, back, by simp [heq], hname⟩
  | case2 => cases h

theorem declaresProtocol_of_gapless {name line : Text} (h : gapped 'l' line = false) :
    declaresProtocol name line = false := by
  rw [Bool.eq_false_iff]
  intro hd
  obtain ⟨front, second, back, hw, -⟩ := exists_words_of_declaresAmong hd
  have hprotocol : ['l', ' '] <:+: Mark.protocolWord ++ [' '] :=
    ⟨("protoco" : Text), [], by decide⟩
  exact Text.not_infix_of_gapless hprotocol h (append_space_infix_of_words hw)

theorem declaresEnum_of_gapless {name line : Text} (h : gapped 'm' line = false) :
    declaresEnum name line = false :=
  Text.occursIn_of_gapless ⟨("enu" : Text), name ++ ": String", by simp⟩ h

/-- The text is one line in which nothing can be taken for an outlet or a protocol. -/
structure Inert (text : Text) : Prop where
  unbroken : Lines.Unbroken text
  at_not_mem : '@' ∉ text
  gapless : gapped 'l' text = false

theorem inert_iff {text : Text} :
    Inert text ↔ Lines.Unbroken text ∧ '@' ∉ text ∧ gapped 'l' text = false :=
  ⟨fun h => ⟨h.1, h.2, h.3⟩, fun h => ⟨h.1, h.2.1, h.2.2⟩⟩

instance (text : Text) : Decidable (Inert text) :=
  decidable_of_iff' _ inert_iff

@[simp] theorem inert_nil : Inert [] := by
  decide

@[simp] theorem inert_cons {c : Char} {text : Text} :
    Inert (c :: text) ↔ (c ≠ '\n' ∧ c ≠ '\r' ∧ c ≠ '@') ∧
      (c = 'l' → text.head? ≠ some ' ') ∧ Inert text := by
  simp only [inert_iff, Lines.Unbroken, List.mem_cons, not_or, Text.gapped_cons,
    Bool.or_eq_false_iff, Bool.and_eq_false_iff, beq_eq_false_iff_ne, ne_eq, eq_comm (a := c)]
  tauto

@[simp] theorem inert_append {a b : Text} :
    Inert (a ++ b) ↔
      Inert a ∧ Inert b ∧ (a.getLast? = some 'l' → b.head? ≠ some ' ') := by
  simp only [inert_iff, Lines.Unbroken, List.mem_append, not_or, Text.gapped_append,
    Bool.or_eq_false_iff, Bool.and_eq_false_iff, beq_eq_false_iff_ne, ne_eq]
  tauto

/-- The text is a single word without an attribute. -/
def IsWord (text : Text) : Prop :=
  ' ' ∉ text ∧ Lines.Unbroken text ∧ '@' ∉ text

instance (text : Text) : Decidable (IsWord text) :=
  inferInstanceAs (Decidable (_ ∧ _))

theorem IsWord.inert {text : Text} (h : IsWord text) : Inert text :=
  ⟨h.2.1, h.2.2, Text.gapped_of_not_mem h.1⟩

theorem IsWord.head?_ne {text : Text} (h : IsWord text) : text.head? ≠ some ' ' :=
  fun hh => h.1 (List.mem_of_head? hh)

theorem IsWord.append {a b : Text} (ha : IsWord a) (hb : IsWord b) : IsWord (a ++ b) := by
  simp only [IsWord, Lines.Unbroken, List.mem_append, not_or] at *
  tauto

theorem IsWord.of_isIdentifier {name : Text} (h : Naming.IsIdentifier name) : IsWord name :=
  ⟨h.not_mem (by decide), ⟨h.not_mem (by decide), h.not_mem (by decide)⟩, h.not_mem (by decide)⟩

/-- A text whose signs all stand in a word is a word. -/
theorem IsWord.of_signs {text word : Text} (h : IsWord word)
    (hs : ∀ c, Letter.isSign c = true → c ∈ text → c ∈ word) : IsWord text :=
  ⟨fun hc => h.1 (hs _ (by decide) hc),
    ⟨fun hc => h.2.1.1 (hs _ (by decide) hc), fun hc => h.2.1.2 (hs _ (by decide) hc)⟩,
    fun hc => h.2.2 (hs _ (by decide) hc)⟩

/-! ## Rows -/

open Lines (withEnding Ending)

def InertRow (line : Text) : Prop :=
  ∃ level text, line = Draft.row level text ∧ Inert text

theorem inertRow_row {level : Nat} {text : Text} (h : Inert text) : InertRow (Draft.row level text) :=
  ⟨level, text, rfl, h⟩

theorem not_mem_tabs {c : Char} (h : c ≠ '\t') (level : Nat) : c ∉ List.replicate level '\t' :=
  fun hm => h (List.eq_of_mem_replicate hm)

theorem withEnding_row {level : Nat} {text : Text} (h : '\r' ∉ text) (ending : Ending) :
    withEnding ending (Draft.row level text) =
      List.replicate level '\t' ++ text ++ ending.text := by
  refine Lines.withEnding_append_newline _ ending fun hl => ?_
  rcases List.mem_append.1 (List.mem_of_getLast? hl) with hm | hm
  · exact not_mem_tabs (by decide) level hm
  · exact h hm

theorem InertRow.plain {line : Text} (h : InertRow line) : Lines.Plain line := by
  obtain ⟨level, text, rfl, ht⟩ := h
  exact Lines.plain_row fun hl => ht.unbroken.2 (List.mem_of_getLast? hl)

end Line

end OutletWiring

import OutletWiring.Proofs.Text.Occurrence

/-!
# Pieces between separators

A text is cut at a separator and put together again. What stands in a text without reaching over a
separator stands in one of the pieces, and what ends or starts at one ends or starts a piece.
-/

namespace OutletWiring.Text

variable {c : Char} {text : Text}

theorem split_append_of_not_mem {tail : Text} (h : c ∉ tail) (text : Text) :
    ∃ front last, split c text = front ++ [last] ∧
      split c (text ++ tail) = front ++ [last ++ tail] := by
  induction text with
  | nil => exact ⟨[], [], rfl, split_of_not_mem h⟩
  | cons x text ih =>
    obtain ⟨front, last, hsplit, happend⟩ := ih
    by_cases hx : x = c
    · exact ⟨[] :: front, last, by simp [split, hx, hsplit], by simp [split, hx, happend]⟩
    · cases front with
      | nil => exact ⟨[], x :: last, by simp [split, hx, hsplit], by simp [split, hx, happend]⟩
      | cons piece front =>
        exact ⟨(x :: piece) :: front, last, by simp [split, hx, hsplit],
          by simp [split, hx, happend]⟩

theorem exists_split_eq_cons (c : Char) (text : Text) :
    ∃ first rest, split c text = first :: rest := by
  obtain ⟨front, last, hsplit, -⟩ := split_append_of_not_mem (List.not_mem_nil (a := c)) text
  obtain ⟨first, rest, hcons⟩ := List.exists_cons_of_ne_nil (List.append_ne_nil_of_right_ne_nil front
    (List.cons_ne_nil last []))
  exact ⟨first, rest, hsplit.trans hcons⟩

theorem split_not_mem_append {head : Text} (h : c ∉ head) (text : Text) :
    ∃ first rest, split c text = first :: rest ∧
      split c (head ++ text) = (head ++ first) :: rest := by
  induction head with
  | nil =>
    obtain ⟨first, rest, hsplit⟩ := exists_split_eq_cons c text
    exact ⟨first, rest, hsplit, hsplit⟩
  | cons x head ih =>
    have hx : x ≠ c := fun heq => h (by simp [heq])
    obtain ⟨first, rest, hsplit, happend⟩ := ih fun hm => h (by simp [hm])
    exact ⟨first, rest, hsplit, by simp [split, hx, happend]⟩

theorem join_split (c : Char) (text : Text) : join [c] (split c text) = text := by
  induction text with
  | nil => rfl
  | cons x text ih =>
    obtain ⟨first, rest, hsplit⟩ := exists_split_eq_cons c text
    rw [hsplit] at ih
    by_cases hx : x = c
    · simp [split, hx, hsplit, join, ih]
    · have hjoin : join [c] ((x :: first) :: rest) = x :: join [c] (first :: rest) := by
        cases rest <;> simp [join]
      simp [split, hx, hsplit, hjoin, ih]

theorem join_infix_append (separator : Text) (front : List Text) {pieces : List Text}
    (hp : pieces ≠ []) (back : List Text) :
    join separator pieces <:+: join separator (front ++ (pieces ++ back)) := by
  have hback : join separator pieces <+: join separator (pieces ++ back) := by
    induction pieces with
    | nil => exact absurd rfl hp
    | cons piece pieces ih =>
      cases pieces with
      | nil =>
        cases back with
        | nil => exact List.prefix_refl _
        | cons next back => exact ⟨separator ++ join separator (next :: back), by simp [join]⟩
      | cons next pieces =>
        have hrest := ih (List.cons_ne_nil _ _)
        rw [List.cons_append] at hrest
        simpa [join] using hrest
  have hfront : join separator (pieces ++ back) <:+ join separator (front ++ (pieces ++ back)) := by
    induction front with
    | nil => exact List.suffix_refl _
    | cons piece front ih =>
      obtain ⟨next, rest, hrest⟩ := List.exists_cons_of_ne_nil
        (List.append_ne_nil_of_right_ne_nil front (List.append_ne_nil_of_left_ne_nil hp back))
      rw [List.cons_append, hrest, join, ← hrest]
      · exact ih.trans (List.suffix_append ..)
      · simp
  exact hback.isInfix.trans hfront.isInfix

/-- Neighbouring pieces stand in the text with a separator between them. -/
theorem join_infix_of_split {front pieces back : List Text}
    (h : split c text = front ++ (pieces ++ back)) (hp : pieces ≠ []) :
    join [c] pieces <:+: text := by
  rw [← join_split c text, h]
  exact join_infix_append [c] front hp back

/-! ## Words -/

theorem join_space_cons (word next : Text) (words : List Text) :
    join " " (word :: next :: words) = word ++ ' ' :: join " " (next :: words) := by
  simp [join]

theorem words_join {line : List Text} (h : ∀ word ∈ line, word ≠ [] ∧ ' ' ∉ word) :
    words (join " " line) = line := by
  induction line with
  | nil => rfl
  | cons word line ih =>
    have hword := h word (by simp)
    have hrest := ih fun other hother => h other (by simp [hother])
    cases line with
    | nil => exact words_of_not_mem hword.2 hword.1
    | cons next line =>
      rw [join_space_cons, words_append_space, words_of_not_mem hword.2 hword.1, hrest,
        List.singleton_append]

/-- A text without a space stands in one of the words that are put together. -/
theorem exists_mem_of_infix_join {needle : Text} (hn : needle ≠ []) (hs : ' ' ∉ needle)
    {line : List Text} (h : needle <:+: join " " line) : ∃ word ∈ line, needle <:+: word := by
  induction line with
  | nil => exact absurd (List.infix_nil.1 h) hn
  | cons word line ih =>
    cases line with
    | nil => exact ⟨word, by simp, h⟩
    | cons next line =>
      rw [join_space_cons, infix_append_cons_iff hs hn] at h
      rcases h with h | h
      · exact ⟨word, by simp, h⟩
      · obtain ⟨other, hother, hinfix⟩ := ih h
        exact ⟨other, by simp [hother], hinfix⟩

/-- A text that is followed by a space ends a word. -/
theorem exists_word_of_space {key : Text} (hk : key ≠ []) (hs : ' ' ∉ key)
    (h : key ++ [' '] <:+: text) : ∃ word ∈ words text, key <:+ word := by
  obtain ⟨front, back, rfl⟩ := h
  obtain ⟨pieces, last, -, hsplit⟩ := split_append_of_not_mem hs front
  have hline : front ++ (key ++ [' ']) ++ back = (front ++ key) ++ ' ' :: back := by simp
  refine ⟨last ++ key, ?_, List.suffix_append ..⟩
  rw [hline, words_append_space, List.mem_append]
  refine .inl (List.mem_filter.2 ⟨by simp [hsplit], ?_⟩)
  simp [hk]

/-- A text that follows a space starts a word. -/
theorem exists_word_after_space {start : Text} (hne : start ≠ []) (hs : ' ' ∉ start)
    (h : ' ' :: start <:+: text) : ∃ word ∈ words text, start <+: word := by
  obtain ⟨front, back, rfl⟩ := h
  obtain ⟨first, rest, -, hsplit⟩ := split_not_mem_append hs back
  have hline : front ++ ' ' :: start ++ back = front ++ ' ' :: (start ++ back) := by simp
  refine ⟨start ++ first, ?_, List.prefix_append ..⟩
  rw [hline, words_append_space, List.mem_append]
  refine .inr (List.mem_filter.2 ⟨by simp [hsplit], ?_⟩)
  simp [hne]

theorem ne_nil_of_mem_words {word : Text} (h : word ∈ words text) : word ≠ [] := by
  simpa [List.isEmpty_iff] using (List.mem_filter.1 h).2

/-- Every other character of a line stands in a word. -/
theorem exists_word_of_mem (hc : c ≠ ' ') (h : c ∈ text) : ∃ word ∈ words text, c ∈ word := by
  have hinfix : [c] <:+: join " " (split ' ' text) := by
    have hjoin : join " " (split ' ' text) = text := join_split ' ' text
    rw [hjoin]
    exact (List.singleton_infix_iff c text).2 h
  obtain ⟨piece, hpiece, hmem⟩ := exists_mem_of_infix_join (by simp) (by simp [hc.symm]) hinfix
  have hc : c ∈ piece := hmem.subset (by simp)
  refine ⟨piece, List.mem_filter.2 ⟨hpiece, ?_⟩, hc⟩
  simp [List.ne_nil_of_mem hc]

/-- Spaces in front are no part of a word. -/
theorem words_replicate_append (count : Nat) (line : Text) :
    words (List.replicate count ' ' ++ line) = words line := by
  induction count with
  | zero => rfl
  | succ count ih =>
    have hspace : ' ' :: (List.replicate count ' ' ++ line) =
        [] ++ ' ' :: (List.replicate count ' ' ++ line) := rfl
    rw [List.replicate_succ, List.cons_append, hspace, words_append_space, ih]
    rfl

/-- Words with spaces after them: one after each, and as many more as stand with it. -/
def spaced (parts : List (Text × Nat)) : Text :=
  parts.flatMap fun part => part.1 ++ List.replicate (part.2 + 1) ' '

theorem spaced_cons_append (part : Text × Nat) (parts : List (Text × Nat)) (text : Text) :
    spaced (part :: parts) ++ text =
      part.1 ++ ' ' :: (List.replicate part.2 ' ' ++ (spaced parts ++ text)) := by
  simp [spaced, List.replicate_succ]

theorem words_spaced_append {parts : List (Text × Nat)}
    (h : ∀ part ∈ parts, part.1 ≠ [] ∧ ' ' ∉ part.1) (text : Text) :
    words (spaced parts ++ text) = parts.map Prod.fst ++ words text := by
  induction parts with
  | nil => rfl
  | cons part parts ih =>
    rw [List.forall_mem_cons] at h
    have hpart : words part.1 = [part.1] := words_of_not_mem h.1.2 h.1.1
    rw [spaced_cons_append, words_append_space, words_replicate_append, hpart, ih h.2]
    rfl

/-- The line has these words, with any number of spaces between neighbours. -/
def Spaced (words : List Text) (line : Text) : Prop :=
  ∃ parts last, words = parts.map Prod.fst ++ [last] ∧ line = spaced parts ++ last

theorem Spaced.words_eq {words : List Text} {line : Text} (h : Spaced words line)
    (hw : ∀ word ∈ words, word ≠ [] ∧ ' ' ∉ word) : Text.words line = words := by
  obtain ⟨parts, last, rfl, rfl⟩ := h
  rw [List.forall_mem_append, List.forall_mem_map, List.forall_mem_singleton] at hw
  rw [words_spaced_append hw.1, words_of_not_mem hw.2.2 hw.2.1]

theorem afterPrefix?_append (mark text : Text) : afterPrefix? mark (mark ++ text) = some text := by
  simp [afterPrefix?]

end OutletWiring.Text

import OutletWiring.Text.Blank
import Mathlib.Data.List.Infix

/-!
# Where a text can stand in another

A text that does not hold some character stands in a longer one only on one side of it. With the
newline as that character, nothing that is searched for reaches over the end of a line; with the
space, the words of a line are those of the parts around it.
-/

namespace OutletWiring.Text

variable {needle text : Text} {c : Char}

theorem mem_of_occursIn (h : occursIn needle text = true) (hc : c ∈ needle) : c ∈ text :=
  (occursIn_iff.1 h).subset hc

theorem occursIn_eq_false_of_not_mem (hc : c ∈ needle) (h : c ∉ text) :
    occursIn needle text = false := by
  by_contra hn
  exact h (mem_of_occursIn (by simpa using hn) hc)

theorem prefix_append_cons_iff (xs ys : Text) (hc : c ∉ needle) :
    needle <+: xs ++ c :: ys ↔ needle <+: xs := by
  induction xs generalizing needle with
  | nil =>
    cases needle with
    | nil => simp
    | cons n ns =>
      have hn : n ≠ c := fun h => hc (by simp [h])
      simp [hn]
  | cons x xs ih =>
    cases needle with
    | nil => simp
    | cons n ns =>
      have hns : c ∉ ns := fun h => hc (by simp [h])
      simp [ih hns]

theorem infix_append_cons_iff {xs ys : Text} (hc : c ∉ needle) (hn : needle ≠ []) :
    needle <:+: xs ++ c :: ys ↔ needle <:+: xs ∨ needle <:+: ys := by
  induction xs with
  | nil =>
    have hp : ¬ needle <+: c :: ys := by
      intro h
      have h' := (prefix_append_cons_iff [] ys hc).1 h
      exact hn (by simpa using h')
    simp [List.infix_cons_iff, hp, hn]
  | cons x xs ih =>
    have hp : needle <+: x :: (xs ++ c :: ys) ↔ needle <+: x :: xs :=
      prefix_append_cons_iff (x :: xs) ys hc
    rw [List.cons_append, List.infix_cons_iff, List.infix_cons_iff, hp, ih, or_assoc]

theorem occursIn_append_cons {xs ys : Text} (hc : c ∉ needle) (hn : needle ≠ []) :
    occursIn needle (xs ++ c :: ys) = (occursIn needle xs || occursIn needle ys) := by
  rw [Bool.eq_iff_iff]
  simp [occursIn_iff, infix_append_cons_iff hc hn]

theorem occursIn_append_singleton (hc : c ∉ needle) (hn : needle ≠ []) :
    occursIn needle (text ++ [c]) = occursIn needle text := by
  rw [occursIn_append_cons hc hn]
  have : occursIn needle [] = false := by simp [occursIn, hn]
  rw [this, Bool.or_false]

theorem occursIn_append_left {other : Text} (h : occursIn needle text = true) :
    occursIn needle (text ++ other) = true :=
  occursIn_iff.2 ((occursIn_iff.1 h).trans (List.prefix_append text other).isInfix)

theorem occursIn_append_right {other : Text} (h : occursIn needle text = true) :
    occursIn needle (other ++ text) = true :=
  occursIn_iff.2 ((occursIn_iff.1 h).trans (List.suffix_append other text).isInfix)

/-! ## Words -/

theorem split_append_cons (c : Char) (xs ys : Text) :
    split c (xs ++ c :: ys) = split c xs ++ split c ys := by
  induction xs with
  | nil => simp [split]
  | cons x xs ih =>
    by_cases hx : x = c
    · simp [split, hx, ih]
    · have hne : split c xs ≠ [] := by
        cases xs with
        | nil => simp [split]
        | cons y ys => simp only [split]; split_ifs <;> [simp; (split <;> simp)]
      obtain ⟨piece, pieces, hp⟩ := List.exists_cons_of_ne_nil hne
      simp [split, hx, ih, hp]

theorem split_of_not_mem {xs : Text} (h : c ∉ xs) : split c xs = [xs] := by
  induction xs with
  | nil => rfl
  | cons x xs ih =>
    have hx : x ≠ c := fun e => h (by simp [e])
    have hxs : c ∉ xs := fun m => h (by simp [m])
    simp [split, hx, ih hxs]

theorem not_mem_of_mem_split {text piece : Text} (h : piece ∈ split c text) : c ∉ piece := by
  induction text generalizing piece with
  | nil =>
    rw [split, List.mem_singleton] at h
    simp [h]
  | cons x xs ih =>
    rw [split] at h
    split_ifs at h with hx
    · rcases List.mem_cons.1 h with rfl | h
      · simp
      · exact ih h
    · cases hs : split c xs with
      | nil =>
        rw [hs] at h
        simp_all [Ne.symm hx]
      | cons first rest =>
        rw [hs] at h
        rcases List.mem_cons.1 h with rfl | h
        · have := ih (hs ▸ List.mem_cons_self)
          simp_all [Ne.symm hx]
        · exact ih (hs ▸ List.mem_cons_of_mem _ h)

theorem not_mem_of_mem_words {text word : Text} (h : word ∈ words text) : ' ' ∉ word :=
  not_mem_of_mem_split (List.mem_filter.1 h).1

@[simp] theorem words_append_space (xs ys : Text) :
    words (xs ++ ' ' :: ys) = words xs ++ words ys := by
  simp [words, split_append_cons]

theorem words_of_not_mem {xs : Text} (h : ' ' ∉ xs) (hne : xs ≠ []) : words xs = [xs] := by
  simp [words, split_of_not_mem h, hne]

@[simp] theorem words_nil : words [] = [] := rfl

end OutletWiring.Text

import OutletWiring.Text.Basic
import Mathlib.Tactic.SplitIfs

/-!
# Matched delimiters

Braces, brackets and parentheses have to be closed in the reverse of the order in which they are
opened. `Balanced` says so by a grammar, and `nesting` reads a text from left to right and keeps
what is still to be closed. The two agree (`balanced_iff_nesting`), and a balanced text can stand
anywhere in another without a difference to what is open after it (`Balanced.nesting_eq`). Only the
delimiters of a text matter to its nesting.
-/

namespace OutletWiring.Text

def closer? (c : Char) : Option Char :=
  if c = '\x7b' then some '\x7d' else if c = '[' then some ']' else if c = '(' then some ')'
  else none

def isCloser (c : Char) : Bool :=
  c == '\x7d' || c == ']' || c == ')'

def isDelimiter (c : Char) : Bool :=
  (closer? c).isSome || isCloser c

/-- Whatever is opened is closed by its own delimiter, with a balanced text in between. -/
inductive Balanced : Text → Prop
  | nil : Balanced []
  | plain {c : Char} {text : Text} (hc : isDelimiter c = false) (h : Balanced text) :
      Balanced (c :: text)
  | pair {opener closer : Char} {inner rest : Text} (hc : closer? opener = some closer)
      (hi : Balanced inner) (hr : Balanced rest) : Balanced (opener :: (inner ++ closer :: rest))

/-- What is to be closed after one more character, the innermost first. Nothing if the character
closes anything but that. -/
def enclose (awaited : List Char) (c : Char) : Option (List Char) :=
  match closer? c with
  | some closer => some (closer :: awaited)
  | none =>
    if isCloser c then if awaited.head? = some c then some awaited.tail else none
    else some awaited

def nesting (awaited : List Char) (text : Text) : Option (List Char) :=
  text.foldlM enclose awaited

variable {awaited : List Char} {a b text : Text}

@[simp] theorem nesting_nil : nesting awaited [] = some awaited := rfl

@[simp] theorem nesting_cons (c : Char) (text : Text) :
    nesting awaited (c :: text) = (enclose awaited c).bind (nesting · text) := rfl

@[simp] theorem nesting_append (a b : Text) :
    nesting awaited (a ++ b) = (nesting awaited a).bind (nesting · b) :=
  List.foldlM_append

theorem enclose_of_not_delimiter {c : Char} (h : isDelimiter c = false) :
    enclose awaited c = some awaited := by
  simp only [isDelimiter, Bool.or_eq_false_iff, Option.isSome_eq_false_iff,
    Option.isNone_iff_eq_none] at h
  simp [enclose, h.1, h.2]

theorem enclose_of_closer? {c closer : Char} (h : closer? c = some closer) :
    enclose awaited c = some (closer :: awaited) := by
  simp [enclose, h]

/-- A closing delimiter opens nothing. -/
theorem closer?_of_isCloser {c : Char} (h : isCloser c = true) : closer? c = none := by
  simp only [isCloser, Bool.or_eq_true, beq_iff_eq] at h
  rcases h with (rfl | rfl) | rfl <;> rfl

theorem isCloser_of_closer? {c closer : Char} (h : closer? c = some closer) :
    isCloser closer = true := by
  unfold closer? at h
  split_ifs at h <;> cases h <;> rfl

theorem enclose_closer {c : Char} (h : isCloser c = true) :
    enclose (c :: awaited) c = some awaited := by
  simp [enclose, closer?_of_isCloser h, h]

@[simp] theorem enclose_brace : enclose awaited '\x7b' = some ('\x7d' :: awaited) := rfl

@[simp] theorem enclose_bracket : enclose awaited '[' = some (']' :: awaited) := rfl

@[simp] theorem enclose_parenthesis : enclose awaited '(' = some (')' :: awaited) := rfl

@[simp] theorem enclose_brace_end : enclose ('\x7d' :: awaited) '\x7d' = some awaited := rfl

@[simp] theorem enclose_bracket_end : enclose (']' :: awaited) ']' = some awaited := rfl

@[simp] theorem enclose_parenthesis_end : enclose (')' :: awaited) ')' = some awaited := rfl

/-! ## The grammar and the reading -/

theorem Balanced.append (ha : Balanced a) (hb : Balanced b) : Balanced (a ++ b) := by
  induction ha with
  | nil => exact hb
  | plain hc _ ih => exact .plain hc ih
  | pair hc hi _ _ ih =>
    rw [List.cons_append, List.append_assoc]
    exact .pair hc hi ih

/-- A balanced text leaves to be closed what it finds to be closed. -/
theorem Balanced.nesting_eq (h : Balanced text) (awaited : List Char) :
    nesting awaited text = some awaited := by
  induction h generalizing awaited with
  | nil => rfl
  | plain hc _ ih => simp [enclose_of_not_delimiter hc, ih]
  | pair hc _ _ ihi ihr =>
    simp [enclose_of_closer? hc, ihi, enclose_closer (isCloser_of_closer? hc), ihr]

/-- The text closes what is awaited, in order, with balanced texts in between. -/
def Settles : List Char → Text → Prop
  | [], text => Balanced text
  | closer :: awaited, text =>
    ∃ inner rest, text = inner ++ closer :: rest ∧ Balanced inner ∧ Settles awaited rest

theorem Settles.prepend (ha : Balanced a) (h : Settles awaited text) :
    Settles awaited (a ++ text) := by
  cases awaited with
  | nil => exact ha.append h
  | cons closer awaited =>
    obtain ⟨inner, rest, rfl, hi, hr⟩ := h
    exact ⟨a ++ inner, rest, by simp, ha.append hi, hr⟩

theorem settles_of_nesting (h : nesting awaited text = some []) : Settles awaited text := by
  induction text generalizing awaited with
  | nil =>
    rw [nesting_nil, Option.some.injEq] at h
    subst h
    exact Balanced.nil
  | cons c text ih =>
    rw [nesting_cons, Option.bind_eq_some_iff] at h
    obtain ⟨next, hnext, htext⟩ := h
    have hrest := ih htext
    cases hc : closer? c with
    | some closer =>
      rw [enclose_of_closer? hc, Option.some.injEq] at hnext
      subst hnext
      obtain ⟨inner, rest, rfl, hi, hr⟩ := hrest
      have hpair : Balanced (c :: (inner ++ [closer])) := .pair hc hi .nil
      simpa using hr.prepend hpair
    | none =>
      simp only [enclose, hc] at hnext
      split_ifs at hnext with hcloser hhead
      · cases hnext
        obtain ⟨rest, rfl⟩ := List.head?_eq_some_iff.1 hhead
        exact ⟨[], text, rfl, .nil, hrest⟩
      · cases hnext
        have hplain : Balanced [c] := .plain (by simp [isDelimiter, hc, hcloser]) .nil
        exact hrest.prepend hplain

theorem balanced_iff_nesting : Balanced text ↔ nesting [] text = some [] :=
  ⟨fun h => h.nesting_eq [], fun h => settles_of_nesting h⟩

instance (text : Text) : Decidable (Balanced text) :=
  decidable_of_iff' _ balanced_iff_nesting

/-- Between any two texts, a balanced one makes no difference to the nesting. -/
theorem Balanced.nesting_between (h : Balanced text) (awaited : List Char) (before after : Text) :
    nesting awaited (before ++ text ++ after) = nesting awaited (before ++ after) := by
  simp only [nesting_append, Option.bind_assoc, h.nesting_eq, Option.bind_some]

/-! ## The delimiters of a text -/

def delimiters (text : Text) : Text :=
  text.filter isDelimiter

@[simp] theorem delimiters_nil : delimiters [] = [] := rfl

@[simp] theorem delimiters_cons (c : Char) (text : Text) :
    delimiters (c :: text) = if isDelimiter c then c :: delimiters text else delimiters text :=
  List.filter_cons

@[simp] theorem delimiters_append (a b : Text) : delimiters (a ++ b) = delimiters a ++ delimiters b :=
  List.filter_append a b

theorem nesting_delimiters (awaited : List Char) (text : Text) :
    nesting awaited (delimiters text) = nesting awaited text := by
  induction text generalizing awaited with
  | nil => rfl
  | cons c text ih =>
    by_cases hc : isDelimiter c = true
    · simp [hc, ih]
    · simp [hc, ih, enclose_of_not_delimiter]

theorem balanced_delimiters_iff : Balanced (delimiters text) ↔ Balanced text := by
  rw [balanced_iff_nesting, balanced_iff_nesting, nesting_delimiters]

end OutletWiring.Text

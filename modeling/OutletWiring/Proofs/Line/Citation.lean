import OutletWiring.Draft
import OutletWiring.Line.Kind
import OutletWiring.Proofs.Line.Inert
import OutletWiring.Proofs.Text.Pieces

/-!
# Cases cited in a line

A page object names a case of the identifier enum in full, up to its raw value, or by a dot alone
where the enum is known. Both are read off the pieces of a line between its dots (`cited`), and what
is read are exactly the citations that stand in the line (`mem_cited_iff`). A line in which no dot
comes after a parenthesis or before an `r` cites nothing.
-/

namespace OutletWiring

namespace Text

variable {a b c : Char} {text before after : Text}

theorem pair_infix_cons :
    [a, b] <:+: c :: text ↔ (a = c ∧ text.head? = some b) ∨ [a, b] <:+: text := by
  rw [List.infix_cons_iff, List.cons_prefix_cons]
  cases text with
  | nil => simp
  | cons d text =>
    rw [List.cons_prefix_cons, List.head?_cons, Option.some.injEq, eq_comm (a := b)]
    simp

theorem pair_infix_append : [a, b] <:+: before ++ after ↔
    [a, b] <:+: before ∨ [a, b] <:+: after ∨ (before.getLast? = some a ∧ after.head? = some b) := by
  induction before with
  | nil => simp
  | cons c before ih =>
    rw [List.cons_append, pair_infix_cons, pair_infix_cons, ih]
    cases before with
    | nil => simp; tauto
    | cons d before => simp [List.getLast?_cons_cons]; tauto

end Text

/-- A case of an identifier enum, as a page object names it. -/
inductive Citation where
  /-- The raw value of a case of the named enum. -/
  | full (enumName name : Text)
  /-- A case of an enum that is known. -/
  | short (name : Text)
  deriving DecidableEq

namespace Citation

open Line (Mark.elements)

def text : Citation → Text
  | full enumName name => Mark.elements ++ enumName ++ "." ++ name ++ ".rawValue"
  | short name => "(." ++ name ++ ")"

/-- The names end where the punctuation of the citation says. -/
def Delimited : Citation → Prop
  | full enumName name => '.' ∉ enumName ∧ '.' ∉ name
  | short name => '.' ∉ name ∧ ')' ∉ name

def namespaceName : Text := "UIElements"

def rawValue : Text := "rawValue"

theorem text_full (enumName name : Text) :
    (full enumName name).text =
      namespaceName ++ '.' :: (enumName ++ '.' :: (name ++ '.' :: rawValue)) := by
  have hmarks : Mark.elements = namespaceName ++ ['.'] ∧
      (".rawValue" : Text) = '.' :: rawValue := by decide
  show Mark.elements ++ enumName ++ "." ++ name ++ (".rawValue" : Text) = _
  rw [hmarks.1, hmarks.2]
  simp

theorem text_short (name : Text) : (short name).text = '(' :: '.' :: (name ++ [')']) := by
  show ("(." : Text) ++ name ++ ")" = _
  simp

/-- The full citation that starts in the first of the pieces between dots. -/
def full? : List Text → Option Citation
  | before :: enumName :: name :: after :: _ =>
    if namespaceName.isSuffixOf before && rawValue.isPrefixOf after then some (full enumName name)
    else none
  | _ => none

def short? : List Text → Option Citation
  | before :: after :: _ =>
    if before.getLast? = some '(' ∧ ')' ∈ after then some (short (after.takeWhile (· != ')')))
    else none
  | _ => none

def starting (pieces : List Text) : List Citation :=
  (full? pieces).toList ++ (short? pieces).toList

end Citation

namespace Line

open Citation (full? short? starting)

def cited (line : Text) : List Citation :=
  (Text.split '.' line).tails.flatMap starting

theorem takeWhile_append_cons {c : Char} {name last : Text} (h : c ∉ name) :
    (name ++ c :: last).takeWhile (· != c) = name := by
  rw [List.takeWhile_append_of_pos, List.takeWhile_cons_of_neg (by simp), List.append_nil]
  exact fun x hx => by simpa using fun heq : x = c => h (heq ▸ hx)

theorem infix_of_full? {front pieces : List Text} {line : Text} {citation : Citation}
    (hs : Text.split '.' line = front ++ pieces) (h : full? pieces = some citation) :
    citation.Delimited ∧ citation.text <:+: line := by
  unfold full? at h
  split at h
  · next before enumName name after rest =>
    simp only [Option.ite_none_right_eq_some, Bool.and_eq_true, List.isSuffixOf_iff_suffix,
      List.isPrefixOf_iff_prefix, Option.some.injEq] at h
    obtain ⟨⟨⟨first, rfl⟩, ⟨last, rfl⟩⟩, rfl⟩ := h
    have hdots : ∀ piece ∈ Text.split '.' line, '.' ∉ piece := fun _ => Text.not_mem_of_mem_split
    rw [hs] at hdots
    refine ⟨⟨hdots enumName (by simp), hdots name (by simp)⟩, ?_⟩
    have hpieces : Text.join ['.'] [first ++ Citation.namespaceName, enumName, name,
        Citation.rawValue ++ last] <:+: line :=
      @Text.join_infix_of_split _ _ front _ rest hs (by simp)
    refine List.IsInfix.trans ⟨first, last, ?_⟩ hpieces
    simp [Citation.text_full, Text.join]
  · cases h

theorem infix_of_short? {front pieces : List Text} {line : Text} {citation : Citation}
    (hs : Text.split '.' line = front ++ pieces) (h : short? pieces = some citation) :
    citation.Delimited ∧ citation.text <:+: line := by
  unfold short? at h
  split at h
  · next before after rest =>
    simp only [Option.ite_none_right_eq_some, Option.some.injEq] at h
    obtain ⟨⟨hlast, hclose⟩, rfl⟩ := h
    have hdots : ∀ piece ∈ Text.split '.' line, '.' ∉ piece := fun _ => Text.not_mem_of_mem_split
    rw [hs] at hdots
    have hafter := hdots after (by simp)
    obtain ⟨name, last, rfl, hname⟩ := List.eq_append_cons_of_mem hclose
    obtain ⟨first, rfl⟩ := List.getLast?_eq_some_iff.1 hlast
    have htake : (name ++ ')' :: last).takeWhile (· != ')') = name := takeWhile_append_cons hname
    rw [htake]
    refine ⟨⟨fun hm => hafter (by simp [hm]), hname⟩, ?_⟩
    have hpieces : Text.join ['.'] [first ++ ['('], name ++ ')' :: last] <:+: line :=
      @Text.join_infix_of_split _ _ front _ rest hs (by simp)
    refine List.IsInfix.trans ⟨first, last, ?_⟩ hpieces
    simp [Citation.text_short, Text.join]
  · cases h

/-- What is read off a line are the citations that stand in it. -/
theorem mem_cited_iff {line : Text} {citation : Citation} :
    citation ∈ cited line ↔ citation.Delimited ∧ citation.text <:+: line := by
  constructor
  · intro h
    simp only [cited, List.mem_flatMap, List.mem_tails, starting, List.mem_append,
      Option.mem_toList] at h
    obtain ⟨pieces, ⟨front, hs⟩, h | h⟩ := h
    · exact infix_of_full? hs.symm h
    · exact infix_of_short? hs.symm h
  · rintro ⟨hd, first, last, rfl⟩
    simp only [cited, List.mem_flatMap, List.mem_tails, starting, List.mem_append,
      Option.mem_toList]
    cases citation with
    | full enumName name =>
      have hmarks : '.' ∉ Citation.namespaceName ∧ '.' ∉ Citation.rawValue := by decide
      obtain ⟨front, before, -, hbefore⟩ := Text.split_append_of_not_mem hmarks.1 first
      obtain ⟨after, rest, -, hafter⟩ := Text.split_not_mem_append hmarks.2 last
      have hsplit : Text.split '.' (first ++ (Citation.full enumName name).text ++ last) =
          front ++ (before ++ Citation.namespaceName) :: enumName :: name ::
            (Citation.rawValue ++ after) :: rest := by
        have hline : first ++ (Citation.full enumName name).text ++ last =
            (first ++ Citation.namespaceName) ++ '.' :: (enumName ++ '.' :: (name ++ '.' ::
              (Citation.rawValue ++ last))) := by
          simp [Citation.text_full]
        rw [hline, Text.split_append_cons, Text.split_append_cons, Text.split_append_cons, hbefore,
          hafter, Text.split_of_not_mem hd.1, Text.split_of_not_mem hd.2]
        simp
      refine ⟨_, ⟨front, hsplit.symm⟩, .inl ?_⟩
      simp [full?]
    | short name =>
      have hopen : '.' ∉ ['('] := by decide
      obtain ⟨front, before, -, hbefore⟩ := Text.split_append_of_not_mem hopen first
      have hname : '.' ∉ name ++ [')'] := by simp [hd.1]
      obtain ⟨after, rest, -, hafter⟩ := Text.split_not_mem_append hname last
      have hsplit : Text.split '.' (first ++ (Citation.short name).text ++ last) =
          front ++ (before ++ ['(']) :: (name ++ [')'] ++ after) :: rest := by
        have hline : first ++ (Citation.short name).text ++ last =
            (first ++ ['(']) ++ '.' :: (name ++ [')'] ++ last) := by
          simp [Citation.text_short]
        rw [hline, Text.split_append_cons, hbefore, hafter]
        simp
      have htake : (name ++ ')' :: after).takeWhile (· != ')') = name := takeWhile_append_cons hd.2
      refine ⟨_, ⟨front, hsplit.symm⟩, .inr ?_⟩
      simp [short?, htake]

/-! ## Lines that cite nothing -/

/-- The text has no dot after an opening parenthesis and none before an `r`. -/
structure Silent (text : Text) : Prop where
  opening : ¬ ['(', '.'] <:+: text
  value : ¬ ['.', 'r'] <:+: text

theorem silent_iff {text : Text} :
    Silent text ↔ ¬ ['(', '.'] <:+: text ∧ ¬ ['.', 'r'] <:+: text :=
  ⟨fun h => ⟨h.1, h.2⟩, fun h => ⟨h.1, h.2⟩⟩

instance (text : Text) : Decidable (Silent text) :=
  decidable_of_iff' _ silent_iff

@[simp] theorem silent_nil : Silent [] := by
  decide

@[simp] theorem silent_cons {c : Char} {text : Text} :
    Silent (c :: text) ↔ (c = '(' → text.head? ≠ some '.') ∧ (c = '.' → text.head? ≠ some 'r') ∧
      Silent text := by
  simp only [silent_iff, Text.pair_infix_cons, eq_comm (b := c)]
  tauto

@[simp] theorem silent_append {a b : Text} :
    Silent (a ++ b) ↔ Silent a ∧ Silent b ∧ (a.getLast? = some '(' → b.head? ≠ some '.') ∧
      (a.getLast? = some '.' → b.head? ≠ some 'r') := by
  simp only [silent_iff, Text.pair_infix_append]
  tauto

theorem silent_of_not_mem {text : Text} (h : '.' ∉ text) : Silent text :=
  ⟨fun hi => h (hi.subset (by simp)), fun hi => h (hi.subset (by simp))⟩

theorem Silent.cited_eq {text : Text} (h : Silent text) : cited text = [] := by
  have hvalue : ['.', 'r'] <:+: ".rawValue" := by decide
  refine List.eq_nil_iff_forall_not_mem.2 fun citation hc => ?_
  obtain ⟨-, hinfix⟩ := mem_cited_iff.1 hc
  cases citation with
  | full enumName name =>
    exact h.value (hvalue.trans ((List.suffix_append _ _).isInfix.trans hinfix))
  | short name =>
    exact h.opening (List.IsInfix.trans ⟨[], name ++ [')'], by simp [Citation.text_short]⟩ hinfix)

theorem Silent.cited_row {text : Text} (h : Silent text) (level : Nat) :
    cited (Draft.row level text) = [] := by
  have htabs : '.' ∉ List.replicate level '\t' := not_mem_tabs (by decide) level
  have hlast : ∀ c : Char, c ≠ '\t' → (List.replicate level '\t').getLast? ≠ some c :=
    fun c hc hl => not_mem_tabs hc level (List.mem_of_getLast? hl)
  refine Silent.cited_eq ?_
  simp [Draft.row, silent_of_not_mem htabs, h, hlast]

/-! ## Lines that cite one case -/

theorem starting_eq_nil {first : Text} {rest : List Text} (ho : first.getLast? ≠ some '(')
    (h : ¬ Citation.namespaceName <:+ first ∨ ∀ piece ∈ rest.drop 2, ¬ Citation.rawValue <+: piece) :
    starting (first :: rest) = [] := by
  have hshort : short? (first :: rest) = none := by
    cases rest <;> simp [short?, ho]
  have hfull : full? (first :: rest) = none := by
    unfold full?
    split
    · next before enumName name after others heq =>
      cases heq
      rw [if_neg]
      rw [Bool.and_eq_true, List.isSuffixOf_iff_suffix, List.isPrefixOf_iff_prefix]
      rintro ⟨hbefore, hafter⟩
      exact h.elim (absurd hbefore) fun hnone => hnone after (by simp) hafter
    · rfl
  simp [starting, hfull, hshort]

theorem citing_append {front pieces : List Text} (h : ∀ piece ∈ front,
    piece.getLast? ≠ some '(' ∧ ¬ Citation.namespaceName <:+ piece) :
    (front ++ pieces).tails.flatMap starting = pieces.tails.flatMap starting := by
  induction front with
  | nil => rfl
  | cons piece front ih =>
    have hpiece := h piece (by simp)
    rw [List.cons_append, List.tails_cons, List.flatMap_cons,
      starting_eq_nil hpiece.1 (.inl hpiece.2), List.nil_append,
      ih fun other hother => h other (by simp [hother])]

theorem citing_eq_nil {pieces : List Text} (ho : ∀ piece ∈ pieces, piece.getLast? ≠ some '(')
    (h : ∀ piece ∈ pieces.drop 3, ¬ Citation.rawValue <+: piece) :
    pieces.tails.flatMap starting = [] := by
  induction pieces with
  | nil => rfl
  | cons piece pieces ih =>
    have hrest : ∀ other ∈ pieces.drop 2, ¬ Citation.rawValue <+: other := h
    rw [List.tails_cons, List.flatMap_cons, starting_eq_nil (ho piece (by simp)) (.inr hrest),
      List.nil_append]
    refine ih (fun other hother => ho other (by simp [hother])) fun other hother => hrest other ?_
    exact (List.drop_sublist_drop_left pieces (by decide)).subset hother

/-- No piece of the text between dots begins or ends like a part of a citation. -/
def Plain (text : Text) : Prop :=
  ∀ piece ∈ Text.split '.' text, piece.getLast? ≠ some '(' ∧
    ¬ Citation.namespaceName <:+ piece ∧ ¬ Citation.rawValue <+: piece

instance (text : Text) : Decidable (Plain text) :=
  inferInstanceAs (Decidable (∀ _ ∈ _, _))

/-- A full citation is the only one in its line if nothing around it looks like a part of one. -/
theorem cited_full {head middle after enumName name : Text} (hh : '.' ∉ head)
    (hlast : head.getLast? ≠ some '(' ∧ head.getLast? ≠ some 's') (hm : Plain middle)
    (ha : Plain after) (he : '.' ∉ enumName ∧ '(' ∉ enumName) (hn : '.' ∉ name ∧ '(' ∉ name) :
    cited (head ++ '.' :: (middle ++ (Citation.full enumName name).text ++ after)) =
      [Citation.full enumName name] := by
  have hmarks : '.' ∉ Citation.namespaceName ∧ '.' ∉ Citation.rawValue := by decide
  obtain ⟨front, before, hmiddle, hbefore⟩ := Text.split_append_of_not_mem hmarks.1 middle
  obtain ⟨next, rest, hnext, hafter⟩ := Text.split_not_mem_append hmarks.2 after
  have hsplit : Text.split '.'
      (head ++ '.' :: (middle ++ (Citation.full enumName name).text ++ after)) =
      (head :: front) ++ (before ++ Citation.namespaceName) :: enumName :: name ::
        (Citation.rawValue ++ next) :: rest := by
    have hline : middle ++ (Citation.full enumName name).text ++ after =
        (middle ++ Citation.namespaceName) ++ '.' :: (enumName ++ '.' :: (name ++ '.' ::
          (Citation.rawValue ++ after))) := by
      simp [Citation.text_full]
    rw [hline, Text.split_append_cons, Text.split_append_cons, Text.split_append_cons,
      Text.split_append_cons, hbefore, hafter, Text.split_of_not_mem hh, Text.split_of_not_mem he.1,
      Text.split_of_not_mem hn.1]
    simp
  have hends : Citation.namespaceName.getLast? = some 's' ∧
      Citation.rawValue.getLast? = some 'e' := by decide
  have hhead : ¬ Citation.namespaceName <:+ head := by
    rintro ⟨first, rfl⟩
    exact hlast.2 (by simp [List.getLast?_append, hends.1])
  have hopen : ∀ {text : Text}, '(' ∉ text → text.getLast? ≠ some '(' :=
    fun h hl => h (List.mem_of_getLast? hl)
  -- up to the citation nothing names the enums, and after it nothing is a raw value
  have hfront : ∀ piece ∈ head :: front,
      piece.getLast? ≠ some '(' ∧ ¬ Citation.namespaceName <:+ piece := by
    refine List.forall_mem_cons.2 ⟨⟨hlast.1, hhead⟩, fun piece hpiece => ?_⟩
    have := hm piece (by simp [hmiddle, hpiece])
    exact ⟨this.1, this.2.1⟩
  have hrest : (enumName :: name :: (Citation.rawValue ++ next) :: rest).tails.flatMap starting =
      [] := by
    have hpieces := ha
    rw [Plain, hnext] at hpieces
    refine citing_eq_nil ?_ fun piece hpiece => (hpieces piece (by simp_all)).2.2
    simp only [List.forall_mem_cons]
    refine ⟨hopen he.2, hopen hn.2, ?_, fun piece hpiece => (hpieces piece (by simp [hpiece])).1⟩
    have hnextLast := (hpieces next (by simp)).1
    cases hl : next.getLast? with
    | none => simp [List.getLast?_append, hl, hends.2]
    | some c => simpa [List.getLast?_append, hl] using hnextLast
  have hfull : full? ((before ++ Citation.namespaceName) :: enumName :: name ::
      (Citation.rawValue ++ next) :: rest) = some (Citation.full enumName name) := by
    simp [full?]
  have hshort : short? ((before ++ Citation.namespaceName) :: enumName :: name ::
      (Citation.rawValue ++ next) :: rest) = none := by
    simp [short?, List.getLast?_append, hends.1]
  rw [cited, hsplit, citing_append hfront, List.tails_cons, List.flatMap_cons, hrest, starting,
    hfull, hshort]
  rfl

/-- A short citation is the only one in its line if there is no other dot. -/
theorem cited_short {head after name : Text} (hh : '.' ∉ head) (ha : '.' ∉ after)
    (hn : '.' ∉ name ∧ ')' ∉ name) :
    cited (head ++ (Citation.short name).text ++ after) = [Citation.short name] := by
  have hline : head ++ (Citation.short name).text ++ after =
      (head ++ ['(']) ++ '.' :: (name ++ ')' :: after) := by
    simp [Citation.text_short]
  have hhead : '.' ∉ head ++ ['('] := by simp [hh]
  have hrest : '.' ∉ name ++ ')' :: after := by simp [hn.1, ha]
  have htake : (name ++ ')' :: after).takeWhile (· != ')') = name := takeWhile_append_cons hn.2
  rw [cited, hline, Text.split_append_cons, Text.split_of_not_mem hhead,
    Text.split_of_not_mem hrest]
  simp [starting, full?, short?, htake]

end Line

end OutletWiring

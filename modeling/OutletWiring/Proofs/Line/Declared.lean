import OutletWiring.Proofs.Capability
import OutletWiring.Proofs.Lines.Filling
import OutletWiring.Proofs.Text.Pieces

/-!
# Reading outlet declarations

An outlet is declared on a line by its modifiers, its name with a colon, and its type with one more
character after it, in words with any number of spaces between them. Whatever the modifiers, the
spacing and the blanks around it, such a line is read as the outlet that it declares
(`OutletDeclaration.outlet?_line`). So of any lines, among others that are no outlet lines, exactly
the declared outlets are found, in their order and with repetitions, layout constraints excepted.
-/

namespace OutletWiring

namespace Text

theorem infix_spaced {parts : List (Text × Nat)} {part : Text × Nat} (h : part ∈ parts) :
    part.1 <:+: spaced parts := by
  obtain ⟨front, back, rfl⟩ := List.append_of_mem h
  exact ⟨spaced front, List.replicate (part.2 + 1) ' ' ++ spaced back, by simp [spaced]⟩

/-- Tabs and spaces before a word stay with it or make words of their own, which are all blank. -/
theorem words_indent_append {indent word : Text} (hi : ∀ c ∈ indent, c = '\t' ∨ c = ' ')
    (hne : word ≠ []) (hs : ' ' ∉ word) :
    ∃ margin tabs, words (indent ++ word) = margin ++ [tabs ++ word] ∧ ∀ w ∈ margin, ':' ∉ w := by
  obtain ⟨front, last, hsplit, happend⟩ := split_append_of_not_mem hs indent
  refine ⟨front.filter (! ·.isEmpty), last, ?_, ?_⟩
  · simp [words, happend, hne]
  · intro w hw hcolon
    have hmem : w ∈ words indent := by
      rw [words, hsplit, List.filter_append]
      exact List.mem_append_left _ hw
    rcases hi ':' ((infix_of_mem_words hmem).subset hcolon) with h | h <;> cases h

/-- Indented words without a colon at their ends come to words without one. -/
theorem words_indent_spaced {indent : Text} (hi : ∀ c ∈ indent, c = '\t' ∨ c = ' ')
    {parts : List (Text × Nat)} (hne : parts ≠ []) (hw : ∀ part ∈ parts, part.1 ≠ [] ∧ ' ' ∉ part.1)
    (hc : ∀ part ∈ parts, part.1.getLast? ≠ some ':') (text : Text) :
    ∃ front, words (indent ++ (spaced parts ++ text)) = front ++ words text ∧
      ∀ word ∈ front, word.getLast? ≠ some ':' := by
  obtain ⟨first, rest, rfl⟩ := List.exists_cons_of_ne_nil hne
  rw [List.forall_mem_cons] at hw hc
  obtain ⟨margin, tabs, hindent, hmargin⟩ := words_indent_append hi hw.1.1 hw.1.2
  refine ⟨margin ++ (tabs ++ first.1) :: rest.map Prod.fst, ?_, ?_⟩
  · rw [spaced_cons_append, ← List.append_assoc, words_append_space, hindent,
      words_replicate_append, words_spaced_append hw.2]
    simp
  · rw [List.forall_mem_append, List.forall_mem_cons, List.forall_mem_map]
    refine ⟨?_, ?_, hc.2⟩
    · intro word hword hlast
      exact hmargin word hword (List.mem_of_getLast? hlast)
    · rw [List.getLast?_append_of_ne_nil _ hw.1.1]
      exact hc.1

/-- The end of a text is where its last character that is no blank stands. -/
theorem trimEnd_append_blanks {c : Char} (hc : isBlank c = false) {trailing : Text}
    (ht : ∀ x ∈ trailing, isBlank x = true) (text : Text) :
    trimEnd (text ++ [c] ++ trailing) = text ++ [c] := by
  have hreverse : (text ++ [c] ++ trailing).reverse = trailing.reverse ++ c :: text.reverse := by
    simp
  have hdrop : (trailing.reverse ++ c :: text.reverse).dropWhile isBlank = c :: text.reverse := by
    rw [List.dropWhile_append_of_pos (by simpa using ht), List.dropWhile_cons_of_neg (by simp [hc])]
  rw [trimEnd, dropEndWhile, hreverse, hdrop]
  simp

end Text

namespace Line

structure OutletSpelling where
  outlet : Outlet
  indent : Text
  /-- The words before the name, each with the number of spaces after it beyond the first. -/
  modifiers : List (Text × Nat)
  /-- The number of spaces between the name and the type beyond the first. -/
  gap : Nat
  mark : Char
  trailing : Text

def OutletSpelling.declaration (spelling : OutletSpelling) : Text :=
  spelling.indent ++ (Text.spaced spelling.modifiers ++
    (Text.spaced [(spelling.outlet.name ++ ":", spelling.gap)] ++ spelling.outlet.type)) ++
      [spelling.mark]

def OutletSpelling.line (spelling : OutletSpelling) : Text :=
  spelling.declaration ++ spelling.trailing

/-- An outlet, written so that the line declares it. -/
structure OutletDeclaration extends OutletSpelling where
  indent_blank : ∀ c ∈ indent, c = '\t' ∨ c = ' '
  modifiers_words : ∀ part ∈ modifiers, part.1 ≠ [] ∧ ' ' ∉ part.1
  /-- No modifier looks like the name. -/
  modifiers_plain : ∀ part ∈ modifiers, part.1.getLast? ≠ some ':'
  modifiers_outlet : ∃ part ∈ modifiers, Text.occursIn Mark.outlet part.1 = true
  name_word : outlet.name ≠ [] ∧ ' ' ∉ outlet.name
  type_word : outlet.type ≠ [] ∧ ' ' ∉ outlet.type
  mark_visible : Text.isBlank mark = false
  trailing_blank : ∀ c ∈ trailing, Text.isBlank c = true
  /-- The line is not taken for one that the tool wrote. -/
  unmarked : ∀ other ∈ [Mark.setter, Mark.binding, Mark.typealias],
    Text.occursIn other toOutletSpelling.line = false

namespace OutletDeclaration

variable (d : OutletDeclaration)

theorem kind_line : kind d.line = .outlet := by
  obtain ⟨part, hpart, hoccurs⟩ := d.modifiers_outlet
  have hline : Text.spaced d.modifiers <:+: d.line :=
    ⟨d.indent, Text.spaced [(d.outlet.name ++ ":", d.gap)] ++ d.outlet.type ++ [d.mark] ++
      d.trailing, by simp [OutletSpelling.line, OutletSpelling.declaration]⟩
  have hmark : Text.occursIn Mark.outlet d.line = true := by
    rw [Text.occursIn_iff] at hoccurs ⊢
    exact hoccurs.trans ((Text.infix_spaced hpart).trans hline)
  rw [kind_eq_outlet_iff]
  exact ⟨d.unmarked _ (by simp), d.unmarked _ (by simp), d.unmarked _ (by simp), hmark⟩

theorem trimEnd_line : Text.trimEnd d.line = d.declaration :=
  Text.trimEnd_append_blanks d.mark_visible d.trailing_blank _

/-- The words of the declaration: some that are no names, then the name, then the type. -/
theorem words_declaration :
    ∃ front, Text.words d.declaration =
        front ++ [d.outlet.name ++ ":", d.outlet.type ++ [d.mark]] ∧
      ∀ word ∈ front, word.getLast? ≠ some ':' := by
  obtain ⟨part, hpart, -⟩ := d.modifiers_outlet
  have hmark : ' ' ≠ d.mark := by
    intro heq
    have hvisible := d.mark_visible
    rw [← heq] at hvisible
    cases hvisible
  have htype : Text.words (d.outlet.type ++ [d.mark]) = [d.outlet.type ++ [d.mark]] :=
    Text.words_of_not_mem (by simp [d.type_word.2, hmark]) (by simp)
  have hname : Text.words (Text.spaced [(d.outlet.name ++ ":", d.gap)] ++
      (d.outlet.type ++ [d.mark])) = [d.outlet.name ++ ":", d.outlet.type ++ [d.mark]] := by
    rw [Text.words_spaced_append (by simp [d.name_word.2]), htype]
    rfl
  obtain ⟨front, hwords, hfront⟩ := Text.words_indent_spaced d.indent_blank
    (List.ne_nil_of_mem hpart) d.modifiers_words d.modifiers_plain
    (Text.spaced [(d.outlet.name ++ ":", d.gap)] ++ (d.outlet.type ++ [d.mark]))
  refine ⟨front, ?_, hfront⟩
  rw [← hname, ← hwords]
  simp [OutletSpelling.declaration]

/-- The line is read as the outlet that it declares, unless that is a layout constraint. -/
theorem outlet?_line :
    outlet? d.line = if d.outlet.type = Outlet.layoutConstraint then none else some d.outlet := by
  obtain ⟨front, hwords, hfront⟩ := d.words_declaration
  have hnone : front.findSome? declaredName? = none := by
    rw [List.findSome?_eq_none_iff]
    intro word hword
    exact if_neg (hfront word hword)
  have hname : (Text.words d.declaration).findSome? declaredName? = some d.outlet.name := by
    rw [hwords, List.findSome?_append, hnone]
    simp [declaredName?]
  have htype : (Text.words d.declaration).getLast?.bind declaredType? = some d.outlet.type := by
    rw [hwords]
    simp [declaredType?, d.type_word.1]
  simp [outlet?, d.trimEnd_line, hname, htype, d.name_word.1]

end OutletDeclaration

end Line

namespace Lines

open Line (OutletDeclaration)

theorem outlets_declaration (d : OutletDeclaration) :
    outlets [d.line] = [d.outlet].filter (·.type != Outlet.layoutConstraint) := by
  have hkind : [d.line].filter (Line.kind · == .outlet) = [d.line] := by
    simp [d.kind_line]
  rw [outlets, hkind]
  by_cases h : d.outlet.type = Outlet.layoutConstraint
  · simp [d.outlet?_line, h]
  · simp [d.outlet?_line, h]

theorem outlets_declarations (declarations : List OutletDeclaration) :
    outlets (declarations.map (·.line)) =
      (declarations.map (·.outlet)).filter (·.type != Outlet.layoutConstraint) := by
  induction declarations with
  | nil => rfl
  | cons d declarations ih =>
    have houtlets : (d :: declarations).map (·.outlet) =
        [d.outlet] ++ declarations.map (·.outlet) := rfl
    rw [List.map_cons, outlets_cons, outlets_declaration, ih, houtlets, List.filter_append]

/-- Of declarations among lines of other kinds, the outlets are found in the order of the
declarations and with repetitions, all but the layout constraints. -/
theorem outlets_of_declared {declarations : List OutletDeclaration} {lines : Lines}
    (h : Filled (fun line => Line.kind line ≠ .outlet) (declarations.map (·.line)) lines) :
    lines.outlets = (declarations.map (·.outlet)).filter (·.type != Outlet.layoutConstraint) := by
  rw [h.outlets_eq fun _ hline => hline, outlets_declarations]

/-- A button, indented by a tab and a space, with two spaces after its first modifier and blanks at
the end. -/
def submitDeclaration : OutletDeclaration where
  outlet := ⟨"submit", "UIButton"⟩
  indent := "\t "
  modifiers := [("@IBOutlet", 1), ("weak", 0), ("var", 0)]
  gap := 0
  mark := '!'
  trailing := " \t\r\n"
  indent_blank := by decide
  modifiers_words := by decide
  modifiers_plain := by decide
  modifiers_outlet := by decide
  name_word := by decide
  type_word := by decide
  mark_visible := by decide
  trailing_blank := by decide
  unmarked := by decide

def heightDeclaration : OutletDeclaration where
  outlet := ⟨"height", Outlet.layoutConstraint⟩
  indent := []
  modifiers := [("@IBOutlet", 0), ("var", 0)]
  gap := 2
  mark := '?'
  trailing := []
  indent_blank := by decide
  modifiers_words := by decide
  modifiers_plain := by decide
  modifiers_outlet := by decide
  name_word := by decide
  type_word := by decide
  mark_visible := by decide
  trailing_blank := by decide
  unmarked := by decide

/-- The button is declared twice, with the constraint and other lines between. -/
def submitTwice : Lines :=
  ["class LoginView: UIView \x7b\n", submitDeclaration.line, heightDeclaration.line, "\n",
    submitDeclaration.line, "\x7d\n"]

theorem outlets_of_declared_submit :
    Filled (fun line => Line.kind line ≠ .outlet)
        ([submitDeclaration, heightDeclaration, submitDeclaration].map (·.line)) submitTwice ∧
      outlets submitTwice = [⟨"submit", "UIButton"⟩, ⟨"submit", "UIButton"⟩] := by
  have h : Filled (fun line => Line.kind line ≠ .outlet)
      ([submitDeclaration, heightDeclaration, submitDeclaration].map (·.line)) submitTwice :=
    .add (by decide) (.keep _ (.keep _ (.add (by decide) (.keep _ (.add (by decide) .nil)))))
  refine ⟨h, ?_⟩
  rw [outlets_of_declared h]
  rfl

end Lines

end OutletWiring

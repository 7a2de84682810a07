import OutletWiring.Proofs.Identifiers.Cases
import OutletWiring.Proofs.Setter.WellCut

/-!
# The enum that later runs extend

A fresh run writes a typealias that names the enum, and the enum at the end of the file. A later run
has only the text to go by: it reads the name off the typealias and looks for the enum of that name.
Both sides meet in `Layout`, the parts of a file in which it finds them. What a fresh run leaves is
laid out so, also with outlet declarations put in above, and a run over a layout puts its bindings
and cases in between the parts and leaves a layout again.
-/

namespace OutletWiring

def Punctuation.space : Punctuation :=
  ⟨(· == ' '), fun h => by rw [eq_of_beq h]; decide⟩

namespace Text

theorem lacks_space_iff {text : Text} : Lacks .space text ↔ ' ' ∉ text :=
  lacks_iff_not_mem fun _ => rfl

theorem gapped_of_letter_not_mem {letter : Char} {text : Text} (h : letter ∉ text) :
    gapped letter text = false := by
  induction text with
  | nil => rfl
  | cons c text ih =>
    rw [List.mem_cons, not_or] at h
    simp [gapped_cons, ih h.2, Ne.symm h.1]

/-- Tabs and a newline around a text put no letter before a space. -/
theorem gapped_row {letter : Char} (h : letter ≠ '\t') (level : Nat) (text : Text) :
    gapped letter (Draft.row level text) = gapped letter text := by
  have htabs : letter ∉ List.replicate level '\t' := fun hm => h (List.eq_of_mem_replicate hm)
  have hlast : (List.replicate level '\t').getLast? ≠ some letter := fun hl =>
    htabs (List.mem_of_getLast? hl)
  simp [Draft.row, gapped_append, gapped_of_letter_not_mem htabs, hlast, gapped]

theorem gapped_withEnding (letter : Char) (ending : Lines.Ending) (line : Text) :
    gapped letter (Lines.withEnding ending line) = gapped letter line := by
  rcases Lines.withEnding_eq ending line with h | ⟨text, rfl, h⟩
  · rw [h]
  · rw [h]
    simp [gapped_append, gapped]

end Text

namespace Line

open Text (gapped)

theorem ignoresEnding_declaresEnum {name : Text} (h : Lines.Unbroken name) :
    Lines.IgnoresEnding (declaresEnum name) := by
  have hmark : Lines.Unbroken ("enum " ++ name ++ ": String") := by
    simpa [Lines.Unbroken] using h
  exact Lines.ignoresEnding_occursIn hmark (by simp)

/-- The line is not taken for a setter, a typealias or the enum of the given name. -/
structure Unclaimed (enumName line : Text) : Prop where
  setter : Text.occursIn Mark.setter line = false
  typealias : Text.occursIn Mark.typealias line = false
  enum : declaresEnum enumName line = false

theorem Unclaimed.closed {enumName line : Text} (hn : Lines.Unbroken enumName)
    (h : Unclaimed enumName line) (ending : Lines.Ending) :
    Unclaimed enumName (Lines.closed ending line) where
  setter := by
    rw [(Lines.ignoresEnding_occursIn (by decide) (by decide)).on_closed, h.setter]
  typealias := by
    rw [(Lines.ignoresEnding_occursIn (by decide) (by decide)).on_closed, h.typealias]
  enum := by rw [(ignoresEnding_declaresEnum hn).on_closed, h.enum]

/-- An outlet declaration at any indentation, with a terminator or without. -/
inductive IsOutletLine : Text → Prop
  | intro {indent name type ending : Text} (hindent : ∀ c ∈ indent, Text.isBlank c = true)
      (hname : Naming.IsIdentifier name) (htype : Naming.IsIdentifier type)
      (hending : ending ∈ [[], ['\n'], ['\r', '\n']]) :
      IsOutletLine (indent ++ "@IBOutlet weak var " ++ name ++ ": " ++ type ++ "!" ++ ending)

theorem IsOutletLine.unclaimed {line : Text} (h : IsOutletLine line) (enumName : Text) :
    Unclaimed enumName line := by
  obtain @⟨indent, name, type, ending, hindent, hname, htype, hending⟩ := h
  have hblank : ∀ c, Text.isBlank c = false → c ∉ indent := by
    intro c hc hm
    rw [hindent c hm] at hc
    cases hc
  have hend : '(' ∉ ending ∧ '=' ∉ ending ∧ gapped 'm' ending = false ∧ ending.head? ≠ some ' ' := by
    simp only [List.mem_cons, List.not_mem_nil, or_false] at hending
    rcases hending with rfl | rfl | rfl <;> decide
  have hsign : ∀ c, Text.isBlank c = false → Naming.isWordChar c = false →
      c ∉ "@IBOutlet weak var : !".toList → c ∉ ending →
      c ∉ indent ++ "@IBOutlet weak var " ++ name ++ ": " ++ type ++ "!" ++ ending := by
    intro c hb hw hfixed he
    simp at hfixed
    simp [hblank c hb, hname.not_mem hw, htype.not_mem hw, he, hfixed]
  constructor
  · exact Text.occursIn_eq_false_of_not_mem (c := '(') (by decide)
      (hsign _ (by decide) (by decide) (by decide) hend.1)
  · exact Text.occursIn_eq_false_of_not_mem (c := '=') (by decide)
      (hsign _ (by decide) (by decide) (by decide) hend.2.1)
  · have hindent : gapped 'm' indent = false :=
      Text.gapped_of_letter_not_mem (hblank 'm' (by decide))
    have hname : gapped 'm' name = false := Text.gapped_of_not_mem (hname.not_mem (by decide))
    have htype : gapped 'm' type = false := Text.gapped_of_not_mem (htype.not_mem (by decide))
    refine declaresEnum_of_gapless ?_
    simp [Text.gapped_append, Text.gapped_cons, hindent, hname, htype, hend, gapped]

end Line

namespace Lines

theorem findIdx?_append_cons {p : Text → Bool} {front : Lines} {line : Text}
    (hf : ∀ other ∈ front, p other = false) (hl : p line = true) (back : Lines) :
    (front ++ line :: back).findIdx? p = some front.length := by
  rw [List.findIdx?_append, List.findIdx?_eq_none_iff.2 hf, List.findIdx?_cons, if_pos hl]
  simp

theorem mem_weave {gaps : Nat → Lines} {lines : Lines} {line : Text} (h : line ∈ weave gaps lines) :
    line ∈ lines ∨ ∃ gap, line ∈ gaps gap := by
  induction lines generalizing gaps with
  | nil => exact .inr ⟨0, h⟩
  | cons first lines ih =>
    rw [weave, List.mem_append, List.mem_cons] at h
    rcases h with h | rfl | h
    · exact .inr ⟨0, h⟩
    · exact .inl (by simp)
    · rcases ih h with h | ⟨gap, h⟩
      · exact .inl (by simp [h])
      · exact .inr ⟨gap + 1, h⟩

theorem outlets_subset_of_sublist {lines others : Lines} (h : lines.Sublist others) :
    lines.outlets ⊆ others.outlets :=
  ((h.filter _).filterMap _).subset

end Lines

namespace IdentifierSetter

open Identifiers
open Draft (row)
open Line (Mark.setter Mark.typealias Unclaimed)
open Lines (Ending withEnding weave terminateLast)
open Text (gapped lacks_space_iff)

/-! ## Files that a run extends -/

/-- A file by its parts: all up to the signature of the setter, what stands between the signature and
the enum of the given name, the declaration of that enum with a section comment under it, and the
rest. Above the signature a typealias names the enum, and no other line declares it. -/
structure Layout (enumName : Text) where
  above : Lines
  signature : Text
  body : Lines
  declaration : Text
  comment : Text
  rest : Lines
  unsigned : ∀ line ∈ above, Text.occursIn Mark.setter line = false
  signs : Text.occursIn Mark.setter signature = true
  named : above.typealiasTarget? = some enumName
  undeclared : ∀ line ∈ above ++ signature :: body, Line.declaresEnum enumName line = false
  declares : Line.declaresEnum enumName declaration = true
  comments : isSectionComment comment = true
  once : ∀ line ∈ comment :: rest, Line.declaresEnum enumName line = false

namespace Layout

variable {enumName : Text} (layout : Layout enumName)

def lines : Lines :=
  layout.above ++ layout.signature ::
    (layout.body ++ layout.declaration :: layout.comment :: layout.rest)

theorem setter?_lines : layout.lines.setter? = some layout.above.length := by
  have hkind : ∀ line, (Line.kind line == .setterSignature) = Text.occursIn Mark.setter line := by
    intro line
    rw [Bool.eq_iff_iff, beq_iff_eq, Line.kind_eq_setterSignature_iff]
  refine Lines.findIdx?_append_cons ?_ ?_ _
  · intro line hline
    rw [hkind, layout.unsigned line hline]
  · rw [hkind, layout.signs]

theorem existingEnumName_lines (variant : Variant) {className : Text}
    (h : Variant.freshEnumName className = enumName) :
    variant.existingEnumName className layout.lines.typealiasTarget? = enumName := by
  have hnamed : layout.lines.typealiasTarget? = some enumName := by
    have hnamed := layout.named
    rw [Lines.typealiasTarget?] at hnamed ⊢
    rw [lines, List.findSome?_append, hnamed, Option.some_or]
  unfold Variant.existingEnumName
  split
  · rw [hnamed, Option.getD_some]
  · exact h

theorem countP_lines : layout.lines.countP (Line.declaresEnum enumName) = 1 := by
  have hbefore : (layout.above ++ layout.signature :: layout.body).countP
      (Line.declaresEnum enumName) = 0 := by
    rw [List.countP_eq_zero]
    intro line hline
    simp [layout.undeclared line hline]
  have hafter : (layout.comment :: layout.rest).countP (Line.declaresEnum enumName) = 0 := by
    rw [List.countP_eq_zero]
    intro line hline
    simp [layout.once line hline]
  have hlines : layout.lines = (layout.above ++ layout.signature :: layout.body) ++
      layout.declaration :: (layout.comment :: layout.rest) := by
    simp [lines]
  rw [hlines, List.countP_append, List.countP_cons, hbefore, hafter, if_pos layout.declares]

/-- The file with bindings after the signature and cases after the section comment. -/
def extend (bindings cases : Lines)
    (hb : ∀ line ∈ bindings, Line.declaresEnum enumName line = false)
    (hc : ∀ line ∈ cases, Line.declaresEnum enumName line = false) : Layout enumName :=
  { layout with
    body := bindings ++ layout.body
    rest := cases ++ layout.rest
    undeclared := by
      have h := layout.undeclared
      simp only [List.forall_mem_append, List.forall_mem_cons] at h ⊢
      exact ⟨h.1, h.2.1, hb, h.2.2⟩
    once := by
      have h := layout.once
      simp only [List.forall_mem_append, List.forall_mem_cons] at h ⊢
      exact ⟨h.1, hc, h.2⟩ }

end Layout

/-- Cases go after the section comment of the enum. -/
theorem addCases_append {subject : Subject} {front rest : Lines} {declaration comment : Text}
    (hf : ∀ line ∈ front, Line.declaresEnum subject.enumName line = false)
    (hd : Line.declaresEnum subject.enumName declaration = true)
    (hc : isSectionComment comment = true) :
    addCases subject (front ++ declaration :: comment :: rest) =
      front ++ declaration :: comment :: ((caseLines subject).map
        (withEnding (Lines.ending (front ++ declaration :: comment :: rest))) ++ rest) := by
  have hplace : casesIndex (front ++ declaration :: comment :: rest) front.length =
      front.length + 2 := by
    simp [casesIndex, hc]
  have henum : Lines.enum? subject.enumName (front ++ declaration :: comment :: rest) =
      some front.length := Lines.findIdx?_append_cons hf hd _
  rw [addCases_of_some henum, hplace, Lines.insertBlock, List.take_length_add_append,
    List.drop_length_add_append]
  simp

/-! ## Lines without the word -/

theorem declaresEnum_map_withEnding {block : Lines} (h : ∀ line ∈ block, gapped 'm' line = false)
    (ending : Ending) (name : Text) :
    ∀ line ∈ block.map (withEnding ending), Line.declaresEnum name line = false := by
  rw [List.forall_mem_map]
  intro line hline
  refine Line.declaresEnum_of_gapless ?_
  rw [Text.gapped_withEnding, h line hline]

section Gapless

variable {subject : Subject} (h : subject.Lacks .space)
include h

theorem declaresEnum_map_bindings (ending : Ending) (name : Text) :
    ∀ line ∈ (subject.outlets.flatMap bindingLines).map (withEnding ending),
      Line.declaresEnum name line = false := by
  rw [List.forall_mem_map]
  exact declaresEnum_bindings (fun outlet hmem => lacks_space_iff.1 (h.outlets outlet hmem)) _ _

theorem gapless_caseLines : ∀ line ∈ caseLines subject, gapped 'm' line = false := by
  rw [caseLines_eq, List.forall_mem_map]
  intro case hcase
  have hname : gapped 'm' case = false :=
    Text.gapped_of_not_mem (lacks_space_iff.1 (h.of_mem_cases hcase))
  rw [caseRow, Text.gapped_row (by decide)]
  simp [Text.gapped_cons, hname, gapped]

end Gapless

/-! ## A run over a layout -/

section Run

variable {variant : Variant} {subject : Subject} {enumName : Text} (layout : Layout enumName)
  (hv : (run variant layout.lines subject).verdict = .completed)
include hv

theorem Layout.run_eq : run variant layout.lines subject =
    extendExisting variant { subject with outlets := wiredOutlets variant subject layout.lines }
      layout.lines layout.above.length := by
  have hs := layout.setter?_lines
  rcases run_cases variant layout.lines subject with ⟨-, hd⟩ | ⟨hnone, -⟩ | ⟨index, hindex, hrun⟩
  · exact absurd hv hd
  · rw [hs] at hnone
    cases hnone
  · rw [hs, Option.some.injEq] at hindex
    rw [hindex, hrun]

variable (hf : Variant.freshEnumName subject.className = enumName)
include hf

theorem Layout.enumName_run : (run variant layout.lines subject).subject.enumName = enumName := by
  rw [layout.run_eq hv]
  exact layout.existingEnumName_lines variant hf

variable (hc : ' ' ∉ subject.className)
include hc

theorem Layout.lacks_space_run : (run variant layout.lines subject).subject.Lacks .space where
  className := by
    rw [layout.run_eq hv]
    exact lacks_space_iff.2 hc
  enumName := by
    have hstem := mt (Naming.mem_of_mem_screenStem (c := ' ')) hc
    rw [layout.enumName_run hv hf, ← hf]
    exact lacks_space_iff.2 (by simp [Variant.freshEnumName, hstem])
  outlets := by
    rw [layout.run_eq hv]
    intro outlet hmem
    have hwired := (bindMissing_outlets_subset _ _ _).subset hmem
    exact lacks_space_iff.2 (not_mem_of_mem_wiredOutlets hc hwired)

/-- The bindings come right after the signature and the cases right after the section comment. Where
nothing is left to be bound there are neither. -/
theorem Layout.run_lines :
    let second := run variant layout.lines subject
    let added := fun rows : Lines => rows.map (withEnding layout.lines.ending)
    second.lines = layout.above ++ layout.signature ::
      (added (second.subject.outlets.flatMap bindingLines) ++ layout.body ++
        layout.declaration :: layout.comment ::
          (added (caseLines second.subject) ++ layout.rest)) := by
  intro second added
  by_cases hne : second.subject.outlets = []
  · have hcases : caseLines second.subject = [] := by
      have hgenerated : second.subject.alreadyGenerated = true := by
        simp only [second, layout.run_eq hv]
        rfl
      simp [caseLines_eq, Subject.cases, Subject.identifiesCell, hne, hgenerated]
    have hlines : second.lines = layout.lines := run_lines_of_outlets_nil hne
    simp [hlines, hcases, hne, added, Layout.lines]
  · have hlines : second.lines = addCases second.subject
        (layout.lines.insertBlock (layout.above.length + 1)
          (second.subject.outlets.flatMap bindingLines)) := by
      have hrun := layout.run_eq hv
      simp only [second, hrun] at hne ⊢
      exact extendExisting_lines layout.setter?_lines hne
    have hbound : layout.lines.insertBlock (layout.above.length + 1)
        (second.subject.outlets.flatMap bindingLines) =
          (layout.above ++ layout.signature ::
            ((second.subject.outlets.flatMap bindingLines).map (withEnding layout.lines.ending) ++
              layout.body)) ++ layout.declaration :: layout.comment :: layout.rest := by
      rw [Lines.insertBlock]
      generalize layout.lines.ending = ending
      rw [Layout.lines, List.take_length_add_append, List.drop_length_add_append]
      simp
    have hname : second.subject.enumName = enumName := layout.enumName_run hv hf
    have hfront : ∀ line ∈ layout.above ++ layout.signature ::
        ((second.subject.outlets.flatMap bindingLines).map (withEnding layout.lines.ending) ++
          layout.body), Line.declaresEnum second.subject.enumName line = false := by
      rw [hname]
      exact (layout.extend _ []
        (declaresEnum_map_bindings (layout.lacks_space_run hv hf hc) _ _) (by simp)).undeclared
    have hdeclares : Line.declaresEnum second.subject.enumName layout.declaration = true := by
      rw [hname]
      exact layout.declares
    have hending := Lines.ending_insertBlock layout.lines (layout.above.length + 1)
      (plain_head_bindings second.subject.outlets)
    rw [hlines, hbound, addCases_append hfront hdeclares layout.comments, ← hbound,
      hending]
    simp [added]

/-- A run leaves one declaration of the enum. -/
theorem Layout.countP_run :
    (run variant layout.lines subject).lines.countP (Line.declaresEnum enumName) = 1 := by
  have hlacks := layout.lacks_space_run hv hf hc
  rw [layout.run_lines hv hf hc]
  exact (layout.extend _ _ (declaresEnum_map_bindings hlacks _ _)
    (declaresEnum_map_withEnding (gapless_caseLines hlacks) _ _)).countP_lines

end Run

/-! ## What a fresh run leaves -/

theorem writeFresh_lines_eq (subject : Subject) (lines : Lines) :
    let fresh := (writeFresh subject lines).subject
    let closed := terminateLast lines.ending lines
    (writeFresh subject lines).lines =
      closed ++ (setterBlock fresh ++ enumBlock fresh).map (withEnding closed.ending) := by
  intro fresh closed
  let written := closed ++ (setterBlock fresh).map (withEnding closed.ending)
  have hwritten : lines.appendBlock (setterBlock fresh) = written := Lines.appendBlock_eq ..
  have hplain : ∀ line ∈ (setterBlock fresh).head?, Lines.Plain line := by
    intro line hline
    obtain rfl : row 0 [] = line := by simpa [setterBlock_eq, setterHead] using hline
    exact Lines.plain_row (by simp)
  have hending : written.ending = closed.ending := by
    rw [← hwritten]
    exact Lines.ending_insertBlock closed closed.length hplain
  have hlast : terminateLast written.ending written = written :=
    Lines.terminateLast_append_of_terminated _ _ (by simp [setterBlock_ne_nil])
      (Lines.Additions.terminated_map_withEnding (terminated_setterBlock fresh) _)
  calc (writeFresh subject lines).lines
      = (lines.appendBlock (setterBlock fresh)).appendBlock (enumBlock fresh) := rfl
    _ = written ++ (enumBlock fresh).map (withEnding closed.ending) := by
      rw [hwritten, Lines.appendBlock_eq, hlast, hending]
    _ = _ := by simp [written]

theorem trim_append_ending {name : Text} (hne : name ≠ [])
    (h : ∀ c ∈ name, Text.isBlank c = false) (ending : Ending) :
    Text.trim (name ++ ending.text) = name := by
  have hstart : Text.trimStart (name ++ ending.text) = name ++ ending.text := by
    obtain ⟨first, rest, rfl⟩ := List.exists_cons_of_ne_nil hne
    rw [Text.trimStart, List.cons_append, List.dropWhile_cons_of_neg (by simp [h first])]
  have hend : Text.trimEnd name = name := by
    obtain ⟨front, last, rfl⟩ := (List.eq_nil_or_concat' name).resolve_left hne
    simp [Text.trimEnd, Text.dropEndWhile, h last]
  rw [Text.trim, hstart, Text.trimEnd_append_ending, hend]

/-- The name is read back from the typealias that is written for it. -/
theorem typealiasTarget?_row {name : Text} (hne : name ≠ [])
    (h : ∀ c ∈ name, Text.isBlank c = false ∧ c ≠ '.') (ending : Ending) :
    Line.typealiasTarget? (withEnding ending (row 1 (Mark.typealias ++ name))) = some name := by
  have hreturn : '\r' ∉ Mark.typealias ++ name := by
    have hmark : '\r' ∉ Mark.typealias := by decide
    have hname : '\r' ∉ name := fun hm => absurd (h _ hm).1 (by decide)
    simp [hmark, hname]
  have hrow : withEnding ending (row 1 (Mark.typealias ++ name)) =
      ("\ttypealias UIElementType = " : Text) ++
        (("UIElements" : Text) ++ '.' :: (name ++ ending.text)) := by
    rw [Line.withEnding_row hreturn, typealias_eq]
    simp
  have hocc : Text.occursIn Mark.typealias (withEnding ending (row 1 (Mark.typealias ++ name))) =
      true := by
    rw [Line.withEnding_row hreturn, Text.occursIn_iff]
    exact ⟨['\t'], name ++ ending.text, by simp⟩
  have hdot : '.' ∉ name ++ ending.text := by
    have hname : '.' ∉ name := fun hm => (h _ hm).2 rfl
    have hending : '.' ∉ ending.text := by cases ending <;> decide
    simp [hname, hending]
  have hafter : Text.afterLast Line.Mark.elements
      (withEnding ending (row 1 (Mark.typealias ++ name))) = name ++ ending.text := by
    have hmark : Line.Mark.elements = ("UIElements" : Text) ++ ['.'] := by decide
    rw [hrow, hmark]
    exact Text.afterLast_append (by decide) hdot _
  rw [Line.typealiasTarget?, if_pos hocc, hafter,
    trim_append_ending hne (fun c hc => (h c hc).1)]
  simp [hne]

/-- The lines of the setter block before the signature. -/
def preamble (subject : Subject) : Lines :=
  [row 0 [],
    row 0 "// MARK: - UITestable",
    row 0 ("extension " ++ subject.className ++ ": UITestablePage \x7b"),
    row 1 (Mark.typealias ++ subject.enumName),
    row 0 []]

def interlude (subject : Subject) : Lines :=
  row 1 "\x7d" :: (cellRows subject ++
    [row 0 "\x7d", row 0 [], row 0 "public extension UIElements \x7b"])

section Fresh

variable {subject : Subject} (h : subject.Lacks .space)
include h

theorem gapless_extensionRow {letter : Char} (hl : letter ∈ ['c', 's', 'm']) :
    gapped letter (row 0 ("extension " ++ subject.className ++ ": UITestablePage \x7b")) = false := by
  have hclass : gapped letter subject.className = false :=
    Text.gapped_of_not_mem (lacks_space_iff.1 h.className)
  simp only [List.mem_cons, List.not_mem_nil, or_false] at hl
  rcases hl with rfl | rfl | rfl <;>
    simp [Text.gapped_row, Text.gapped_append, Text.gapped_cons, hclass, gapped]

theorem gapless_typealiasRow {letter : Char} (hl : letter ∈ ['c', 'm']) :
    gapped letter (row 1 (Mark.typealias ++ subject.enumName)) = false := by
  have hname : gapped letter subject.enumName = false :=
    Text.gapped_of_not_mem (lacks_space_iff.1 h.enumName)
  have hmark : ∀ letter ∈ ['c', 'm'], gapped letter Mark.typealias = false ∧
      Mark.typealias.getLast? ≠ some letter ∧ letter ≠ '\t' := by decide
  obtain ⟨hgapless, hlast, htab⟩ := hmark letter hl
  simp [Text.gapped_row htab, Text.gapped_append, hgapless, hlast, hname]

theorem gapless_preamble {letter : Char} (hl : letter ∈ ['c', 'm']) :
    ∀ line ∈ preamble subject, gapped letter line = false := by
  have hfixed : ∀ letter ∈ ['c', 'm'], gapped letter (row 0 []) = false ∧
      gapped letter (row 0 "// MARK: - UITestable") = false := by decide
  obtain ⟨hblank, hcomment⟩ := hfixed letter hl
  have hletter : letter ∈ ['c', 's', 'm'] := by
    revert letter
    decide
  unfold preamble
  rw [List.forall_mem_cons, List.forall_mem_cons, List.forall_mem_cons, List.forall_mem_cons,
    List.forall_mem_singleton]
  exact ⟨hblank, hcomment, gapless_extensionRow h hletter, gapless_typealiasRow h hl, hblank⟩

/-- Up to the enum, no line of what is written declares one. -/
theorem gapless_interlude : ∀ line ∈ interlude subject, gapped 'm' line = false := by
  have hcell : gapped 'm' subject.cellIdentifier = false :=
    Text.gapped_of_not_mem (lacks_space_iff.1 h.cellIdentifier)
  have hmark : gapped 'm' Line.Mark.binding = false := by decide
  have hrows : ∀ line ∈ cellRows subject, gapped 'm' line = false := by
    unfold cellRows
    split_ifs
    · simp only [List.forall_mem_cons, cellRow, Text.gapped_row (show 'm' ≠ '\t' by decide)]
      simp [Text.gapped_append, Text.gapped_cons, hcell, hmark, gapped]
    · simp
  rw [interlude, List.forall_mem_cons, List.forall_mem_append]
  exact ⟨by decide, hrows, by decide⟩

theorem setter_preamble (mark : Ending) :
    ∀ line ∈ (preamble subject).map (withEnding mark), Text.occursIn Mark.setter line = false := by
  rw [List.forall_mem_map]
  intro line hline
  refine Text.occursIn_of_gapless (show ['c', ' '] <:+: Mark.setter by decide) ?_
  rw [Text.gapped_withEnding, gapless_preamble h (by simp) line hline]

/-- The typealias is the first to name an enum. -/
theorem typealiasTarget?_preamble (hne : subject.enumName ≠ [])
    (hn : ∀ c ∈ subject.enumName, Text.isBlank c = false ∧ c ≠ '.') {above : Lines}
    (ha : ∀ line ∈ above, Text.occursIn Mark.typealias line = false) (mark : Ending) :
    (above ++ (preamble subject).map (withEnding mark)).typealiasTarget? =
      some subject.enumName := by
  have hnone : ∀ {line}, Text.occursIn Mark.typealias line = false →
      Line.typealiasTarget? line = none := by
    intro line hline
    simp [Line.typealiasTarget?, hline]
  have habove : above.findSome? Line.typealiasTarget? = none := by
    rw [List.findSome?_eq_none_iff]
    exact fun line hline => hnone (ha line hline)
  have hextension : Text.occursIn Mark.typealias (withEnding mark
      (row 0 ("extension " ++ subject.className ++ ": UITestablePage \x7b"))) = false := by
    refine Text.occursIn_of_gapless (show ['s', ' '] <:+: Mark.typealias by decide) ?_
    rw [Text.gapped_withEnding, gapless_extensionRow h (by simp)]
  have hfixed : Text.occursIn Mark.typealias (withEnding mark (row 0 [])) = false ∧
      Text.occursIn Mark.typealias (withEnding mark (row 0 "// MARK: - UITestable")) = false := by
    cases mark <;> decide
  rw [Lines.typealiasTarget?, List.findSome?_append, habove, Option.none_or, preamble]
  simp only [List.map_cons, List.findSome?_cons, hnone hfixed.1, hnone hfixed.2, hnone hextension,
    typealiasTarget?_row hne hn]

omit h in
theorem declaresEnum_enumRow (hn : ∀ c ∈ subject.enumName, Text.isBlank c = false ∧ c ≠ '.')
    (mark : Ending) : Line.declaresEnum subject.enumName
      (withEnding mark (row 1 ("enum " ++ subject.enumName ++ ": String, UIElement \x7b"))) = true := by
  have hunbroken : Lines.Unbroken subject.enumName :=
    ⟨fun hm => absurd (hn _ hm).1 (by decide), fun hm => absurd (hn _ hm).1 (by decide)⟩
  rw [(Line.ignoresEnding_declaresEnum hunbroken).on_withEnding, Line.declaresEnum,
    Text.occursIn_iff]
  exact ⟨['\t'], ", UIElement \x7b\n".toList, by simp [row]⟩

omit h in
theorem isSectionComment_row (text : Text) (mark : Ending) :
    isSectionComment (withEnding mark (row 2 ("// MARK: - " ++ text))) = true := by
  have hrow : ∀ rest : Text, isSectionComment (List.replicate 2 '\t' ++ ("// MARK: - " ++ rest)) =
      true := by
    intro rest
    simp [isSectionComment, Text.trimStart, Text.isBlank, List.isPrefixOf]
  rcases Lines.withEnding_eq mark (row 2 ("// MARK: - " ++ text)) with heq | ⟨front, hfront, heq⟩
  · rw [heq, row, List.append_assoc, List.append_assoc]
    exact hrow _
  · rw [row, List.append_left_inj] at hfront
    rw [heq, ← hfront, List.append_assoc, List.append_assoc]
    exact hrow _

theorem gapless_commentRow : gapped 'm' (row 2 ("// MARK: - " ++ subject.className)) = false := by
  have hclass : gapped 'm' subject.className = false :=
    Text.gapped_of_not_mem (lacks_space_iff.1 h.className)
  simp [Text.gapped_row, Text.gapped_cons, hclass, gapped]

/-- What a fresh run writes below lines that are not taken for anything in it. -/
def Layout.ofFresh (hne : subject.enumName ≠ [])
    (hn : ∀ c ∈ subject.enumName, Text.isBlank c = false ∧ c ≠ '.') {above : Lines}
    (ha : ∀ line ∈ above, Unclaimed subject.enumName line) (mark : Ending) :
    Layout subject.enumName where
  above := above ++ (preamble subject).map (withEnding mark)
  signature := withEnding mark (row 1 (Mark.setter ++ " \x7b"))
  body := (subject.outlets.flatMap bindingLines).map (withEnding mark) ++
    (interlude subject).map (withEnding mark)
  declaration := withEnding mark (row 1 ("enum " ++ subject.enumName ++ ": String, UIElement \x7b"))
  comment := withEnding mark (row 2 ("// MARK: - " ++ subject.className))
  rest := (caseLines subject ++ [row 1 "\x7d", row 0 "\x7d"]).map (withEnding mark)
  unsigned := List.forall_mem_append.2
    ⟨fun line hline => (ha line hline).setter, setter_preamble h mark⟩
  signs := by cases mark <;> decide
  named := typealiasTarget?_preamble h hne hn (fun line hline => (ha line hline).typealias) mark
  undeclared := by
    simp only [List.forall_mem_append, List.forall_mem_cons]
    refine ⟨⟨fun line hline => (ha line hline).enum, ?_⟩, ?_, ?_, ?_⟩
    · exact declaresEnum_map_withEnding (gapless_preamble h (by simp)) mark _
    · exact Line.declaresEnum_of_gapless (by rw [Text.gapped_withEnding]; decide)
    · exact declaresEnum_map_bindings h mark _
    · exact declaresEnum_map_withEnding (gapless_interlude h) mark _
  declares := declaresEnum_enumRow hn mark
  comments := isSectionComment_row _ mark
  once := by
    rw [← List.map_cons]
    refine declaresEnum_map_withEnding ?_ mark _
    rw [List.forall_mem_cons, List.forall_mem_append]
    exact ⟨gapless_commentRow h, gapless_caseLines h, by decide⟩

theorem Layout.lines_ofFresh (hne : subject.enumName ≠ [])
    (hn : ∀ c ∈ subject.enumName, Text.isBlank c = false ∧ c ≠ '.') {above : Lines}
    (ha : ∀ line ∈ above, Unclaimed subject.enumName line) (mark : Ending) :
    (ofFresh h hne hn ha mark).lines =
      above ++ (setterBlock subject ++ enumBlock subject).map (withEnding mark) := by
  simp [ofFresh, lines, setterBlock_eq, setterHead, enumBlock_eq, enumHead, preamble, interlude]

end Fresh

/-! ## The next run -/

theorem unclaimed_terminateLast {enumName : Text} (hn : Lines.Unbroken enumName) {lines : Lines}
    (h : ∀ line ∈ lines, Unclaimed enumName line) (ending : Ending) :
    ∀ line ∈ terminateLast ending lines, Unclaimed enumName line := by
  induction lines using List.reverseRecOn with
  | nil => exact h
  | append_singleton lines last =>
    rw [List.forall_mem_append, List.forall_mem_singleton] at h
    rw [Lines.terminateLast_concat, List.forall_mem_append, List.forall_mem_singleton]
    exact ⟨h.1, h.2.closed hn ending⟩

/-- The enum of a class whose name can be read back has such a name too. -/
theorem readable_freshEnumName {className : Text}
    (h : ∀ c ∈ className, Text.isBlank c = false ∧ c ≠ '.') :
    ∀ c ∈ Variant.freshEnumName className, Text.isBlank c = false ∧ c ≠ '.' := by
  have hfixed : ∀ c ∈ "AccessibilityIdentifier".toList, Text.isBlank c = false ∧ c ≠ '.' := by
    decide
  rw [Variant.freshEnumName, List.forall_mem_append]
  exact ⟨fun c hc => h c (Naming.mem_of_mem_screenStem hc), hfixed⟩

section Next

variable {variant : Variant} {lines : Lines} {subject later : Subject} {gaps : Nat → Lines}
  (hclass : ∀ c ∈ subject.className, Text.isBlank c = false ∧ c ≠ '.')
  (hs : lines.setter? = none)
  (ht : ∀ line ∈ lines, Text.occursIn Mark.typealias line = false)
  (he : lines.enum? (Variant.freshEnumName subject.className) = none)
  (hfirst : (run variant lines subject).verdict = .completed)
  (hgaps : ∀ gap, ∀ line ∈ gaps gap, Line.IsOutletLine line)

theorem run_of_completed (hs : lines.setter? = none)
    (hfirst : (run variant lines subject).verdict = .completed) :
    run variant lines subject =
      writeFresh { subject with outlets := wiredOutlets variant subject lines } lines := by
  rcases run_cases variant lines subject with ⟨-, hd⟩ | ⟨-, hrun⟩ | ⟨index, hindex, -⟩
  · exact absurd hfirst hd
  · exact hrun
  · rw [hs] at hindex
    cases hindex

include hclass in
theorem lacks_space_writeFresh :
    (writeFresh { subject with outlets := wiredOutlets variant subject lines }
      lines).subject.Lacks .space where
  className := lacks_space_iff.2 fun hm => absurd (hclass _ hm).1 (by decide)
  enumName := lacks_space_iff.2 fun hm =>
    absurd (readable_freshEnumName hclass _ hm).1 (by decide)
  outlets outlet hmem := lacks_space_iff.2
    (not_mem_of_mem_wiredOutlets (fun hm => absurd (hclass _ hm).1 (by decide)) hmem)

include hclass hs ht he hgaps in
theorem unclaimed_weave :
    ∀ line ∈ weave gaps (terminateLast lines.ending lines),
      Unclaimed (Variant.freshEnumName subject.className) line := by
  have hname := readable_freshEnumName hclass
  have hunbroken : Lines.Unbroken (Variant.freshEnumName subject.className) :=
    ⟨fun hm => absurd (hname _ hm).1 (by decide), fun hm => absurd (hname _ hm).1 (by decide)⟩
  have hlines : ∀ line ∈ lines, Unclaimed (Variant.freshEnumName subject.className) line := by
    intro line hline
    rw [Lines.setter?_eq_none_iff, List.countP_eq_zero] at hs
    rw [Lines.enum?, List.findIdx?_eq_none_iff] at he
    exact ⟨by simpa using hs line hline, ht line hline, he line hline⟩
  intro line hline
  rcases Lines.mem_weave hline with hline | ⟨gap, hline⟩
  · exact unclaimed_terminateLast hunbroken hlines _ line hline
  · exact (hgaps gap line hline).unclaimed _

/-- A run that completed had a class and outlets to wire. -/
theorem wired_of_completed (hfirst : (run variant lines subject).verdict = .completed) :
    subject.hasClass = true ∧ wiredOutlets variant subject lines ≠ [] := by
  have hc : subject.hasClass = true := by
    by_contra hc
    rw [Bool.not_eq_true] at hc
    simp [run, runM, hc] at hfirst
  refine ⟨hc, fun hw => ?_⟩
  rw [run_of_wiredOutlets_nil hc hw] at hfirst
  cases hfirst

include hfirst in
/-- More lines and more outlets do not make a run decline. -/
theorem completed_of_outlets_subset {others : Lines} (ho : lines.outlets ⊆ others.outlets)
    (hname : later.className = subject.className) (hkind : later.viewKind = subject.viewKind) :
    (run variant others later).verdict = .completed := by
  obtain ⟨hc, hw⟩ := wired_of_completed hfirst
  have hclass : later.hasClass = true := by
    rw [Subject.hasClass, hname]
    exact hc
  have hwired : wiredOutlets variant later others ≠ [] := by
    intro hnil
    have hsubset : wiredOutlets variant later lines ⊆ wiredOutlets variant later others :=
      wiredOutlets_subset ho
    rw [hnil, wiredOutlets_congr hname hkind rfl] at hsubset
    exact hw (List.eq_nil_of_subset_nil hsubset)
  cases hsetter : others.setter? with
  | none =>
    rw [run_of_setter_none hclass hwired hsetter]
    rfl
  | some index =>
    rw [run_of_setter_some hclass hwired hsetter]
    rfl

include hs hfirst in
/-- A fresh run terminates the last line and appends its two blocks. -/
theorem lines_of_fresh_run :
    let fresh := (writeFresh { subject with outlets := wiredOutlets variant subject lines }
      lines).subject
    let closed := terminateLast lines.ending lines
    (run variant lines subject).lines.take lines.length = closed ∧
      (run variant lines subject).lines.drop lines.length =
        (setterBlock fresh ++ enumBlock fresh).map (withEnding closed.ending) := by
  intro fresh closed
  have hlines : (run variant lines subject).lines =
      closed ++ (setterBlock fresh ++ enumBlock fresh).map (withEnding closed.ending) := by
    rw [run_of_completed hs hfirst]
    exact writeFresh_lines_eq _ _
  have hlength : closed.length = lines.length := Lines.length_terminateLast _ _
  rw [hlines, ← hlength]
  exact ⟨List.take_left, List.drop_left⟩

include hclass hs ht he hfirst hgaps in
/-- With outlets declared above it, what a fresh run has written is a layout of its enum. -/
theorem exists_layout :
    let enumName := Variant.freshEnumName subject.className
    let first := run variant lines subject
    let above := weave gaps (first.lines.take lines.length)
    ∃ (layout : Layout enumName) (mark : Ending) (between : Lines),
      layout.lines = above ++ first.lines.drop lines.length ∧ layout.above = above ++ between ∧
        [layout.declaration, layout.comment] =
          [row 1 ("enum " ++ enumName ++ ": String, UIElement \x7b"),
            row 2 ("// MARK: - " ++ subject.className)].map (withEnding mark) := by
  intro enumName first above
  let fresh := (writeFresh { subject with outlets := wiredOutlets variant subject lines }
    lines).subject
  let closed := terminateLast lines.ending lines
  obtain ⟨htake, hdrop⟩ := lines_of_fresh_run hs hfirst
  have hne : fresh.enumName ≠ [] := by
    simp [fresh, writeFresh, writeFreshM, Variant.freshEnumName]
  let layout : Layout enumName := Layout.ofFresh (lacks_space_writeFresh hclass) hne
    (readable_freshEnumName hclass) (unclaimed_weave hclass hs ht he hgaps) closed.ending
  refine ⟨layout, closed.ending, (preamble fresh).map (withEnding closed.ending), ?_, ?_, rfl⟩
  · simp only [above, first, htake, hdrop]
    exact Layout.lines_ofFresh ..
  · simp only [above, first, htake]
    rfl

end Next

/-- Outlets are declared above what a fresh run has written. The next run for the class takes the
enum of the fresh run for its own, and puts its cases right after the section comment of that enum,
so that there is one enum still. It completes if the class is of the same kind as before. -/
theorem next_run_extends_fresh_enum {variant : Variant} {lines : Lines} {subject later : Subject}
    {gaps : Nat → Lines} (hclass : ∀ c ∈ subject.className, Text.isBlank c = false ∧ c ≠ '.')
    (hs : lines.setter? = none) (ht : ∀ line ∈ lines, Text.occursIn Mark.typealias line = false)
    (he : lines.enum? (Variant.freshEnumName subject.className) = none)
    (hfirst : (run variant lines subject).verdict = .completed)
    (hgaps : ∀ gap, ∀ line ∈ gaps gap, Line.IsOutletLine line)
    (hname : later.className = subject.className) :
    let enumName := Variant.freshEnumName subject.className
    let first := run variant lines subject
    let above := weave gaps (first.lines.take lines.length)
    let block := first.lines.drop lines.length
    let second := run variant (above ++ block) later
    (later.viewKind = subject.viewKind → second.verdict = .completed) ∧
      (second.verdict = .completed →
        second.subject.enumName = enumName ∧
        second.lines.countP (Line.declaresEnum enumName) = 1 ∧
        ∃ (mark : Ending) (head body rest : Lines),
          let opening := [row 1 ("enum " ++ enumName ++ ": String, UIElement \x7b"),
            row 2 ("// MARK: - " ++ subject.className)].map (withEnding mark)
          let added := fun rows : Lines => rows.map (withEnding (above ++ block).ending)
          block = head ++ body ++ opening ++ rest ∧
            second.lines = above ++ head ++ added (second.subject.outlets.flatMap bindingLines) ++
              body ++ opening ++ added (caseLines second.subject) ++ rest) := by
  intro enumName first above block second
  obtain ⟨layout, mark, between, hlayout, habove, hopening⟩ :=
    exists_layout hclass hs ht he hfirst hgaps
  have hsecond : second = run variant layout.lines later := by
    rw [hlayout]
  constructor
  · intro hkind
    have houtlets : lines.outlets ⊆ (above ++ block).outlets := by
      rw [← Lines.outlets_terminateLast lines.ending lines]
      refine Lines.outlets_subset_of_sublist (List.Sublist.trans ?_ (List.sublist_append_left ..))
      simp only [above, first, (lines_of_fresh_run hs hfirst).1]
      exact Lines.sublist_weave _ _
    exact completed_of_outlets_subset hfirst houtlets hname hkind
  · intro hv
    rw [hsecond] at hv
    have hfresh : Variant.freshEnumName later.className = enumName := by rw [hname]
    have hspace : ' ' ∉ later.className := by
      rw [hname]
      exact fun hm => absurd (hclass _ hm).1 (by decide)
    have hblock : block = between ++ [layout.signature] ++ layout.body ++
        [layout.declaration, layout.comment] ++ layout.rest := by
      have happend := hlayout
      rw [Layout.lines, habove, List.append_assoc, List.append_cancel_left_eq] at happend
      simp [← happend, block, first]
    have hcount := layout.countP_run hv hfresh hspace
    have hextended := layout.run_lines hv hfresh hspace
    rw [← hsecond] at hcount
    rw [← hsecond, hlayout, habove] at hextended
    refine ⟨hsecond ▸ layout.enumName_run hv hfresh, hcount, mark, between ++ [layout.signature],
      layout.body, layout.rest, ?_⟩
    rw [← hopening]
    refine ⟨hblock, ?_⟩
    rw [hextended]
    simp only [List.append_assoc, List.cons_append, List.nil_append]
    rfl

/-- A button is declared in a wired cell, and the cell is wired again. -/
theorem next_run_extends_fresh_enum_cell :
    let subject : Subject := { className := "RowCell", viewKind := .cell }
    let lines : Lines := ["class RowCell: UITableViewCell \x7b\n",
      "\t@IBOutlet weak var bar: UISearchBar!\n", "\x7d"]
    let first := run .dev lines subject
    let gaps := Lines.only 2 ["    @IBOutlet weak var done: UIButton!\r\n"]
    let second := run .dev (weave gaps (first.lines.take lines.length) ++
      first.lines.drop lines.length) subject
    first.verdict = .completed ∧ second.verdict = .completed ∧
      second.subject.outlets = [⟨"done", "UIButton"⟩] ∧
      second.subject.enumName = Variant.freshEnumName subject.className ∧
      second.lines.countP (Line.declaresEnum (Variant.freshEnumName subject.className)) = 1 := by
  intro subject lines first gaps second
  have hgaps : ∀ gap, ∀ line ∈ gaps gap, Line.IsOutletLine line := by
    intro gap line hline
    obtain rfl := List.mem_singleton.1 (mem_only hline)
    exact @Line.IsOutletLine.intro "    " "done" "UIButton" "\r\n" (by decide) (by decide)
      (by decide) (by decide)
  have hfirst : first.verdict = .completed := by decide
  have hwired : second.subject.outlets = [⟨"done", "UIButton"⟩] := by decide
  obtain ⟨hcompleted, hextends⟩ := @next_run_extends_fresh_enum .dev lines subject subject gaps
    (by decide) (by decide) (by decide) (by decide) hfirst hgaps rfl
  obtain ⟨hname, hcount, -⟩ := hextends (hcompleted rfl)
  refine ⟨hfirst, hcompleted rfl, hwired, ?_, ?_⟩
  · simpa only [second, first] using hname
  · simpa only [second, first] using hcount

end IdentifierSetter

end OutletWiring

import OutletWiring.Page.Element
import OutletWiring.Proofs.Line.Citation
import OutletWiring.Proofs.Naming

/-!
# The outline of a page object

A page object is text. What it declares is read off its lines, one line at a time: a keyword in
front says that a line opens a type, an extension or a member, and the words after the name give the
type of a member (`Entry.read`). The outline of the lines is what they declare, in order. Since only
the value of an element is looked for in the next line, blocks that are laid out one after the other
have their outlines one after the other (`Outlined`).
-/

namespace OutletWiring

open Draft (Step row)
open Naming (IsFragment isWordChar)

/-! ## Words of a line -/

namespace Line

/-- The line without its indentation and its newline. -/
def flat (line : Text) : Text :=
  line.filter fun c => c != '\t' && c != '\n'

def tokens (line : Text) : List Text :=
  Text.words (flat line)

/-- What an identifier at the start of the text holds. -/
def nameOf (text : Text) : Text :=
  text.takeWhile isWordChar

@[simp] theorem flat_append (a b : Text) : flat (a ++ b) = flat a ++ flat b :=
  List.filter_append a b

theorem flat_row (level : Nat) (text : Text) : flat (row level text) = flat text := by
  have htabs : flat (List.replicate level '\t') = [] := by
    rw [flat, List.filter_replicate_of_neg (by decide)]
  have hend : flat ['\n'] = [] := by decide
  rw [row, flat_append, flat_append, htabs, hend, List.nil_append, List.append_nil]

theorem tokens_row (level : Nat) (text : Text) : tokens (row level text) = tokens text := by
  rw [tokens, flat_row, tokens]

theorem flat_of_isFragment {name : Text} (h : IsFragment name) : flat name = name := by
  refine List.filter_eq_self.2 fun c hc => ?_
  have hword := h c hc
  rw [Bool.and_eq_true, bne_iff_ne, bne_iff_ne]
  constructor
  · rintro rfl
    exact absurd hword (by decide)
  · rintro rfl
    exact absurd hword (by decide)

theorem space_not_mem_of_isFragment {name : Text} (h : IsFragment name) : ' ' ∉ name :=
  fun hm => absurd (h ' ' hm) (by decide)

/-- The text is no part of the identifier that stands before it. -/
def Ends : Text → Prop
  | [] => True
  | c :: _ => isWordChar c = false

instance : DecidablePred Ends
  | [] => inferInstanceAs (Decidable True)
  | c :: _ => inferInstanceAs (Decidable (isWordChar c = false))

theorem nameOf_append {name tail : Text} (h : IsFragment name) (ht : Ends tail) :
    nameOf (name ++ tail) = name := by
  rw [nameOf, List.takeWhile_append_of_pos h]
  cases tail with
  | nil => simp
  | cons c tail =>
    have hc : isWordChar c = false := ht
    rw [List.takeWhile_cons_of_neg (by simp [hc]), List.append_nil]

theorem tokens_append_of_space {lead : Text} (h : lead.getLast? = some ' ') (text : Text) :
    tokens (lead ++ text) = tokens lead ++ tokens text := by
  obtain ⟨front, rfl⟩ := List.getLast?_eq_some_iff.1 h
  have hspace : flat [' '] = ' ' :: [] := by decide
  rw [tokens, tokens, tokens, flat_append, flat_append, hspace, Text.words_append_space,
    List.append_assoc, List.cons_append, List.nil_append, Text.words_append_space, Text.words_nil,
    List.append_nil]

/-- A name is a word of its own together with the marks that follow it up to a space. -/
theorem tokens_named {name mark : Text} (hn : IsFragment name) (hm : flat mark = mark ∧ ' ' ∉ mark)
    (hne : name ++ mark ≠ []) (more : Text) :
    tokens (name ++ (mark ++ ' ' :: more)) = (name ++ mark) :: tokens more := by
  have hspace : ' ' ∉ name ++ mark := by
    simp [space_not_mem_of_isFragment hn, hm.2]
  have hflat : flat (name ++ (mark ++ ' ' :: more)) = (name ++ mark) ++ ' ' :: flat more := by
    have hcons : flat (' ' :: more) = ' ' :: flat more := rfl
    rw [flat_append, flat_append, hcons, flat_of_isFragment hn, hm.1, List.append_assoc]
  rw [tokens, hflat, Text.words_append_space, Text.words_of_not_mem hspace hne]
  rfl

/-- The first word holds each character before the first space. -/
theorem tokens_of_mem {front : Text} {c : Char} (hf : ' ' ∉ front) (hc : c ≠ ' ' ∧ flat [c] = [c])
    (rest : Text) : ∃ word others, tokens (front ++ c :: rest) = word :: others ∧ c ∈ word := by
  have hfront : ' ' ∉ flat front ++ [c] := by
    have hflat : ' ' ∉ flat front := fun hm => hf (List.mem_of_mem_filter hm)
    simp [hflat, hc.1.symm]
  obtain ⟨next, pieces, -, hsplit⟩ := Text.split_not_mem_append hfront (flat rest)
  have hflat : flat (front ++ c :: rest) = flat front ++ [c] ++ flat rest := by
    rw [flat_append, ← List.singleton_append (l := rest), flat_append, hc.2, List.append_assoc]
  refine ⟨flat front ++ [c] ++ next, pieces.filter (!·.isEmpty), ?_, by simp⟩
  rw [tokens, hflat, Text.words, hsplit, List.filter_cons_of_pos (by simp)]

end Line

namespace Page

open Line (cited nameOf tokens)

/-! ## Declarations -/

inductive Form where
  | property
  | function
  | stored
  deriving DecidableEq

/-- A property or a function, with the words of its type. -/
structure Member where
  form : Form
  name : Text
  type : List Text
  deriving DecidableEq

inductive Entry where
  /-- It opens a protocol or a class. -/
  | type (name : Text)
  | extension (name : Text)
  /-- It declares a member without a body. -/
  | required (member : Member)
  /-- It opens the body of a member. -/
  | defined (member : Member)
  /-- It declares a member with its value. -/
  | stored (name line : Text)
  | other (line : Text)
  deriving DecidableEq

namespace Entry

/-- Words that can stand before the keyword of a declaration. -/
def modifiers : List Text := ["public", "private", "final", "lazy"]

/-- A member, defined if its declaration ends in a brace. -/
def ofMember (member : Member) (words : List Text) : Entry :=
  if words.getLast? = some "\x7b".toList then defined member else required member

def typeOf (words : List Text) : List Text :=
  words.takeWhile (· != "\x7b".toList)

/-- What a keyword declares of a name, by the words that follow. -/
def ofKeyword (line keyword name : Text) (rest : List Text) : Entry :=
  if keyword = "protocol" ∨ keyword = "class" then type name
  else if keyword = "extension" then extension name
  else if keyword = "var" then
    if rest.head? = some "=".toList then stored name line
    else ofMember ⟨.property, name, typeOf rest⟩ rest
  else if keyword = "func" then
    ofMember ⟨.function, name, typeOf ((rest.dropWhile (· != "->".toList)).drop 1)⟩ rest
  else other line

def ofWords (line : Text) : List Text → Entry
  | keyword :: word :: rest => ofKeyword line keyword (nameOf word) rest
  | _ => other line

def read (line : Text) : Entry :=
  ofWords line ((tokens line).dropWhile modifiers.contains)

/-- The text holds a keyword, possibly after modifiers, and ends in a space. -/
def Leads (lead keyword : Text) : Prop :=
  lead.getLast? = some ' ' ∧ (tokens lead).dropWhile modifiers.contains = [keyword]

instance (lead keyword : Text) : Decidable (Leads lead keyword) :=
  inferInstanceAs (Decidable (_ ∧ _))

variable {level : Nat} {lead keyword name tail : Text}

theorem read_named (hl : Leads lead keyword) (hn : IsFragment name) (mark more : Text)
    (ht : tail = mark ++ ' ' :: more) (hm : Line.flat mark = mark ∧ ' ' ∉ mark ∧ Line.Ends mark)
    (hne : name ++ mark ≠ []) :
    read (row level (lead ++ name ++ tail)) =
      ofKeyword (row level (lead ++ name ++ tail)) keyword name (tokens more) := by
  have htokens : tokens (lead ++ name ++ tail) = tokens lead ++ (name ++ mark) :: tokens more := by
    rw [ht, List.append_assoc, Line.tokens_append_of_space hl.1,
      Line.tokens_named hn ⟨hm.1, hm.2.1⟩ hne]
  have hdrop : (tokens lead ++ (name ++ mark) :: tokens more).dropWhile modifiers.contains =
      keyword :: (name ++ mark) :: tokens more := by
    rw [List.dropWhile_append, hl.2]
    rfl
  rw [read, Line.tokens_row, htokens, hdrop, ofWords, Line.nameOf_append hn hm.2.2]

/-- A first word that is not all lower case letters is no keyword. -/
theorem read_of_sign {front : Text} {c : Char} (hf : ' ' ∉ front)
    (hc : c ≠ ' ' ∧ Line.flat [c] = [c] ∧ c.isLower = false) (spaces : Nat) (rest : Text) :
    read (row level (List.replicate spaces ' ' ++ (front ++ c :: rest))) =
      other (row level (List.replicate spaces ' ' ++ (front ++ c :: rest))) := by
  obtain ⟨word, others, hword, hmem⟩ := Line.tokens_of_mem hf ⟨hc.1, hc.2.1⟩ rest
  have htokens : tokens (List.replicate spaces ' ' ++ (front ++ c :: rest)) = word :: others := by
    have hspaces : Line.flat (List.replicate spaces ' ') = List.replicate spaces ' ' := by
      rw [Line.flat, List.filter_replicate_of_pos (by decide)]
    rw [← hword, tokens, Line.flat_append, hspaces, Text.words_replicate_append, tokens]
  have hlower : ∀ text ∈ modifiers ++ ["protocol".toList, "class".toList, "extension".toList,
      "var".toList, "func".toList], word ≠ text := by
    have hall : ∀ text ∈ modifiers ++ ["protocol".toList, "class".toList, "extension".toList,
        "var".toList, "func".toList], ∀ x ∈ text, x.isLower = true := by
      decide
    rintro text htext rfl
    have := hall word htext c hmem
    rw [hc.2.2] at this
    cases this
  rw [List.forall_mem_append] at hlower
  have hnot : word ∉ modifiers := fun hm => hlower.1 word hm rfl
  simp only [List.forall_mem_cons] at hlower
  obtain ⟨-, hprotocol, hclass, hextension, hvar, hfunc, -⟩ := hlower
  rw [read, Line.tokens_row, htokens, List.dropWhile_cons_of_neg (by simp [hnot])]
  cases others with
  | nil => rfl
  | cons next others =>
    rw [ofWords, ofKeyword, if_neg (not_or.2 ⟨hprotocol, hclass⟩), if_neg hextension, if_neg hvar,
      if_neg hfunc]

end Entry

/-! ## Outlines -/

/-- An element of a page object, with the cases that its value cites. -/
structure Element where
  form : Form
  name : Text
  cases : List Citation
  deriving DecidableEq

def elementType : List Text := ["XCUIElement"]

/-- What the lines of a page object declare. -/
@[ext]
structure Outline where
  types : List Text := []
  extensions : List Text := []
  required : List Member := []
  defined : List Member := []
  elements : List Element := []
  deriving DecidableEq

/-- The cases that a line without a declaration cites. -/
def Entry.cited : Entry → List Citation
  | other line => Line.cited line
  | _ => []

/-- What one line declares. The value of an element that is defined stands in the next line. -/
def Entry.outline (next? : Option Entry) : Entry → Outline
  | type name => { types := [name] }
  | extension name => { extensions := [name] }
  | required member => { required := [member] }
  | defined member =>
    { defined := [member]
      elements := if member.type = elementType then
        [⟨member.form, member.name, next?.elim [] Entry.cited⟩] else [] }
  | stored name line => { elements := [⟨.stored, name, Line.cited line⟩] }
  | other _ => {}

namespace Outline

instance : Append Outline where
  append a b := {
    types := a.types ++ b.types
    extensions := a.extensions ++ b.extensions
    required := a.required ++ b.required
    defined := a.defined ++ b.defined
    elements := a.elements ++ b.elements }

section Append

variable (a b c : Outline)

@[simp] theorem append_types : (a ++ b).types = a.types ++ b.types := rfl
@[simp] theorem append_extensions : (a ++ b).extensions = a.extensions ++ b.extensions := rfl
@[simp] theorem append_required : (a ++ b).required = a.required ++ b.required := rfl
@[simp] theorem append_defined : (a ++ b).defined = a.defined ++ b.defined := rfl
@[simp] theorem append_elements : (a ++ b).elements = a.elements ++ b.elements := rfl

theorem append_assoc : a ++ b ++ c = a ++ (b ++ c) := by
  simp [Outline.ext_iff]

@[simp] theorem empty_append : ({} : Outline) ++ a = a := by
  simp [Outline.ext_iff]

@[simp] theorem append_empty : a ++ ({} : Outline) = a := by
  simp [Outline.ext_iff]

end Append

def concat (outlines : List Outline) : Outline where
  types := outlines.flatMap types
  extensions := outlines.flatMap extensions
  required := outlines.flatMap required
  defined := outlines.flatMap defined
  elements := outlines.flatMap elements

def ofEntries : List Entry → Outline
  | [] => {}
  | entry :: entries => entry.outline entries.head? ++ ofEntries entries

def ofLines (lines : Lines) : Outline :=
  ofEntries (lines.map Entry.read)

end Outline

open Outline (ofEntries ofLines)

/-- The steps lay out rows with this outline, whatever follows. -/
structure Outlined (steps : List Step) (outline : Outline) : Prop where
  whole : ∀ step ∈ steps, step.whole = true
  outline_append : ∀ entries, ofEntries ((steps.flatMap Step.rows).map Entry.read ++ entries) =
    outline ++ ofEntries entries

/-- The step lays out rows that declare nothing. -/
structure Mute (step : Step) : Prop where
  whole : step.whole = true
  read_eq : ∀ line ∈ step.rows, Entry.read line = .other line

section Outlined

variable {steps front back : List Step} {outline first second : Outline}

theorem Outlined.compose (h : Outlined steps outline) : ofLines (Draft.compose steps) = outline := by
  have hall := h.outline_append []
  rw [List.append_nil] at hall
  rw [ofLines, Draft.compose_eq_flatMap_rows h.whole, hall]
  exact Outline.append_empty outline

theorem outlined_nil : Outlined [] {} :=
  ⟨by simp, fun entries => (Outline.empty_append _).symm⟩

theorem Outlined.append (hf : Outlined front first) (hb : Outlined back second) :
    Outlined (front ++ back) (first ++ second) := by
  refine ⟨List.forall_mem_append.2 ⟨hf.whole, hb.whole⟩, fun entries => ?_⟩
  rw [List.flatMap_append, List.map_append, List.append_assoc, hf.outline_append,
    hb.outline_append, Outline.append_assoc]

theorem Outlined.of_eq (h : Outlined steps first) (heq : first = second) : Outlined steps second :=
  heq ▸ h

theorem Outlined.mute_append (hf : Outlined front {}) (hb : Outlined back outline) :
    Outlined (front ++ back) outline :=
  (hf.append hb).of_eq (Outline.empty_append outline)

theorem Outlined.append_mute (hf : Outlined front outline) (hb : Outlined back {}) :
    Outlined (front ++ back) outline :=
  (hf.append hb).of_eq (Outline.append_empty outline)

theorem outlined_line {level : Nat} {text : Text} {entry : Entry}
    (h : Entry.read (row level text) = entry) (ho : ∀ next?, entry.outline next? = outline) :
    Outlined [.line level text] outline :=
  ⟨by simp [Step.whole], fun entries => by simp [Step.rows, ofEntries, h, ho]⟩

theorem outlined_mute (h : ∀ step ∈ steps, Mute step) : Outlined steps {} := by
  refine ⟨fun step hstep => (h step hstep).whole, fun entries => ?_⟩
  have hread : ∀ line ∈ steps.flatMap Step.rows, Entry.read line = .other line := by
    intro line hline
    obtain ⟨step, hstep, hline⟩ := List.mem_flatMap.1 hline
    exact (h step hstep).read_eq line hline
  generalize steps.flatMap Step.rows = lines at hread
  induction lines with
  | nil => exact (Outline.empty_append _).symm
  | cons line lines ih =>
    rw [List.forall_mem_cons] at hread
    rw [List.map_cons, List.cons_append, ofEntries, ih hread.2, hread.1]
    rfl

/-- An element, its value and the closing brace. -/
theorem outlined_element {opening value name : Text} {form : Form} {citations : List Citation}
    (ho : Entry.read (row 1 opening) = .defined ⟨form, name, elementType⟩)
    (hv : Entry.read (row 2 value) = .other (row 2 value))
    (hc : Line.cited (row 2 value) = citations) :
    Outlined [.line 1 opening, .line 2 value, .line 1 "\x7d"]
      { defined := [⟨form, name, elementType⟩]
        elements := [⟨form, name, citations⟩] } := by
  have hclose : Entry.read (row 1 "\x7d") = .other (row 1 "\x7d") := by decide
  refine ⟨by simp [Step.whole], fun entries => ?_⟩
  simp only [List.flatMap_cons, List.flatMap_nil, Step.rows, List.map_cons, List.map_nil,
    List.cons_append, List.nil_append, ho, hv, hclose, ofEntries]
  simp [Entry.outline, Entry.cited, hc]

variable {α : Type} {items : List α} {block : α → List Step} {outlineOf : α → Outline}

theorem outlined_flatMap (h : ∀ item ∈ items, Outlined (block item) (outlineOf item)) :
    Outlined (items.flatMap block) (.concat (items.map outlineOf)) := by
  induction items with
  | nil => exact outlined_nil
  | cons item items ih =>
    rw [List.forall_mem_cons] at h
    exact h.1.append (ih h.2)

theorem mute_blank : Mute .blank :=
  ⟨rfl, by simp only [Step.rows, List.forall_mem_singleton]; decide⟩

theorem outlined_blank : Outlined [.blank] {} :=
  outlined_mute (List.forall_mem_singleton.2 mute_blank)

theorem mute_line {level : Nat} {text : Text}
    (h : Entry.read (row level text) = .other (row level text)) : Mute (.line level text) :=
  ⟨rfl, by simpa only [Step.rows, List.forall_mem_singleton] using h⟩

theorem outlined_separated (h : ∀ item ∈ items, Outlined (block item) (outlineOf item)) :
    Outlined (separated (items.map block)) (.concat (items.map outlineOf)) := by
  induction items with
  | nil => exact outlined_nil
  | cons item items ih =>
    rw [List.forall_mem_cons] at h
    cases items with
    | nil =>
      have hall := h.1.append outlined_nil
      rw [List.append_nil] at hall
      exact hall
    | cons next items => exact h.1.append (outlined_blank.mute_append (ih h.2))

end Outlined

/-! ## Protocol and implementation -/

def closesType (line : Text) : Bool :=
  line == row 0 "\x7d"

/-- The lines of the type that a page object declares first. -/
def firstType (page : Lines) : Lines :=
  page.takeWhile (!closesType ·)

def afterFirstType (page : Lines) : Lines :=
  page.dropWhile (!closesType ·)

/-- The step lays out no row that closes a type. -/
def Inside (step : Step) : Prop :=
  ∀ line ∈ step.rows, closesType line = false

theorem inside_blank : Inside .blank :=
  List.forall_mem_singleton.2 (by decide)

theorem inside_line {level : Nat} {text : Text} (h : level ≠ 0 ∨ text.head? ≠ some '\x7d') :
    Inside (.line level text) := by
  refine List.forall_mem_singleton.2 ?_
  rw [closesType, beq_eq_false_iff_ne]
  intro heq
  cases level with
  | zero =>
    have htext : text = "\x7d".toList := List.append_cancel_right heq
    rw [htext] at h
    rcases h with h | h
    · exact h rfl
    · exact h rfl
  | succ level => simp [row, List.replicate_succ] at heq

theorem outline_split {front back : List Step} {first second : Outline} (hf : Outlined front first)
    (hb : Outlined back second) (hi : ∀ step ∈ front, Inside step) :
    ofLines (firstType (Draft.compose (front ++ ([.line 0 "\x7d"] ++ back)))) = first ∧
      ofLines (afterFirstType (Draft.compose (front ++ ([.line 0 "\x7d"] ++ back)))) = second := by
  have hopen : ∀ line ∈ front.flatMap Step.rows, closesType line = false :=
    List.forall_mem_flatMap.2 hi
  have hclose : Mute (.line 0 "\x7d") := mute_line (by decide)
  have hrest : Outlined ([.line 0 "\x7d"] ++ back) second :=
    (outlined_mute (List.forall_mem_singleton.2 hclose)).mute_append hb
  have hrows : Draft.compose (front ++ ([.line 0 "\x7d"] ++ back)) =
      front.flatMap Step.rows ++ row 0 "\x7d" :: back.flatMap Step.rows := by
    rw [Draft.compose_eq_flatMap_rows (hf.append hrest).whole]
    simp [Step.rows]
  have hcloses : closesType (row 0 "\x7d") = true := by decide
  constructor
  · rw [firstType, hrows, List.takeWhile_append_of_pos (by simpa using hopen),
      List.takeWhile_cons_of_neg (by rw [hcloses]; decide), List.append_nil,
      ← Draft.compose_eq_flatMap_rows hf.whole, hf.compose]
  · rw [afterFirstType, hrows, List.dropWhile_append_of_pos (by simpa using hopen),
      List.dropWhile_cons_of_neg (by rw [hcloses]; decide), ← hrest.compose,
      Draft.compose_eq_flatMap_rows hrest.whole]
    rfl

end Page

end OutletWiring

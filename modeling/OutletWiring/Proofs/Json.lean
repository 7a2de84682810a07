import OutletWiring.Json
import OutletWiring.Proofs.Text.Pieces
import Mathlib.Tactic.SplitIfs

/-!
# Reading JSON

A reader that takes blanks wherever JSON allows them. From the indented form of a value it reads the
value back (`ofText?_indented`).
-/

namespace OutletWiring.Json

/-! ## The reader -/

def isBlank (c : Char) : Bool :=
  c == ' ' || c == '\n' || c == '\r' || c == '\t'

def expect? (mark : Char) (text : Text) : Option Text :=
  match text.dropWhile isBlank with
  | c :: rest => if c = mark then some rest else none
  | [] => none

def hexDigit? (c : Char) : Option Nat :=
  (("0123456789abcdef" : Text).idxOf? c).or (("0123456789ABCDEF" : Text).idxOf? c)

def codePoint? (digits : Text) : Option Char := do
  let values ← digits.mapM hexDigit?
  return Char.ofNat (values.foldl (16 * · + ·) 0)

def unescaped? (c : Char) : Option Char :=
  [('"', '"'), ('\\', '\\'), ('/', '/'), ('b', '\x08'), ('f', '\x0c'), ('n', '\n'), ('r', '\r'),
    ('t', '\t')].lookup c

/-- The string whose opening quote has been read, and the text after its closing quote. -/
def string? : Text → Option (Text × Text)
  | [] => none
  | '"' :: rest => some ([], rest)
  | '\\' :: 'u' :: a :: b :: c :: d :: rest => do
    let (text, after) ← string? rest
    return ((← codePoint? [a, b, c, d]) :: text, after)
  | '\\' :: c :: rest => do
    let (text, after) ← string? rest
    return ((← unescaped? c) :: text, after)
  | c :: rest => do
    let (text, after) ← string? rest
    return (c :: text, after)

def ofWord? (word : Text) : Option Json :=
  if word = "null" then some null
  else if word = "true" then some (bool true)
  else if word = "false" then some (bool false)
  else if !word.isEmpty && word.all Char.isDigit then some (number (Nat.ofDigitChars 10 word 0))
  else none

section Brackets

variable {α : Type} (read? : Text → Option (α × Text)) (closing : Char)

/-- At most `count` entries with commas between them, and the text after the closing bracket. -/
def entries? : Nat → Text → Option (List α × Text)
  | 0, _ => none
  | count + 1, text => do
    let (entry, rest) ← read? text
    match expect? closing rest with
    | some after => return ([entry], after)
    | none =>
      let (entries, after) ← entries? count (← expect? ',' rest)
      return (entry :: entries, after)

/-- What stands after an opening bracket, and the text after the closing one. -/
def bracketed? (text : Text) : Option (List α × Text) :=
  (entries? read? closing text.length text).or ((expect? closing text).map ([], ·))

end Brackets

def field? (value? : Text → Option (Json × Text)) (text : Text) :
    Option ((Text × Json) × Text) := do
  let (key, rest) ← string? (← expect? '"' text)
  let (value, after) ← value? (← expect? ':' rest)
  return ((key, value), after)

/-- The value at the start of a text, with fewer than `depth` brackets open at a time, and the text
after it. -/
def value? : Nat → Text → Option (Json × Text)
  | 0, _ => none
  | depth + 1, text =>
    match text.dropWhile isBlank with
    | '"' :: rest => do
      let (text, after) ← string? rest
      return (string text, after)
    | '[' :: rest => do
      let (items, after) ← bracketed? (value? depth) ']' rest
      return (array items, after)
    | '\x7b' :: rest => do
      let (fields, after) ← bracketed? (field? (value? depth)) '\x7d' rest
      return (object fields, after)
    | rest => do
      return (← ofWord? (rest.takeWhile Char.isAlphanum), rest.dropWhile Char.isAlphanum)

def ofText? (text : Text) : Option Json := do
  let (value, rest) ← value? text.length text
  if rest.all isBlank then some value else none

/-! ## Strings -/

theorem hexDigit?_digitChar {n : Nat} (h : n < 16) : hexDigit? (Nat.digitChar n) = some n := by
  revert n
  decide

theorem codePoint?_of_lt {n : Nat} (h : n < 32) :
    codePoint? ['0', '0', Nat.digitChar (n / 16), Nat.digitChar (n % 16)] =
      some (Char.ofNat n) := by
  have hzero : hexDigit? '0' = some 0 := by decide
  have hvalue : 16 * (n / 16) + n % 16 = n := Nat.div_add_mod n 16
  simp [codePoint?, hzero, hexDigit?_digitChar (show n / 16 < 16 by omega),
    hexDigit?_digitChar (Nat.mod_lt n (by decide : 0 < 16)), hvalue]

theorem string?_letter {letter c : Char} (h : unescaped? letter = some c) (rest : Text) :
    string? ('\\' :: letter :: rest) = (string? rest).map fun read => (c :: read.1, read.2) := by
  have hu : letter ≠ 'u' := by
    rintro rfl
    have hnone : unescaped? 'u' = none := by decide
    simp [hnone] at h
  rw [string?]
  · cases string? rest <;> simp [h]
  · simp [hu]

theorem string?_codePoint {n : Nat} (h : n < 32) (rest : Text) :
    string? ('\\' :: 'u' :: '0' :: '0' ::
        Nat.digitChar (n / 16) :: Nat.digitChar (n % 16) :: rest) =
      (string? rest).map fun read => (Char.ofNat n :: read.1, read.2) := by
  rw [string?, codePoint?_of_lt h]
  cases string? rest <;> rfl

theorem string?_plain {c : Char} (hquote : c ≠ '"') (hback : c ≠ '\\') (rest : Text) :
    string? (c :: rest) = (string? rest).map fun read => (c :: read.1, read.2) := by
  rw [string?]
  · cases string? rest <;> rfl
  · simp [hquote]
  · simp [hback]
  · simp [hback]

theorem string?_escaped (c : Char) (rest : Text) :
    string? (escaped c ++ rest) = (string? rest).map fun read => (c :: read.1, read.2) := by
  unfold escaped
  split_ifs with hquote hback _ _ _ _ _ hlow
  iterate 7
    · subst_vars
      exact string?_letter (by decide) rest
  · have hread := string?_codePoint hlow rest
    rwa [Char.ofNat_toNat] at hread
  · exact string?_plain hquote hback rest

theorem string?_quoted (text rest : Text) :
    string? (text.flatMap escaped ++ '"' :: rest) = some (text, rest) := by
  induction text with
  | nil => rfl
  | cons c text ih => rw [List.flatMap_cons, List.append_assoc, string?_escaped, ih]
                      rfl

/-! ## Blanks -/

section Blanks

variable {blanks : Text} (hblanks : ∀ c ∈ blanks, isBlank c = true) (text : Text)
include hblanks

theorem expect?_blanks (mark : Char) : expect? mark (blanks ++ text) = expect? mark text := by
  rw [expect?, List.dropWhile_append_of_pos hblanks, expect?]

theorem field?_blanks (value? : Text → Option (Json × Text)) :
    field? value? (blanks ++ text) = field? value? text := by
  rw [field?, expect?_blanks hblanks, field?]

theorem value?_blanks (depth : Nat) : value? depth (blanks ++ text) = value? depth text := by
  cases depth with
  | zero => rfl
  | succ depth => rw [value?, List.dropWhile_append_of_pos hblanks, value?]

end Blanks

theorem expect?_cons {mark c : Char} (h : isBlank c = false) (rest : Text) :
    expect? mark (c :: rest) = if c = mark then some rest else none := by
  rw [expect?, List.dropWhile_cons_of_neg (by simp [h])]

/-! ## Values -/

/-- The text goes on with nothing that could belong to a word. -/
def Ends (rest : Text) : Prop :=
  ∀ c ∈ rest.head?, c.isAlphanum = false

/-- The text is read as the value, whatever follows that ends a word. -/
def Spells (text : Text) (json : Json) : Prop :=
  ∀ depth rest, text.length ≤ depth → Ends rest → value? depth (text ++ rest) = some (json, rest)

theorem Spells.of_succ {text : Text} {json : Json} (hne : text ≠ [])
    (h : ∀ depth rest, text.length ≤ depth + 1 → Ends rest →
      value? (depth + 1) (text ++ rest) = some (json, rest)) : Spells text json := by
  intro depth rest hdepth hends
  obtain ⟨depth, rfl⟩ : ∃ least, depth = least + 1 :=
    Nat.exists_eq_add_one.2 (Nat.lt_of_lt_of_le (List.length_pos_iff.2 hne) hdepth)
  exact h depth rest hdepth hends

theorem quoted_append (text rest : Text) :
    quoted text ++ rest = '"' :: (text.flatMap escaped ++ '"' :: rest) := by
  simp [quoted]

theorem spells_string (text : Text) : Spells (quoted text) (string text) := by
  refine .of_succ (by simp [quoted]) fun depth rest _ _ => ?_
  rw [quoted_append, value?, List.dropWhile_cons_of_neg (by decide)]
  simp only [string?_quoted]
  rfl

theorem ne_of_isAlphanum {c mark : Char} (hc : c.isAlphanum = true)
    (hmark : mark.isAlphanum = false) : c ≠ mark := by
  rintro rfl
  simp [hmark] at hc

theorem isAlphanum_of_isBlank {c : Char} (h : isBlank c = true) : c.isAlphanum = false := by
  simp only [isBlank, Bool.or_eq_true, beq_iff_eq] at h
  obtain ((rfl | rfl) | rfl) | rfl := h <;> decide

theorem spells_word {word : Text} {json : Json} (hne : word ≠ [])
    (halphanum : ∀ c ∈ word, c.isAlphanum = true) (hword : ofWord? word = some json) :
    Spells word json := by
  refine .of_succ hne fun depth rest _ hends => ?_
  obtain ⟨c, tail, rfl⟩ := List.exists_cons_of_ne_nil hne
  have hc := halphanum c (by simp)
  have hblank : isBlank c ≠ true := fun h => by simp [isAlphanum_of_isBlank h] at hc
  have hrest : rest.takeWhile Char.isAlphanum = [] ∧ rest.dropWhile Char.isAlphanum = rest := by
    cases rest with
    | nil => exact ⟨rfl, rfl⟩
    | cons d rest =>
      have hd := hends d rfl
      exact ⟨List.takeWhile_cons_of_neg (by simp [hd]), List.dropWhile_cons_of_neg (by simp [hd])⟩
  rw [value?, List.cons_append, List.dropWhile_cons_of_neg hblank, ← List.cons_append]
  split
  · next heq => exact absurd (List.cons.inj heq).1 (ne_of_isAlphanum hc (by decide))
  · next heq => exact absurd (List.cons.inj heq).1 (ne_of_isAlphanum hc (by decide))
  · next heq => exact absurd (List.cons.inj heq).1 (ne_of_isAlphanum hc (by decide))
  · rw [List.takeWhile_append_of_pos halphanum, List.dropWhile_append_of_pos halphanum, hrest.1,
      hrest.2, List.append_nil, hword]
    rfl

/-! ## Brackets -/

theorem ends_cons {c : Char} (h : c.isAlphanum = false) (rest : Text) : Ends (c :: rest) := by
  intro d hd
  obtain rfl := Option.some.inj hd
  exact h

theorem ends_blanks {blanks : Text} (hblanks : ∀ c ∈ blanks, isBlank c = true) {rest : Text}
    (h : Ends rest) : Ends (blanks ++ rest) := by
  cases blanks with
  | nil => exact h
  | cons c blanks => exact ends_cons (isAlphanum_of_isBlank (hblanks c (by simp))) _

theorem length_le_length_join {text separator : Text} {texts : List Text} (h : text ∈ texts) :
    text.length ≤ (Text.join separator texts).length := by
  obtain ⟨front, back, rfl⟩ := List.append_of_mem h
  exact (@Text.join_infix_append separator front [text] (by simp) back).length_le

theorem length_le_join_cons (c : Char) (separator : Text) (texts : List Text) :
    texts.length ≤ (Text.join (c :: separator) texts).length + 1 := by
  induction texts with
  | nil => simp
  | cons first texts ih =>
    cases texts with
    | nil => simp
    | cons second texts =>
      rw [Text.join]
      · simp only [List.length_append, List.length_cons] at ih ⊢
        omega
      · simp

def lineStart (depth : Nat) : Text :=
  '\n' :: List.replicate (2 * depth) ' '

theorem isBlank_lineStart (depth : Nat) : ∀ c ∈ lineStart depth, isBlank c = true := by
  intro c hc
  rcases List.mem_cons.1 hc with rfl | hc
  · decide
  · rw [List.eq_of_mem_replicate hc]
    decide

theorem length_lt_bracketed {opening closing : Char} {depth : Nat} {texts : List Text} {text : Text}
    (h : text ∈ texts) : text.length < (bracketed [opening] [closing] depth texts).length := by
  have hjoin := fun separator => @length_le_length_join text separator texts h
  rw [bracketed, if_neg (by simpa using List.ne_nil_of_mem h)]
  simp only [List.length_append, List.length_singleton]
  have := hjoin ("," ++ '\n' :: List.replicate (2 * (depth + 1)) ' ')
  omega

section Brackets

variable {α : Type} {read? : Text → Option (α × Text)} {spell : α → Text} {closing : Char}
  (hclosing : isBlank closing = false ∧ closing.isAlphanum = false ∧ closing ≠ ',')
include hclosing

theorem entries?_join {entries : List α} (hne : entries ≠ []) {blanks tail : Text}
    (htail : ∀ c ∈ tail, isBlank c = true)
    (hentry : ∀ entry ∈ entries, ∀ rest, Ends rest →
      read? (blanks ++ (spell entry ++ rest)) = some (entry, rest))
    {count : Nat} (hcount : entries.length ≤ count) (rest : Text) :
    entries? read? closing count
      (blanks ++ (Text.join (',' :: blanks) (entries.map spell) ++ (tail ++ closing :: rest))) =
        some (entries, rest) := by
  induction entries generalizing count with
  | nil => exact absurd rfl hne
  | cons entry entries ih =>
    obtain ⟨count, rfl⟩ : ∃ n, count = n + 1 :=
      Nat.exists_eq_add_one.2 (Nat.lt_of_lt_of_le (Nat.succ_pos _) hcount)
    have hfirst := hentry entry (by simp)
    cases entries with
    | nil =>
      have hends : Ends (tail ++ closing :: rest) := ends_blanks htail (ends_cons hclosing.2.1 rest)
      simp only [entries?, List.map_singleton, Text.join, hfirst _ hends, Option.bind_eq_bind,
        Option.bind_some, expect?_blanks htail, expect?_cons hclosing.1, if_true]
      rfl
    | cons next entries =>
      have hrest := ih (by simp) (fun entry hmem => hentry entry (by simp [hmem]))
        (Nat.le_of_succ_le_succ hcount)
      have hjoin : Text.join (',' :: blanks) ((entry :: next :: entries).map spell) ++
          (tail ++ closing :: rest) = spell entry ++ ',' :: (blanks ++
            (Text.join (',' :: blanks) ((next :: entries).map spell) ++
              (tail ++ closing :: rest))) := by
        simp [Text.join]
      rw [hjoin, entries?, hfirst _ (ends_cons (by decide) _)]
      simp only [Option.bind_eq_bind, Option.bind_some,
        expect?_cons (show isBlank ',' = false by decide), if_neg hclosing.2.2.symm, if_true, hrest]
      rfl

/-- Entries that are written between brackets, each on a line of its own, are read back. -/
theorem bracketed?_bracketed (hnone : ∀ rest, read? (closing :: rest) = none) {depth : Nat}
    {entries : List α}
    (hentry : ∀ entry ∈ entries, ∀ rest, Ends rest →
      read? (lineStart (depth + 1) ++ (spell entry ++ rest)) = some (entry, rest))
    (opening : Char) :
    ∃ inner, bracketed [opening] [closing] depth (entries.map spell) = opening :: inner ∧
      ∀ rest, bracketed? read? closing (inner ++ rest) = some (entries, rest) := by
  rw [bracketed]
  by_cases hne : entries = []
  · subst hne
    refine ⟨[closing], rfl, fun rest => ?_⟩
    have hentries : ∀ count, entries? read? closing count (closing :: rest) = none := by
      intro count
      cases count with
      | zero => rfl
      | succ count => simp [entries?, hnone]
    simp [bracketed?, hentries, expect?_cons hclosing.1]
  · rw [if_neg (by simpa using hne)]
    let start := lineStart (depth + 1)
    refine ⟨start ++
        (Text.join (',' :: start) (entries.map spell) ++ (lineStart depth ++ [closing])),
      by simp [start, lineStart], fun rest => ?_⟩
    have hlength := length_le_join_cons ',' start (entries.map spell)
    have hcount : entries.length ≤ (start ++ (Text.join (',' :: start) (entries.map spell) ++
        (lineStart depth ++ closing :: rest))).length := by
      simp only [List.length_append, List.length_map, List.length_cons] at hlength ⊢
      omega
    have hread := entries?_join hclosing hne (isBlank_lineStart depth) hentry hcount rest
    simp only [List.append_assoc, List.singleton_append]
    rw [bracketed?, hread]
    rfl

theorem spells_bracketed {read? : Nat → Text → Option (α × Text)} {opening : Char} {json : Json}
    {depth : Nat} {entries : List α} (hnone : ∀ fuel rest, read? fuel (closing :: rest) = none)
    (hentry : ∀ entry ∈ entries, ∀ fuel rest, (spell entry).length ≤ fuel → Ends rest →
      read? fuel (lineStart (depth + 1) ++ (spell entry ++ rest)) = some (entry, rest))
    (hvalue : ∀ fuel inner rest, bracketed? (read? fuel) closing inner = some (entries, rest) →
      value? (fuel + 1) (opening :: inner) = some (json, rest)) :
    Spells (bracketed [opening] [closing] depth (entries.map spell)) json := by
  refine .of_succ ?_ fun fuel rest hfuel _ => ?_
  · rw [bracketed]
    split_ifs <;> simp
  · obtain ⟨inner, hinner, hread⟩ := bracketed?_bracketed hclosing (hnone fuel)
      (fun entry hmem rest hends => hentry entry hmem fuel rest (by
        have := @length_lt_bracketed opening closing depth _ _
          (List.mem_map_of_mem (f := spell) hmem)
        omega) hends) opening
    rw [hinner, List.cons_append]
    exact hvalue fuel _ _ (hread rest)

end Brackets

/-! ## Reading back -/

theorem indented_array (depth : Nat) (items : List Json) : (array items).indented depth =
    bracketed ['['] [']'] depth (items.map (indented (depth + 1))) := by
  have hmap : indentedItems (depth + 1) items = items.map (indented (depth + 1)) := by
    induction items with
    | nil => rfl
    | cons item items ih => rw [indentedItems, ih, List.map_cons]
  rw [indented, hmap]
  rfl

def indentedField (depth : Nat) (field : Text × Json) : Text :=
  quoted field.1 ++ ": " ++ field.2.indented depth

theorem indented_object (depth : Nat) (fields : List (Text × Json)) :
    (object fields).indented depth =
      bracketed ['\x7b'] ['\x7d'] depth (fields.map (indentedField (depth + 1))) := by
  have hmap : indentedFields (depth + 1) fields = fields.map (indentedField (depth + 1)) := by
    induction fields with
    | nil => rfl
    | cons field fields ih => rw [indentedFields, ih, List.map_cons, indentedField]
  rw [indented, hmap]
  rfl

theorem field?_of_spells {text : Text} {json : Json} (h : Spells text json) (key : Text)
    {depth : Nat} (hdepth : text.length ≤ depth) {rest : Text} (hends : Ends rest) :
    field? (value? depth) (quoted key ++ ": " ++ text ++ rest) = some ((key, json), rest) := by
  have hblank : value? depth (' ' :: (text ++ rest)) = value? depth (text ++ rest) :=
    @value?_blanks [' '] (by decide) (text ++ rest) depth
  have hline : quoted key ++ ": " ++ text ++ rest =
      '"' :: (key.flatMap escaped ++ '"' :: ':' :: ' ' :: (text ++ rest)) := by
    simp [quoted]
  rw [hline, field?, expect?_cons (by decide), if_pos rfl]
  simp only [Option.bind_eq_bind, Option.bind_some, string?_quoted,
    expect?_cons (show isBlank ':' = false by decide), if_true, hblank, h depth rest hdepth hends]
  rfl

theorem spells_array {items : List Json} {depth : Nat}
    (h : ∀ item ∈ items, Spells (item.indented (depth + 1)) item) :
    Spells ((array items).indented depth) (array items) := by
  rw [indented_array]
  refine @spells_bracketed _ _ _ (by decide) value? _ _ _ _ ?_ ?_ ?_
  · intro fuel rest
    cases fuel <;> rfl
  · intro item hitem fuel rest hfuel hends
    rw [value?_blanks (isBlank_lineStart _)]
    exact h item hitem fuel rest hfuel hends
  · intro fuel inner rest hread
    rw [value?, List.dropWhile_cons_of_neg (by decide)]
    simp only [hread]
    rfl

theorem spells_object {fields : List (Text × Json)} {depth : Nat}
    (h : ∀ field ∈ fields, Spells (field.2.indented (depth + 1)) field.2) :
    Spells ((object fields).indented depth) (object fields) := by
  rw [indented_object]
  refine @spells_bracketed _ _ _ (by decide) (fun fuel => field? (value? fuel)) _ _ _ _ ?_ ?_ ?_
  · intro fuel rest
    rfl
  · intro field hfield fuel rest hfuel hends
    rw [field?_blanks (isBlank_lineStart _)]
    refine field?_of_spells (h field hfield) field.1 (Nat.le_trans ?_ hfuel) hends
    rw [indentedField, List.length_append]
    omega
  · intro fuel inner rest hread
    rw [value?, List.dropWhile_cons_of_neg (by decide)]
    simp only [hread]
    rfl

theorem spells_number (value : Nat) : Spells (Nat.toDigits 10 value) (number value) := by
  have hdigit : ∀ c ∈ Nat.toDigits 10 value, c.isDigit = true := fun c hc =>
    Nat.isDigit_of_mem_toDigits (by decide) (by decide) hc
  have hne : ∀ word : Text, 'l' ∈ word ∨ 'e' ∈ word → Nat.toDigits 10 value ≠ word := by
    rintro word (h | h) rfl
    · simpa using hdigit _ h
    · simpa using hdigit _ h
  refine spells_word Nat.toDigits_ne_nil (fun c hc => by simp [Char.isAlphanum, hdigit c hc]) ?_
  rw [ofWord?, if_neg (hne _ (by decide)), if_neg (hne _ (by decide)), if_neg (hne _ (by decide)),
    if_pos (by simpa [Nat.toDigits_ne_nil] using hdigit),
    Nat.ofDigitChars_toDigits (by decide) (by decide)]

theorem spells_indented (json : Json) (depth : Nat) : Spells (json.indented depth) json := by
  cases json with
  | null => exact @spells_word ("null" : Text) null (by decide) (by decide) rfl
  | bool value =>
    cases value with
    | true => exact @spells_word ("true" : Text) (bool true) (by decide) (by decide) rfl
    | false => exact @spells_word ("false" : Text) (bool false) (by decide) (by decide) rfl
  | number value => exact spells_number value
  | string text => exact spells_string text
  | array items => exact spells_array fun item _ => spells_indented item (depth + 1)
  | object fields => exact spells_object fun field _ => spells_indented field.2 (depth + 1)
termination_by sizeOf json
decreasing_by
  · have := List.sizeOf_lt_of_mem ‹item ∈ items›
    simp only [array.sizeOf_spec]
    omega
  · have := List.sizeOf_lt_of_mem ‹field ∈ fields›
    have : sizeOf field = 1 + sizeOf field.1 + sizeOf field.2 := rfl
    simp only [object.sizeOf_spec]
    omega

/-- A value is read back from its indented form, whatever blanks follow. -/
theorem ofText?_indented (json : Json) {blanks : Text} (hblanks : ∀ c ∈ blanks, isBlank c = true) :
    ofText? (json.indented 0 ++ blanks) = some json := by
  have hends : Ends (blanks ++ []) := ends_blanks hblanks (by simp [Ends])
  rw [List.append_nil] at hends
  rw [ofText?, spells_indented json 0 _ blanks (by simp) hends]
  simpa using hblanks

end OutletWiring.Json

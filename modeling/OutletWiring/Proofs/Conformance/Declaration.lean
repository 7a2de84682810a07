import OutletWiring.Proofs.Capability
import OutletWiring.Proofs.Text.Pieces

/-!
# What a declaration keeps

The capability is entered by the number and the place of words, and a declaration is read by its
keyword and the word after it. The two fit together if the line has room: enough words after the
name that neither the capability nor the comma before it comes to the name. Then the line still
declares what it declared, and it is not taken for anything else if no two words of it can come to
make another mark.
-/

namespace OutletWiring

namespace Line

variable {line name second : Text}

/-- The keyword of an import stands in the line as a word, with at most blanks before it. -/
theorem exists_word_of_isImport (h : isImport line = true) :
    ∃ word ∈ Text.words line, Text.trimStart word = Mark.importWord := by
  unfold isImport at h
  split at h
  · next c rest hafter =>
    rw [beq_iff_eq] at h
    subst h
    simp only [Text.afterPrefix?, Option.ite_none_right_eq_some, List.isPrefixOf_iff_prefix,
      Option.some.injEq] at hafter
    obtain ⟨⟨after, heq⟩, hdrop⟩ := hafter
    rw [← heq, List.drop_left] at hdrop
    have hline : line = (line.takeWhile Text.isBlank ++ Mark.importWord) ++ ' ' :: rest := by
      rw [List.append_assoc, ← hdrop, heq]
      exact (List.takeWhile_append_dropWhile ..).symm
    obtain ⟨pieces, last, hblanks, hsplit⟩ := Text.split_append_of_not_mem
      (show ' ' ∉ Mark.importWord by decide) (line.takeWhile Text.isBlank)
    have hlast : last ∈ Text.split ' ' (line.takeWhile Text.isBlank) := by simp [hblanks]
    have hblank : ∀ c ∈ last, Text.isBlank c = true := fun c hc =>
      List.mem_takeWhile_imp ((Text.infix_of_mem_split hlast).subset hc)
    refine ⟨last ++ Mark.importWord, ?_, ?_⟩
    · rw [hline, Text.words_append_space, List.mem_append]
      exact .inl (List.mem_filter.2
        ⟨by simp [hsplit], by simp [show Mark.importWord ≠ [] by decide]⟩)
    · rw [Text.trimStart, List.dropWhile_append_of_pos hblank]
      decide
  · cases h

theorem kind_eq_classDeclaration_iff : kind line = .classDeclaration ↔
    Text.occursIn Mark.setter line = false ∧ Text.occursIn Mark.binding line = false ∧
      Text.occursIn Mark.typealias line = false ∧ Text.occursIn Mark.outlet line = false ∧
      isImport line = false ∧ Mark.protocolWord ∉ Text.words line ∧
      Text.occursIn Mark.classWord line = true ∧ ':' ∈ line := by
  unfold kind
  split_ifs <;> simp_all

theorem kind_ne_moduleImport (h : isImport line = false) : kind line ≠ .moduleImport := by
  unfold kind
  split_ifs <;> simp_all

theorem mem_words_of_declaresProtocol (h : declaresProtocol name line = true) :
    Mark.protocolWord ∈ Text.words line := by
  obtain ⟨front, second, back, heq, -⟩ := exists_words_of_declaresAmong h
  simp [heq]

/-- A line that declares a protocol is not taken for the declaration of a class. -/
theorem kind_ne_classDeclaration (h : declaresProtocol name line = true) :
    kind line ≠ .classDeclaration := fun hk =>
  (kind_eq_classDeclaration_iff.1 hk).2.2.2.2.2.1 (mem_words_of_declaresProtocol h)

theorem declaresAmong_append {front rest : List Text} (h : protocolName second = name) :
    declaresAmong name (front ++ Mark.protocolWord :: second :: rest) = true := by
  induction front with
  | nil => simp [declaresAmong, h]
  | cons first front ih =>
    obtain ⟨next, others, hnext⟩ := List.exists_cons_of_ne_nil
      (List.append_ne_nil_of_right_ne_nil front
        (List.cons_ne_nil Mark.protocolWord (second :: rest)))
    rw [hnext] at ih
    rw [List.cons_append, hnext, declaresAmong, ih, Bool.or_true]

theorem protocolName_append_colon (h : Text.trimEnd second = second) :
    protocolName (second ++ ":") = protocolName second := by
  have htrim : Text.trimEnd (second ++ ":") = second ++ ":" := by
    simp [Text.trimEnd, Text.dropEndWhile, Text.isBlank]
  rw [protocolName, protocolName, htrim, h]
  simp [Text.dropEndWhile]

end Line

namespace Conformance

open Line (Mark.capability Mark.classOnly Mark.classOnlyListed)

/-- There is room for the capability after the name, with `rest` the words behind it. Up to three
words a list is opened after the second. Otherwise it is continued at the last word but one, or the
capability takes the place of a constraint to classes. -/
def Room (words : List Text) (name : Text) (rest : List Text) : Prop :=
  if words.length ≤ 3 then rest ≠ [] ∧ Text.trimEnd name = name
  else if Mark.classOnly ∈ words then rest.filter (· != Mark.classOnly) ≠ []
  else 2 ≤ (rest.filter (· != Mark.classOnlyListed)).length

instance (words : List Text) (name : Text) (rest : List Text) : Decidable (Room words name rest) :=
  inferInstanceAs (Decidable (ite ..))

structure Roomy (words front : List Text) (keyword name : Text) (rest : List Text) : Prop where
  words_eq : words = front ++ keyword :: name :: rest
  name_ne : name ≠ Mark.classOnly ∧ name ≠ Mark.classOnlyListed
  room : Room words name rest

/-! ## Words -/

theorem exists_append_pair {words : List Text} (h : 2 ≤ words.length) :
    ∃ init word last, words = init ++ [word, last] := by
  obtain ⟨most, last, rfl⟩ := (List.eq_nil_or_concat' words).resolve_left
    (by rintro rfl; simp at h)
  rw [List.length_append, List.length_singleton] at h
  obtain ⟨init, word, rfl⟩ := (List.eq_nil_or_concat' most).resolve_left
    (by rintro rfl; simp at h)
  exact ⟨init, word, last, by simp⟩

theorem continueList?_append (front : List Text) (word last : Text) :
    continueList? (front ++ [word, last]) = some (front ++ [word ++ ",", last]) := by
  induction front with
  | nil => rfl
  | cons first front ih =>
    cases front with
    | nil => simp [continueList?]
    | cons second front =>
      rw [List.cons_append, continueList?, ih]
      · rfl
      · simp
      · simp

theorem enter?_append (front : List Text) (last : Text) :
    enter? (front ++ [last]) = some (front ++ [Mark.capability, last]) := by
  simp [enter?]

theorem readyList?_of_not_mem {words : List Text} (hl : ¬ words.length ≤ 3)
    (h : Mark.classOnly ∉ words) :
    readyList? words = continueList? (words.filter (· != Mark.classOnlyListed)) := by
  unfold readyList?
  rw [if_neg hl, if_neg (by simpa using h)]
  split_ifs with hlisted
  · rfl
  · rw [List.filter_eq_self.2 fun word hword => ?_]
    simp only [bne_iff_ne]
    rintro rfl
    exact hlisted (by simpa using hword)

def entered? (words : List Text) : Option (List Text) :=
  (readyList? words).bind enter?

variable {words entered front rest : List Text} {keyword name : Text}

/-- With room, keyword and name stay next to each other, and the capability comes after them. -/
theorem Roomy.entered?_eq (h : Roomy words front keyword name rest)
    (hk : keyword ≠ Mark.classOnly ∧ keyword ≠ Mark.classOnlyListed) :
    ∃ (front' : List Text) (name' : Text) (rest' : List Text),
      entered? words = some (front' ++ keyword :: name' :: rest') ∧ front' ⊆ front ∧
        (name' = name ∨ name' = name ++ ":" ∧ Text.trimEnd name = name) ∧
        Mark.capability ∈ rest' := by
  obtain ⟨hw, hn, hr⟩ := h
  unfold Room at hr
  split_ifs at hr with hl hclass
  · obtain ⟨hrest, htrim⟩ := hr
    have hlength := List.length_pos_iff.2 hrest
    rw [hw] at hl
    simp only [List.length_append, List.length_cons] at hl
    obtain rfl : front = [] := List.length_eq_zero_iff.1 (by omega)
    obtain ⟨last, rfl⟩ := List.length_eq_one_iff.1 (show rest.length = 1 by omega)
    refine ⟨[], name ++ ":", [Mark.capability, last], ?_, by simp, .inr ⟨rfl, htrim⟩, by simp⟩
    simp [hw, entered?, readyList?, openList, enter?]
  · obtain ⟨init, last, hlast⟩ := (List.eq_nil_or_concat' _).resolve_left hr
    have hready : readyList? words =
        some ((front.filter (· != Mark.classOnly) ++ keyword :: name :: init) ++ [last]) := by
      unfold readyList?
      rw [if_neg hl, if_pos (by simpa using hclass), hw]
      simp [hk.1, hn.1, hlast]
    refine ⟨front.filter (· != Mark.classOnly), name, init ++ [Mark.capability, last], ?_,
      fun _ => List.mem_of_mem_filter, .inl rfl, by simp⟩
    rw [entered?, hready, Option.bind_some, enter?_append]
    simp
  · obtain ⟨init, word, last, hlast⟩ := exists_append_pair hr
    have hready : readyList? words = some ((front.filter (· != Mark.classOnlyListed) ++
        keyword :: name :: (init ++ [word ++ ","])) ++ [last]) := by
      have hfilter : words.filter (· != Mark.classOnlyListed) =
          (front.filter (· != Mark.classOnlyListed) ++ keyword :: name :: init) ++
            [word, last] := by
        rw [hw]
        simp [hk.2, hn.2, hlast]
      rw [readyList?_of_not_mem hl hclass, hfilter, continueList?_append]
      simp
    refine ⟨front.filter (· != Mark.classOnlyListed), name,
      init ++ [word ++ ",", Mark.capability, last], ?_, fun _ => List.mem_of_mem_filter, .inl rfl,
      by simp⟩
    rw [entered?, hready, Option.bind_some, enter?_append]
    simp

/-- The word is one of the words, or one of them with a mark of the list after it. -/
def Marked (words : List Text) (word : Text) : Prop :=
  ∃ old ∈ words, word = old ∨ ∃ c ∈ [',', ':'], word = old ++ [c]

theorem marked_self {word : Text} (h : word ∈ words) : Marked words word :=
  ⟨word, h, .inl rfl⟩

theorem marked_of_continueList? {kept ready : List Text} (hk : kept ⊆ words)
    (h : continueList? kept = some ready) : ∀ word ∈ ready, Marked words word := by
  obtain ⟨front, word, last, rfl, rfl⟩ := continueList?_eq_some h
  simp only [List.forall_mem_append, List.forall_mem_cons, List.not_mem_nil, false_implies,
    implies_true, and_true]
  exact ⟨fun other hother => marked_self (hk (by simp [hother])),
    ⟨word, hk (by simp), .inr ⟨',', by simp, rfl⟩⟩, marked_self (hk (by simp))⟩

theorem marked_of_readyList? {ready : List Text} (h : readyList? words = some ready) :
    ∀ word ∈ ready, Marked words word := by
  unfold readyList? at h
  split_ifs at h
  · rw [Option.some.injEq] at h
    subst h
    unfold openList
    split
    · next first second others _ =>
      simp only [List.forall_mem_cons]
      exact ⟨marked_self (by simp), ⟨second, by simp, .inr ⟨':', by simp, rfl⟩⟩,
        fun other hother => marked_self (by simp [hother])⟩
    · exact fun word hword => marked_self hword
  · rw [Option.some.injEq] at h
    subst h
    exact fun word hword => marked_self (List.mem_of_mem_filter hword)
  · exact marked_of_continueList? (fun _ => List.mem_of_mem_filter) h
  · exact marked_of_continueList? (List.Subset.refl _) h

/-- Nothing comes in but the capability and marks of the list. -/
theorem marked_of_entered? (h : entered? words = some entered) {word : Text} (hm : word ∈ entered) :
    word = Mark.capability ∨ Marked words word := by
  obtain ⟨ready, hready, hentered⟩ := Option.bind_eq_some_iff.1 h
  obtain ⟨front, last, rfl, rfl⟩ := enter?_eq_some hentered
  have hmarked := marked_of_readyList? hready
  simp only [List.mem_append, List.mem_cons, List.not_mem_nil, or_false] at hm
  rcases hm with hm | rfl | rfl
  · exact .inr (hmarked word (by simp [hm]))
  · exact .inl rfl
  · exact .inr (hmarked word (by simp))

/-- What holds of the capability and of the words, and is kept by a mark of the list, holds of what
the words become. -/
theorem forall_mem_entered? {P : Text → Prop} (h : entered? words = some entered)
    (hcapability : P Mark.capability) (hwords : ∀ word ∈ words, P word)
    (hlisted : ∀ c ∈ [',', ':'], ∀ word, P word → P (word ++ [c])) : ∀ word ∈ entered, P word := by
  intro word hword
  rcases marked_of_entered? h hword with rfl | ⟨old, hold, rfl | ⟨c, hc, rfl⟩⟩
  · exact hcapability
  · exact hwords word hold
  · exact hlisted c hc old (hwords old hold)

theorem exists_prefix_continueList? {ready : List Text} (h : continueList? words = some ready)
    {old : Text} (ho : old ∈ words) : ∃ word ∈ ready, old <+: word := by
  obtain ⟨front, word, last, rfl, rfl⟩ := continueList?_eq_some h
  simp only [List.mem_append, List.mem_cons, List.not_mem_nil, or_false] at ho
  rcases ho with ho | rfl | rfl
  · exact ⟨old, by simp [ho], List.prefix_refl _⟩
  · exact ⟨old ++ ",", by simp, List.prefix_append ..⟩
  · exact ⟨old, by simp, List.prefix_refl _⟩

/-- Nothing goes but constraints to classes. -/
theorem exists_prefix_entered? (h : entered? words = some entered) {old : Text} (ho : old ∈ words)
    (hc : old ≠ Mark.classOnly ∧ old ≠ Mark.classOnlyListed) : ∃ word ∈ entered, old <+: word := by
  obtain ⟨ready, hready, hentered⟩ := Option.bind_eq_some_iff.1 h
  have hkept : ∃ word ∈ ready, old <+: word := by
    unfold readyList? at hready
    split_ifs at hready
    · rw [Option.some.injEq] at hready
      subst hready
      unfold openList
      split
      · simp only [List.mem_cons] at ho
        rcases ho with rfl | rfl | ho
        · exact ⟨old, by simp, List.prefix_refl _⟩
        · exact ⟨old ++ ":", by simp, List.prefix_append ..⟩
        · exact ⟨old, by simp [ho], List.prefix_refl _⟩
      · exact ⟨old, ho, List.prefix_refl _⟩
    · rw [Option.some.injEq] at hready
      subst hready
      exact ⟨old, List.mem_filter.2 ⟨ho, by simpa using hc.1⟩, List.prefix_refl _⟩
    · exact exists_prefix_continueList? hready (List.mem_filter.2 ⟨ho, by simpa using hc.2⟩)
    · exact exists_prefix_continueList? hready ho
  obtain ⟨word, hword, hstart⟩ := hkept
  obtain ⟨front, last, rfl, rfl⟩ := enter?_eq_some hentered
  refine ⟨word, ?_, hstart⟩
  simp only [List.mem_append, List.mem_singleton] at hword
  rcases hword with hword | rfl <;> simp_all

/-! ## The line -/

/-- A mark of several words, by its keyword and the word after it. -/
abbrev PairMark := Text × Text

def importMark : PairMark :=
  (Line.Mark.importWord, "AccessibilityKit")

def pairMarks : List PairMark :=
  [importMark, ("func", "setAccessibilityIdentifiers()"), ("typealias", "UIElementType")]

/-- No two words of the line can come to make the mark: none ends in its keyword, or none starts
with the word after it. -/
def Parted (mark : PairMark) (line : Text) : Prop :=
  (∀ word ∈ Text.words line, ¬ mark.1 <:+ word) ∨ ∀ word ∈ Text.words line, ¬ mark.2 <+: word

instance (mark : PairMark) (line : Text) : Decidable (Parted mark line) :=
  inferInstanceAs (Decidable (_ ∨ _))

/-- No word of the line is the keyword of an import, and no two can come to make one of the
marks. -/
structure Unmarked (marks : List PairMark) (line : Text) : Prop where
  importless : ∀ word ∈ Text.words line, Text.trimStart word ≠ Line.Mark.importWord
  parted : ∀ mark ∈ marks, Parted mark line

variable {line next : Text} {mark : PairMark} {marks : List PairMark}

theorem addCapability?_eq (h : 2 ≤ (Text.words line).length) :
    addCapability? line = (entered? (Text.words line)).map (Text.join " ") := by
  unfold addCapability?
  simp only
  rw [if_neg (by omega)]
  rfl

theorem words_of_entered? (h : entered? (Text.words line) = some entered) :
    Text.words (Text.join " " entered) = entered := by
  refine Text.words_join (forall_mem_entered? h (by decide) (fun word hword => ?_) ?_)
  · exact ⟨Text.ne_nil_of_mem_words hword, Text.not_mem_of_mem_words hword⟩
  · intro c hc word hword
    simp only [List.mem_cons, List.not_mem_nil, or_false] at hc
    rcases hc with rfl | rfl <;> simp [hword.2]

/-- No word comes to end in a text that is not part of the capability and ends in no mark of the
list. -/
theorem not_suffix_of_entered? (he : entered? words = some entered) {tail : Text}
    (ht : ¬ tail <:+ Mark.capability) (hends : ∀ c ∈ [',', ':'], tail.getLast? ≠ some c)
    (h : ∀ word ∈ words, ¬ tail <:+ word) : ∀ word ∈ entered, ¬ tail <:+ word := by
  refine forall_mem_entered? he ht h fun c hc word hword hsuffix => ?_
  rcases List.suffix_concat_iff.1 hsuffix with rfl | ⟨front, rfl, -⟩
  · exact ht (List.nil_suffix ..)
  · exact hends c hc (by simp)

theorem not_prefix_of_entered? (he : entered? words = some entered) {head : Text}
    (hh : ¬ head <+: Mark.capability) (hends : ∀ c ∈ [',', ':'], head.getLast? ≠ some c)
    (h : ∀ word ∈ words, ¬ head <+: word) : ∀ word ∈ entered, ¬ head <+: word := by
  refine forall_mem_entered? he hh h fun c hc word hword hprefix => ?_
  rcases List.prefix_concat_iff.1 hprefix with rfl | hprefix
  · exact hends c hc (by simp)
  · exact hword hprefix

theorem Parted.of_entered? (h : Parted mark line) (hm : mark ∈ pairMarks)
    (he : entered? (Text.words line) = some entered) : Parted mark (Text.join " " entered) := by
  have hapart : ∀ mark ∈ pairMarks,
      ¬ mark.1 <:+ Mark.capability ∧ ¬ mark.2 <+: Mark.capability := by decide
  have hends : ∀ mark ∈ pairMarks, (∀ c ∈ [',', ':'], mark.1.getLast? ≠ some c) ∧
      ∀ c ∈ [',', ':'], mark.2.getLast? ≠ some c := by decide
  unfold Parted
  rw [words_of_entered? he]
  exact h.imp (not_suffix_of_entered? he (hapart mark hm).1 (hends mark hm).1)
    (not_prefix_of_entered? he (hapart mark hm).2 (hends mark hm).2)

/-- The keyword of a mark ends a word wherever the mark is found, and the word after it starts
one. -/
theorem Parted.occursIn_eq_false (h : Parted mark line) (hm : mark ∈ pairMarks) {text : Text}
    (ht : mark.1 ++ ' ' :: mark.2 <+: text) : Text.occursIn text line = false := by
  have hwords : ∀ mark ∈ pairMarks,
      (mark.1 ≠ [] ∧ ' ' ∉ mark.1) ∧ mark.2 ≠ [] ∧ ' ' ∉ mark.2 := by decide
  obtain ⟨⟨hkey, hkeyed⟩, hnext, hspace⟩ := hwords mark hm
  rw [Bool.eq_false_iff, Ne, Text.occursIn_iff]
  intro hpart
  have hmark : mark.1 ++ ' ' :: mark.2 <:+: line := ht.isInfix.trans hpart
  rcases h with h | h
  · obtain ⟨word, hword, hsuffix⟩ := Text.exists_word_of_space hkey hkeyed
      (List.IsInfix.trans ⟨[], mark.2, by simp⟩ hmark)
    exact h word hword hsuffix
  · obtain ⟨word, hword, hprefix⟩ := Text.exists_word_after_space hnext hspace
      ((List.suffix_append ..).isInfix.trans hmark)
    exact h word hword hprefix

theorem Unmarked.of_entered? (h : Unmarked marks line) (hm : marks ⊆ pairMarks)
    (he : entered? (Text.words line) = some entered) : Unmarked marks (Text.join " " entered) := by
  refine ⟨?_, fun mark hmark => (h.parted mark hmark).of_entered? (hm hmark) he⟩
  rw [words_of_entered? he]
  refine forall_mem_entered? he (by decide) h.importless fun c hc word _ heq => ?_
  -- the keyword would end in the mark of the list
  have hends : ∀ c ∈ [',', ':'], Line.Mark.importWord.getLast? ≠ some c := by decide
  have hsuffix : Line.Mark.importWord <:+ word ++ [c] := heq ▸ List.dropWhile_suffix _
  rcases List.suffix_concat_iff.1 hsuffix with hnil | ⟨front, hfront, -⟩
  · exact absurd hnil (by decide)
  · exact hends c hc (by rw [hfront]; simp)

theorem Unmarked.isImport_eq_false (h : Unmarked marks line) : Line.isImport line = false := by
  rw [Bool.eq_false_iff]
  intro himport
  obtain ⟨word, hword, heq⟩ := Line.exists_word_of_isImport himport
  exact h.importless word hword heq

/-- A mark in one word is not made by entering the capability. -/
theorem occursIn_eq_false_of_entered? (he : entered? (Text.words line) = some entered) {mark : Text}
    (hm : mark ≠ [] ∧ ' ' ∉ mark ∧ ',' ∉ mark ∧ ':' ∉ mark) (hc : ¬ mark <:+: Mark.capability)
    (h : Text.occursIn mark line = false) :
    Text.occursIn mark (Text.join " " entered) = false := by
  obtain ⟨hne, hspace, hcomma, hcolon⟩ := hm
  have hwords : ∀ word ∈ Text.words line, ¬ mark <:+: word := fun word hword hpart => by
    rw [Text.occursIn_iff.2 (hpart.trans (Text.infix_of_mem_words hword))] at h
    cases h
  have hentered := forall_mem_entered? he hc hwords fun c hc' word hword hpart => by
    have hnot : c ∉ mark := by
      simp only [List.mem_cons, List.not_mem_nil, or_false] at hc'
      rcases hc' with rfl | rfl
      · exact hcomma
      · exact hcolon
    rw [Text.infix_append_cons_iff hnot hne] at hpart
    exact hpart.elim hword fun hnil => hne (List.infix_nil.1 hnil)
  rw [Bool.eq_false_iff]
  intro hocc
  obtain ⟨word, hword, hpart⟩ := Text.exists_mem_of_infix_join hne hspace (Text.occursIn_iff.1 hocc)
  exact hentered word hword hpart

/-- The line that takes the capability, word by word. -/
theorem Roomy.addCapability?_eq (h : Roomy (Text.words line) front keyword name rest)
    (hk : keyword ≠ Mark.classOnly ∧ keyword ≠ Mark.classOnlyListed)
    (hnext : addCapability? line = some next) :
    ∃ (front' : List Text) (name' : Text) (rest' : List Text),
      entered? (Text.words line) = some (front' ++ keyword :: name' :: rest') ∧
        next = Text.join " " (front' ++ keyword :: name' :: rest') ∧ front' ⊆ front ∧
        (name' = name ∨ name' = name ++ ":" ∧ Text.trimEnd name = name) ∧
        Mark.capability ∈ rest' := by
  obtain ⟨front', name', rest', hentered, hkept⟩ := h.entered?_eq hk
  have hlength : 2 ≤ (Text.words line).length := by
    rw [h.words_eq, List.length_append, List.length_cons, List.length_cons]
    omega
  rw [Conformance.addCapability?_eq hlength, hentered, Option.map_some, Option.some.injEq] at hnext
  exact ⟨front', name', rest', hentered, hnext.symm, hkept⟩

theorem Roomy.capability (h : Roomy (Text.words line) front keyword name rest)
    (hk : keyword ≠ Mark.classOnly ∧ keyword ≠ Mark.classOnlyListed)
    (hnext : addCapability? line = some next) : Text.occursIn Mark.capability next = true := by
  obtain ⟨front', name', rest', hentered, rfl, -, -, hmem⟩ := h.addCapability?_eq hk hnext
  refine Text.occursIn_iff.2 (Text.infix_of_mem_words ?_)
  rw [words_of_entered? hentered]
  simp [hmem]

theorem Roomy.unmarked (h : Roomy (Text.words line) front keyword name rest)
    (hk : keyword ≠ Mark.classOnly ∧ keyword ≠ Mark.classOnlyListed) (hm : marks ⊆ pairMarks)
    (hu : Unmarked marks line) (hnext : addCapability? line = some next) : Unmarked marks next := by
  obtain ⟨front', name', rest', hentered, rfl, -⟩ := h.addCapability?_eq hk hnext
  exact hu.of_entered? hm hentered

/-- A protocol that is declared with room is declared by the line that takes the capability. -/
theorem Roomy.declaresProtocol (h : Roomy (Text.words line) front Line.Mark.protocolWord name rest)
    (hnext : addCapability? line = some next) :
    Line.declaresProtocol (Line.protocolName name) next = true := by
  obtain ⟨front', name', rest', hentered, rfl, -, hname, -⟩ :=
    h.addCapability?_eq (by decide) hnext
  rw [Line.declaresProtocol, words_of_entered? hentered]
  refine Line.declaresAmong_append ?_
  rcases hname with rfl | ⟨rfl, htrim⟩
  · rfl
  · exact Line.protocolName_append_colon htrim

section Class

variable (h : Roomy (Text.words line) front Line.Mark.classWord name rest)
  (hnext : addCapability? line = some next)
include h hnext

theorem Roomy.className? (hf : Line.Mark.classWord ∉ front) :
    Line.className? next = Line.className? line := by
  have hdrop : ∀ {front rest : List Text} {name : Text}, Line.Mark.classWord ∉ front →
      (front ++ Line.Mark.classWord :: name :: rest).dropWhile (· != Line.Mark.classWord) =
        Line.Mark.classWord :: name :: rest := by
    intro front rest name hnot
    rw [List.dropWhile_append_of_pos, List.dropWhile_cons_of_neg (by simp)]
    intro word hword
    rw [bne_iff_ne]
    rintro rfl
    exact hnot hword
  obtain ⟨front', name', rest', hentered, rfl, hsubset, hname, -⟩ :=
    h.addCapability?_eq (by decide) hnext
  have hfilter : name'.filter (· != ':') = name.filter (· != ':') := by
    rcases hname with rfl | ⟨rfl, -⟩
    · rfl
    · simp
  rw [Line.className?, Line.className?, words_of_entered? hentered, h.words_eq, hdrop hf,
    hdrop fun hm => hf (hsubset hm)]
  simp only [hfilter]

/-- A class declaration with room stays one, unless it is taken for another mark. -/
theorem Roomy.kind (hu : Unmarked pairMarks line) (hkind : Line.kind line = .classDeclaration) :
    Line.kind next = .classDeclaration := by
  obtain ⟨-, hbinding, -, houtlet, -, hprotocol, -, hcolon⟩ :=
    Line.kind_eq_classDeclaration_iff.1 hkind
  have hkept := h.unmarked (by decide) (List.Subset.refl _) hu hnext
  have hpair : ∀ mark ∈ pairMarks, ∀ text : Text, mark.1 ++ ' ' :: mark.2 <+: text →
      Text.occursIn text next = false := fun mark hm text =>
    (hkept.parted mark hm).occursIn_eq_false hm
  have hsetter : Text.occursIn Line.Mark.setter next = false :=
    hpair ("func", "setAccessibilityIdentifiers()") (by decide) _ (by decide)
  have htypealias : Text.occursIn Line.Mark.typealias next = false :=
    hpair ("typealias", "UIElementType") (by decide) _ (by decide)
  obtain ⟨front', name', rest', hentered, hline, -⟩ := h.addCapability?_eq (by decide) hnext
  have hwords := words_of_entered? hentered
  rw [← hline] at hwords
  have hmark : ∀ mark ∈ [Line.Mark.binding, Line.Mark.outlet],
      Text.occursIn mark line = false → Text.occursIn mark next = false := by
    have hmarks : ∀ mark ∈ [Line.Mark.binding, Line.Mark.outlet],
        (mark ≠ [] ∧ ' ' ∉ mark ∧ ',' ∉ mark ∧ ':' ∉ mark) ∧ ¬ mark <:+: Mark.capability := by
      decide
    intro mark hm hnot
    rw [hline]
    exact occursIn_eq_false_of_entered? hentered (hmarks mark hm).1 (hmarks mark hm).2 hnot
  have hclass : Text.occursIn Line.Mark.classWord next = true := by
    refine Text.occursIn_iff.2 (Text.infix_of_mem_words ?_)
    rw [hwords]
    simp
  refine Line.kind_eq_classDeclaration_iff.2 ⟨hsetter, hmark _ (by simp) hbinding, htypealias,
    hmark _ (by simp) houtlet, hkept.isImport_eq_false, ?_, hclass, ?_⟩
  · rw [hwords]
    have hends : ∀ c ∈ [',', ':'], Line.Mark.protocolWord.getLast? ≠ some c := by decide
    have hne : ∀ word ∈ Text.words line, word ≠ Line.Mark.protocolWord := fun word hword heq =>
      hprotocol (heq ▸ hword)
    exact fun hmem => forall_mem_entered? hentered (by decide) hne
      (fun c hc word _ heq => hends c hc (by rw [← heq]; simp)) _ hmem rfl
  · obtain ⟨old, ho, hmem⟩ := Text.exists_word_of_mem (by decide) hcolon
    have hconstraint : ':' ∉ Mark.classOnly ∧ ':' ∉ Mark.classOnlyListed := by decide
    obtain ⟨word, hword, hstart⟩ := exists_prefix_entered? hentered ho
      ⟨fun heq => hconstraint.1 (heq ▸ hmem), fun heq => hconstraint.2 (heq ▸ hmem)⟩
    rw [← hwords] at hword
    exact (Text.infix_of_mem_words hword).subset (hstart.subset hmem)

end Class

end Conformance

end OutletWiring

import OutletWiring.Proofs.Conformance.Declaration

/-!
# The capability in a conformance list

The list of a declaration is worked on by its words: commas belong to the words before them, and a
constraint to classes is told by the comma after it. Here a declaration is given by its parts. The
capability goes to the end of the list and the constraint out of it, wherever it stands, and the
commas are right again.
-/

namespace OutletWiring

namespace Text

/-- The entry of a list that is not its last. -/
def listed (entry : Text) : Text :=
  entry ++ ","

/-- The entries of a list, with a comma after each but the last. -/
def commaSeparated : List Text → List Text
  | [] => []
  | [entry] => [entry]
  | entry :: entries => listed entry :: commaSeparated entries

theorem commaSeparated_concat (front : List Text) (last : Text) :
    commaSeparated (front ++ [last]) = front.map listed ++ [last] := by
  induction front with
  | nil => rfl
  | cons entry front ih =>
    cases front with
    | nil => rfl
    | cons next front =>
      rw [List.cons_append, List.cons_append, commaSeparated, ← List.cons_append, ih]
      · rfl
      · simp

theorem mem_commaSeparated {entries : List Text} {word : Text} (h : word ∈ commaSeparated entries) :
    ∃ entry ∈ entries, word = entry ∨ word = listed entry := by
  fun_induction commaSeparated entries with
  | case1 => cases h
  | case2 entry => exact ⟨entry, by simp, .inl (by simpa using h)⟩
  | case3 entry entries _ ih =>
    rcases List.mem_cons.1 h with rfl | h
    · exact ⟨entry, by simp, .inr rfl⟩
    · obtain ⟨other, hmem, hother⟩ := ih h
      exact ⟨other, by simp [hmem], hother⟩

end Text

namespace Conformance

open Line (Mark.capability Mark.classOnly Mark.classOnlyListed Mark.classWord Mark.protocolWord)

/-- A word that can be the name of a type. -/
def IsEntry (word : Text) : Prop :=
  word ≠ [] ∧ ' ' ∉ word ∧ ',' ∉ word

instance (word : Text) : Decidable (IsEntry word) :=
  inferInstanceAs (Decidable (_ ∧ _))

/-- A declaration with a conformance list, by its parts. The last word opens the body and ends the
line. -/
structure Declaration where
  modifiers : List Text
  keyword : Text
  name : Text
  conformances : List Text
  last : Text
  declares : keyword = Mark.classWord ∨ keyword = Mark.protocolWord
  entries : ∀ word ∈ name :: (modifiers ++ conformances), IsEntry word
  conforms : conformances ≠ []
  constrained_once : conformances.count Mark.classOnly ≤ 1
  not_modified : Mark.classOnly ∉ modifiers
  opens : last.head? = some '\x7b' ∧ ' ' ∉ last

namespace Declaration

variable (d : Declaration)

def frame : List Text :=
  d.modifiers ++ [d.keyword, d.name ++ ":"]

def words : List Text :=
  d.frame ++ Text.commaSeparated d.conformances ++ [d.last]

/-- The declaration with the capability last in its list, and without a constraint to classes. -/
def withCapability : Declaration :=
  { d with
    conformances := d.conformances.filter (· != Mark.classOnly) ++ [Mark.capability]
    entries := by
      have h := d.entries
      simp only [List.forall_mem_cons, List.forall_mem_append] at h ⊢
      exact ⟨h.1, h.2.1, fun word hword => h.2.2 word (List.mem_of_mem_filter hword), by decide,
        fun word hword => absurd hword List.not_mem_nil⟩
    conforms := by simp
    constrained_once := by
      have hfilter : (d.conformances.filter (· != Mark.classOnly)).count Mark.classOnly = 0 :=
        List.count_eq_zero.2 (by simp)
      rw [List.count_append, hfilter]
      decide }

theorem keyword_isEntry : IsEntry d.keyword := by
  rcases d.declares with h | h <;> rw [h] <;> decide

theorem word_of_mem_words : ∀ word ∈ d.words, word ≠ [] ∧ ' ' ∉ word := by
  have hentries := d.entries
  simp only [List.forall_mem_cons, List.forall_mem_append] at hentries
  obtain ⟨hname, hmodifiers, hconformances⟩ := hentries
  intro word hword
  simp only [words, frame, List.mem_append, List.mem_cons, List.not_mem_nil, or_false] at hword
  rcases hword with ((hword | rfl | rfl) | hword) | rfl
  · exact ⟨(hmodifiers word hword).1, (hmodifiers word hword).2.1⟩
  · exact ⟨d.keyword_isEntry.1, d.keyword_isEntry.2.1⟩
  · simp [hname.2.1]
  · obtain ⟨entry, hentry, rfl | rfl⟩ := Text.mem_commaSeparated hword
    · exact ⟨(hconformances _ hentry).1, (hconformances _ hentry).2.1⟩
    · simp [Text.listed, (hconformances entry hentry).2.1]
  · refine ⟨?_, d.opens.2⟩
    rintro hnil
    have hopens := d.opens.1
    simp [hnil] at hopens

/-- The constraint stands before the comma of an entry only where it is the entry. -/
theorem listed_eq_classOnlyListed_iff {entry : Text} :
    Text.listed entry = Mark.classOnlyListed ↔ entry = Mark.classOnly := by
  have hmark : Mark.classOnlyListed = Text.listed Mark.classOnly := by decide
  rw [hmark, Text.listed, Text.listed, List.append_left_inj]

theorem listed_ne_classOnly (entry : Text) : Text.listed entry ≠ Mark.classOnly := by
  intro h
  have hcomma : ',' ∈ Mark.classOnly := h ▸ by simp [Text.listed]
  exact absurd hcomma (by decide)

theorem filter_map_listed (front : List Text) :
    (front.map Text.listed).filter (· != Mark.classOnlyListed) =
      (front.filter (· != Mark.classOnly)).map Text.listed := by
  rw [List.filter_map]
  congr 2
  funext entry
  rw [Function.comp_apply, Bool.eq_iff_iff, bne_iff_ne, bne_iff_ne, Ne, Ne,
    listed_eq_classOnlyListed_iff]

/-- Outside the list nothing is taken for a constraint to classes. -/
theorem ne_of_mem_frame {word : Text} (h : word ∈ d.frame) :
    word ≠ Mark.classOnly ∧ word ≠ Mark.classOnlyListed := by
  have hentries := d.entries
  simp only [List.forall_mem_cons, List.forall_mem_append] at hentries
  simp only [frame, List.mem_append, List.mem_cons, List.not_mem_nil, or_false] at h
  rcases h with h | rfl | rfl
  · have hcomma : ',' ∈ Mark.classOnlyListed := by decide
    exact ⟨fun heq => d.not_modified (heq ▸ h),
      fun heq => (hentries.2.1 word h).2.2 (heq ▸ hcomma)⟩
  · rcases d.declares with hkeyword | hkeyword <;> rw [hkeyword] <;> decide
  · have hcolon : ':' ∉ Mark.classOnly ∧ ':' ∉ Mark.classOnlyListed := by decide
    exact ⟨fun heq => hcolon.1 (heq ▸ by simp), fun heq => hcolon.2 (heq ▸ by simp)⟩

theorem last_ne : d.last ≠ Mark.classOnly ∧ d.last ≠ Mark.classOnlyListed := by
  have hheads : Mark.classOnly.head? ≠ some '\x7b' ∧ Mark.classOnlyListed.head? ≠ some '\x7b' := by
    decide
  exact ⟨fun heq => hheads.1 (heq ▸ d.opens.1), fun heq => hheads.2 (heq ▸ d.opens.1)⟩

theorem three_lt_length_words : 3 < d.words.length := by
  obtain ⟨front, last, h⟩ := (List.eq_nil_or_concat' _).resolve_left d.conforms
  simp only [words, frame, h, Text.commaSeparated_concat, List.length_append, List.length_cons]
  omega

section Last

variable {front : List Text} {entry : Text} (h : d.conformances = front ++ [entry])
include h

theorem words_eq : d.words = d.frame ++ front.map Text.listed ++ [entry, d.last] := by
  simp [words, h, Text.commaSeparated_concat]

/-- A list that ends in the constraint gets the capability in its place. -/
theorem entered?_of_constrained (hentry : entry = Mark.classOnly) :
    entered? d.words = some d.withCapability.words := by
  subst hentry
  have hfront : Mark.classOnly ∉ front := by
    have honce := d.constrained_once
    rw [h, List.count_append, List.count_singleton_self] at honce
    exact List.count_eq_zero.1 (by omega)
  have hkept : d.words.filter (· != Mark.classOnly) =
      d.frame ++ front.map Text.listed ++ [d.last] := by
    have hother : ∀ word ∈ d.frame ++ front.map Text.listed, (word != Mark.classOnly) = true := by
      simp only [List.forall_mem_append, List.forall_mem_map, bne_iff_ne]
      exact ⟨fun word hword => (d.ne_of_mem_frame hword).1, fun word _ => listed_ne_classOnly word⟩
    rw [d.words_eq h, List.filter_append, List.filter_eq_self.2 hother]
    simp [d.last_ne.1]
  have hready : readyList? d.words = some (d.frame ++ front.map Text.listed ++ [d.last]) := by
    rw [readyList?, if_neg (Nat.not_le.2 d.three_lt_length_words),
      if_pos (by simp [d.words_eq h]), hkept]
  have hentries : d.withCapability.conformances = front ++ [Mark.capability] := by
    have hself : front.filter (· != Mark.classOnly) = front := by
      refine List.filter_eq_self.2 fun word hword => ?_
      rw [bne_iff_ne]
      exact fun heq => hfront (heq ▸ hword)
    simp [withCapability, h, hself]
  rw [entered?, hready, Option.bind_some, enter?_append, d.withCapability.words_eq hentries]
  simp [frame, withCapability]

/-- Any other list is continued after its last entry, without the constraint. -/
theorem entered?_of_unconstrained (hentry : entry ≠ Mark.classOnly) :
    entered? d.words = some d.withCapability.words := by
  have hlisted : entry ≠ Mark.classOnlyListed := by
    have hcomma : ',' ∈ Mark.classOnlyListed := by decide
    have hentry := d.entries entry (by simp [h])
    exact fun heq => hentry.2.2 (heq ▸ hcomma)
  have hnot : Mark.classOnly ∉ d.words := by
    rw [d.words_eq h]
    simp only [List.mem_append, List.mem_map, List.mem_cons, List.not_mem_nil, or_false]
    rintro ((hframe | ⟨other, -, hother⟩) | heq | heq)
    · exact (d.ne_of_mem_frame hframe).1 rfl
    · exact listed_ne_classOnly other hother
    · exact hentry heq.symm
    · exact d.last_ne.1 heq.symm
  have hkept : d.words.filter (· != Mark.classOnlyListed) =
      d.frame ++ (front.filter (· != Mark.classOnly)).map Text.listed ++ [entry, d.last] := by
    have hframe : d.frame.filter (· != Mark.classOnlyListed) = d.frame :=
      List.filter_eq_self.2 fun word hword => bne_iff_ne.2 (d.ne_of_mem_frame hword).2
    rw [d.words_eq h, List.filter_append, List.filter_append, hframe, filter_map_listed]
    simp [hlisted, d.last_ne.2]
  have hentries : d.withCapability.conformances =
      front.filter (· != Mark.classOnly) ++ [entry] ++ [Mark.capability] := by
    simp [withCapability, h, hentry]
  rw [entered?, readyList?_of_not_mem (Nat.not_le.2 d.three_lt_length_words) hnot, hkept,
    continueList?_append, Option.bind_some, List.append_cons, enter?_append,
    d.withCapability.words_eq hentries]
  simp [frame, withCapability, Text.listed]

end Last

end Declaration

/-- The capability ends the conformance list of any declaration, and the constraint to classes is
out of it, with commas between the entries and one space between the words. -/
theorem addCapability?_declaration (d : Declaration) {line : Text}
    (hline : Text.Spaced d.words line) :
    addCapability? line = some (Text.join " " d.withCapability.words) := by
  have hwords : Text.words line = d.words := hline.words_eq d.word_of_mem_words
  have hlength := d.three_lt_length_words
  obtain ⟨front, entry, hfront⟩ := (List.eq_nil_or_concat' _).resolve_left d.conforms
  rw [addCapability?_eq (by rw [hwords]; omega), hwords]
  by_cases hentry : entry = Mark.classOnly
  · rw [d.entered?_of_constrained hfront hentry, Option.map_some]
  · rw [d.entered?_of_unconstrained hfront hentry, Option.map_some]

/-- A class whose list has a constraint in its middle. -/
def Declaration.loginView : Declaration where
  modifiers := ["public", "final"]
  keyword := Mark.classWord
  name := "LoginView"
  conformances := ["UIView", Mark.classOnly, "Presentable"]
  last := "\x7b\r\n"
  declares := by decide
  entries := by decide
  conforms := by decide
  constrained_once := by decide
  not_modified := by decide
  opens := by decide

theorem addCapability?_declaration_loginView :
    addCapability? "public  final class LoginView: UIView,   AnyObject, Presentable \x7b\r\n" =
      some ("public final class LoginView: UIView, Presentable, " ++
        "AccessibilityIdentifiable \x7b\r\n").toList := by
  have hspaced : Text.Spaced Declaration.loginView.words
      "public  final class LoginView: UIView,   AnyObject, Presentable \x7b\r\n" :=
    ⟨[("public", 1), ("final", 0), (Mark.classWord, 0), ("LoginView:", 0), ("UIView,", 2),
      (Mark.classOnlyListed, 0), ("Presentable", 0)], "\x7b\r\n", by decide, by decide⟩
  exact addCapability?_declaration Declaration.loginView hspaced

end Conformance

end OutletWiring

import OutletWiring.Proofs.Identifiers.Probe
import OutletWiring.Proofs.Page.Citations

/-!
# The setter, the enum and the page object agree

Three texts are written for a subject, each from its outlets on its own: a setter that binds cases,
an enum that declares them, and a page object that cites them. They fit together only if the cases
are the same. Here they are read back from the lines: the setter and the enum have exactly the cases
of the subject, in order, and the page object cites no other case and no other enum.
-/

namespace OutletWiring

open Text (Lacks)

namespace Text

variable {c : Char}

/-- A mark that ends in its only such character is found last where that character is. -/
theorem afterLast_append {mark rest : Text} (hm : c ∉ mark) (hr : c ∉ rest) (front : Text) :
    afterLast (mark ++ [c]) (front ++ (mark ++ c :: rest)) = rest := by
  induction front with
  | nil =>
    have hpre : afterPrefix? (mark ++ [c]) (mark ++ c :: rest) = some rest := by
      have hlist : mark ++ c :: rest = (mark ++ [c]) ++ rest := by simp
      rw [hlist, afterPrefix?, if_pos (by simp), List.drop_left]
    cases mark with
    | nil =>
      have hocc : occursIn [c] rest = false := occursIn_eq_false_of_not_mem (by simp) hr
      simp only [List.nil_append] at hpre ⊢
      rw [afterLast, hocc, hpre]
      rfl
    | cons x mark =>
      -- the rest of the mark is too short for the mark
      have hocc : occursIn (x :: mark ++ [c]) (mark ++ c :: rest) = false := by
        rw [Bool.eq_false_iff, Ne, occursIn_iff,
          append_cons_infix_iff (fun hc => hm (by simp [hc])) hr]
        rintro ⟨hsuffix, -⟩
        have hlength := hsuffix.length_le
        rw [List.length_cons] at hlength
        omega
      simp only [List.nil_append, List.cons_append] at hpre hocc ⊢
      rw [afterLast, hocc, hpre]
      rfl
  | cons x front ih =>
    have hocc : occursIn (mark ++ [c]) (front ++ (mark ++ c :: rest)) = true :=
      occursIn_iff.2 ⟨front, rest, by simp⟩
    rw [List.cons_append, afterLast, hocc]
    exact ih

end Text

namespace Identifiers

open Draft (row)
open Line (Mark.binding)

/-! ## Cases that are bound -/

def boundCase? (line : Text) : Option Text :=
  if Text.occursIn Mark.binding line then
    some ((Text.afterLast "using: ." line).takeWhile fun c => c != ',' && c != ')')
  else none

theorem boundCase?_eq_some {front name after : Text} {c : Char}
    (hf : Text.occursIn Mark.binding front = true) (hn : Lacks .ofCases name)
    (hc : c = ',' ∨ c = ')') (ha : '.' ∉ after) :
    boundCase? (front ++ ("using: " ++ '.' :: (name ++ c :: after))) = some name := by
  have hrest : '.' ∉ name ++ c :: after := by
    have hdot : '.' ∉ name := hn.not_mem (by decide)
    rcases hc with rfl | rfl <;> simp [hdot, ha]
  have hmark : ("using: ." : Text) = "using: ".toList ++ ['.'] := by decide
  have htake : (name ++ c :: after).takeWhile (fun c => c != ',' && c != ')') = name := by
    rw [List.takeWhile_append_of_pos, List.takeWhile_cons_of_neg, List.append_nil]
    · rcases hc with rfl | rfl <;> decide
    · intro x hx
      have hcomma : x ≠ ',' := fun heq => hn.not_mem (by decide) (heq ▸ hx)
      have hparen : x ≠ ')' := fun heq => hn.not_mem (by decide) (heq ▸ hx)
      simp [hcomma, hparen]
  rw [boundCase?, if_pos (Text.occursIn_append_left hf), hmark,
    Text.afterLast_append (by decide) hrest, htake]

theorem boundCase?_bindingRow (target : Text) {name : Text} (hn : Lacks .ofCases name) :
    boundCase? (bindingRow target name) = some name := by
  have hrow : bindingRow target name = ("\t\t" ++ Mark.binding ++ target ++ ", ") ++
      ("using: " ++ '.' :: (name ++ ')' :: ['\n'])) := by
    simp [bindingRow, row]
  rw [hrow]
  refine boundCase?_eq_some (Text.occursIn_append_left (Text.occursIn_append_left ?_)) hn (.inr rfl)
    (by decide)
  decide

theorem boundCase?_cellRow {subject : Subject} (h : subject.Lacks .ofCases) :
    boundCase? (cellRow subject) = some subject.cellIdentifier := by
  have hrow : cellRow subject = ("\t\t" ++ Mark.binding ++ "self, ") ++
      ("using: " ++ '.' :: (subject.cellIdentifier ++ ',' :: " index: index)\n".toList)) := by
    simp [cellRow, row]
  rw [hrow]
  exact boundCase?_eq_some (by decide) h.cellIdentifier (.inl rfl) (by decide)

theorem boundCase?_eq_none {line : Text} (h : Text.occursIn Mark.binding line = false) :
    boundCase? line = none := by
  rw [boundCase?, h]
  rfl

theorem boundCase?_eq_none_of_not_mem {line : Text} (h : '(' ∉ line) : boundCase? line = none :=
  boundCase?_eq_none (Text.occursIn_eq_false_of_not_mem (by decide) h)

theorem filterMap_boundCase?_bindingLines {outlet : Outlet} (h : Lacks .ofCases outlet.name) :
    (bindingLines outlet).filterMap boundCase? = outlet.cases := by
  have hfield : Lacks .ofCases outlet.textFieldCase :=
    h.append (Text.lacks_of_letters (by decide))
  rw [bindingLines_eq, Outlet.cases, List.filterMap_cons, boundCase?_bindingRow _ h]
  split_ifs
  · simp [boundCase?_bindingRow _ hfield]
  · rfl

section Lacks

variable {subject : Subject} (h : subject.Lacks .ofCases)
include h

theorem filterMap_boundCase?_outlets :
    (subject.outlets.flatMap bindingLines).filterMap boundCase? =
      subject.outlets.flatMap Outlet.cases := by
  rw [List.filterMap_flatMap]
  exact List.flatMap_congr fun outlet ho => filterMap_boundCase?_bindingLines (h.outlets outlet ho)

theorem filterMap_boundCase?_cellRows : (cellRows subject).filterMap boundCase? =
    if subject.identifiesCell then [subject.cellIdentifier] else [] := by
  have hframe : boundCase? (row 0 []) = none ∧
      boundCase? (row 1 "func setAccessibilityIdentifiers(at index: Int) \x7b") = none ∧
      boundCase? (row 1 "\x7d") = none := by decide
  unfold cellRows
  split_ifs
  · simp only [List.filterMap_cons, List.filterMap_nil, hframe, boundCase?_cellRow h]
  · rfl

theorem filterMap_boundCase?_setterBlock :
    (setterBlock subject).filterMap boundCase? = subject.cases := by
  have hclosing : boundCase? (row 1 "\x7d") = none ∧ boundCase? (row 0 "\x7d") = none := by decide
  have hfixed : boundCase? (row 0 []) = none ∧ boundCase? (row 0 "// MARK: - UITestable") = none ∧
      boundCase? (row 1 (Line.Mark.setter ++ " \x7b")) = none := by decide
  have hextension : boundCase? (row 0 ("extension " ++ subject.className ++ ": UITestablePage \x7b")) =
      none := by
    have hclass : '(' ∉ subject.className := h.className.not_mem (by decide)
    exact boundCase?_eq_none_of_not_mem (by simp [row, hclass])
  have htypealias : boundCase? (row 1 (Line.Mark.typealias ++ subject.enumName)) = none := by
    have henum : '(' ∉ subject.enumName := h.enumName.not_mem (by decide)
    have hmark : '(' ∉ Line.Mark.typealias := by decide
    exact boundCase?_eq_none_of_not_mem (by simp [row, henum, hmark])
  have hhead : (setterHead subject).filterMap boundCase? = [] := by
    unfold setterHead
    simp only [List.filterMap_cons, List.filterMap_nil, hfixed, hextension, htypealias]
  rw [setterBlock_eq, List.filterMap_append, List.filterMap_append, hhead,
    filterMap_boundCase?_outlets h, List.filterMap_cons, hclosing.1, List.filterMap_append,
    filterMap_boundCase?_cellRows h, List.filterMap_cons, hclosing.2, Subject.cases]
  simp

end Lacks

/-! ## Cases that are declared -/

def declaredCase? (line : Text) : Option Text :=
  (Text.afterPrefix? "case " (Text.trimStart line)).map (·.takeWhile (· != '\n'))

theorem trimStart_row (level : Nat) {c : Char} {text : Text} (h : Text.isBlank c = false) :
    Text.trimStart (row level (c :: text)) = c :: (text ++ ['\n']) := by
  have htabs : ∀ x ∈ List.replicate level '\t', Text.isBlank x = true := by
    intro x hx
    rw [List.eq_of_mem_replicate hx]
    decide
  rw [Text.trimStart, row, List.append_assoc, List.dropWhile_append_of_pos htabs, List.cons_append,
    List.dropWhile_cons_of_neg (by simp [h])]

theorem declaredCase?_caseRow {name : Text} (h : Lacks .ofCases name) :
    declaredCase? (caseRow name) = some name := by
  have htrim : Text.trimStart (caseRow name) = ("case " : Text) ++ (name ++ '\n' :: []) := by
    have hblank : Text.isBlank 'c' = false := by decide
    have hrow : caseRow name = row 2 ('c' :: (("ase " : Text) ++ name)) := by simp [caseRow]
    rw [hrow, trimStart_row 2 hblank]
    simp
  have hpre : Text.afterPrefix? "case " (("case " : Text) ++ (name ++ '\n' :: [])) =
      some (name ++ '\n' :: []) := by
    rw [Text.afterPrefix?, if_pos (by simp), List.drop_left]
  rw [declaredCase?, htrim, hpre, Option.map_some,
    Line.takeWhile_append_cons (h.not_mem (by decide))]

theorem declaredCase?_eq_none (level : Nat) {c : Char} (text : Text) (hb : Text.isBlank c = false)
    (hc : c ≠ 'c') : declaredCase? (row level (c :: text)) = none := by
  have hpre : Text.afterPrefix? "case " (c :: (text ++ ['\n'])) = none := by
    simp [Text.afterPrefix?, Ne.symm hc]
  rw [declaredCase?, trimStart_row level hb, hpre, Option.map_none]

section Lacks

variable {subject : Subject} (h : subject.Lacks .ofCases)
include h

theorem filterMap_declaredCase?_caseLines :
    (caseLines subject).filterMap declaredCase? = subject.cases := by
  rw [caseLines_eq, List.filterMap_map]
  refine (List.filterMap_congr fun name hn => ?_).trans List.filterMap_some
  exact declaredCase?_caseRow (h.of_mem_cases hn)

theorem filterMap_declaredCase?_enumBlock :
    (enumBlock subject).filterMap declaredCase? = subject.cases := by
  have hhead : (enumHead subject).filterMap declaredCase? = [] := by
    have hfixed : declaredCase? (row 0 []) = none ∧
        declaredCase? (row 0 "public extension UIElements \x7b") = none := by decide
    have henum : declaredCase? (row 1 ("enum " ++ subject.enumName ++ ": String, UIElement \x7b")) =
        none :=
      declaredCase?_eq_none 1 (c := 'e') _ (by decide) (by decide)
    have hmark : declaredCase? (row 2 ("// MARK: - " ++ subject.className)) = none :=
      declaredCase?_eq_none 2 (c := '/') _ (by decide) (by decide)
    unfold enumHead
    simp only [List.filterMap_cons, List.filterMap_nil, hfixed, henum, hmark]
  have hclosing : declaredCase? (row 1 "\x7d") = none ∧ declaredCase? (row 0 "\x7d") = none := by
    decide
  rw [enumBlock_eq, List.filterMap_append, List.filterMap_append, hhead,
    filterMap_declaredCase?_caseLines h, List.filterMap_cons, hclosing.1, List.filterMap_cons,
    hclosing.2, List.filterMap_nil, List.nil_append, List.append_nil]

end Lacks

end Identifiers

/-! ## Agreement -/

/-- The citation is that of a case of the subject, in the enum of the subject. -/
def Citation.Of (subject : Subject) : Citation → Prop
  | full enumName name => enumName = subject.enumName ∧ name ∈ subject.cases
  | short name => name ∈ subject.cases

namespace Page

variable {variant : Variant} {subject : Subject}

theorem citation_of {outlet : Outlet} (ho : outlet ∈ subject.outlets) :
    (citation variant subject outlet).Of subject := by
  have hcase : outlet.name ∈ subject.cases := by
    simp only [Subject.cases, List.mem_append, List.mem_flatMap]
    refine .inl ⟨outlet, ho, ?_⟩
    unfold Outlet.cases
    split_ifs <;> simp
  unfold citation
  split_ifs
  · exact hcase
  · exact ⟨rfl, hcase⟩

theorem cited_of (h : subject.Lacks .ofCases) {page : Lines}
    (hp : page ∈ [fresh variant subject, extension variant subject]) :
    ∀ citation ∈ page.flatMap Line.cited, citation.Of subject := by
  have houtlets : ∀ cited ∈ subject.outlets.map (citation variant subject), cited.Of subject :=
    List.forall_mem_map.2 fun outlet ho => citation_of ho
  simp only [List.mem_cons, List.not_mem_nil, or_false] at hp
  rcases hp with rfl | rfl
  · rw [cited_fresh h]
    refine List.forall_mem_append.2 ⟨?_, houtlets⟩
    split_ifs with hcell
    · refine List.forall_mem_singleton.2 ⟨rfl, ?_⟩
      simp [Subject.cases, hcell]
    · simp
  · rw [cited_extension h]
    exact houtlets

theorem mem_cited_of_outlet (h : subject.Lacks .ofCases) {page : Lines}
    (hp : page ∈ [fresh variant subject, extension variant subject]) {outlet : Outlet}
    (ho : outlet ∈ subject.outlets) :
    citation variant subject outlet ∈ page.flatMap Line.cited := by
  simp only [List.mem_cons, List.not_mem_nil, or_false] at hp
  rcases hp with rfl | rfl
  · rw [cited_fresh h]
    exact List.mem_append_right _ (List.mem_map_of_mem ho)
  · rw [cited_extension h]
    exact List.mem_map_of_mem ho

end Page

namespace Identifiers

/-- The setter binds the cases of the subject in order, and the enum declares them in order; so do
the bindings and cases that are put in for outlets wired later. Whatever a page object cites is one
of these cases, in the enum of the subject, and it cites the case of each outlet. -/
theorem artifacts_share_cases {subject : Subject} (h : subject.Lacks .ofCases) (variant : Variant) :
    (setterBlock subject).filterMap boundCase? = subject.cases ∧
      (enumBlock subject).filterMap declaredCase? = subject.cases ∧
      (caseLines subject).filterMap declaredCase? = subject.cases ∧
      (subject.alreadyGenerated = true →
        (subject.outlets.flatMap bindingLines).filterMap boundCase? = subject.cases) ∧
      ∀ page ∈ [Page.fresh variant subject, Page.extension variant subject],
        (∀ line ∈ page, ∀ citation : Citation, citation.Delimited → citation.text <:+: line →
          citation.Of subject) ∧
        ∀ outlet ∈ subject.outlets, ∃ line ∈ page,
          (Page.citation variant subject outlet).text <:+: line := by
  refine ⟨filterMap_boundCase?_setterBlock h, filterMap_declaredCase?_enumBlock h,
    filterMap_declaredCase?_caseLines h, fun hg => ?_, fun page hp => ⟨?_, ?_⟩⟩
  · rw [filterMap_boundCase?_outlets h, Subject.cases]
    simp [Subject.identifiesCell, hg]
  · intro line hline citation hd hinfix
    exact Page.cited_of h hp citation
      (List.mem_flatMap.2 ⟨line, hline, Line.mem_cited_iff.2 ⟨hd, hinfix⟩⟩)
  · intro outlet ho
    obtain ⟨line, hline, hcited⟩ := List.mem_flatMap.1 (Page.mem_cited_of_outlet h hp ho)
    exact ⟨line, hline, (Line.mem_cited_iff.1 hcited).2⟩

theorem artifacts_share_cases_searchCell :
    (∀ wired, (Subject.searchCell wired).Lacks .ofCases) ∧
      (setterBlock (.searchCell false)).filterMap boundCase? =
        ["searchBar".toList, "searchBarTextField".toList, "clearButton".toList,
          "resultTableViewCell".toList] ∧
      (Subject.searchCell true).alreadyGenerated = true ∧
      ((Subject.searchCell true).outlets.flatMap bindingLines).filterMap boundCase? =
        ["searchBar".toList, "searchBarTextField".toList, "clearButton".toList] ∧
      ∀ page ∈ [Page.fresh .qa (.searchCell false), Page.extension .qa (.searchCell false)],
        ∀ line ∈ page, ∀ citation : Citation, citation.Delimited → citation.text <:+: line →
          citation.Of (.searchCell false) := by
  have hnames : ∀ wired, (Subject.searchCell wired).Lacks .ofCases := by
    intro wired
    cases wired <;> exact ⟨by decide, by decide, by decide⟩
  have hcases : (Subject.searchCell false).cases = ["searchBar".toList,
      "searchBarTextField".toList, "clearButton".toList, "resultTableViewCell".toList] ∧
      (Subject.searchCell true).cases = ["searchBar".toList, "searchBarTextField".toList,
        "clearButton".toList] := by decide
  obtain ⟨hsetter, -, -, -, hpages⟩ := artifacts_share_cases (hnames false) .qa
  obtain ⟨-, -, -, hlater, -⟩ := artifacts_share_cases (hnames true) .qa
  exact ⟨hnames, hsetter.trans hcases.1, rfl, (hlater rfl).trans hcases.2,
    fun page hp => (hpages page hp).1⟩

end Identifiers

end OutletWiring

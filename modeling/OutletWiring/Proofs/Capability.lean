import OutletWiring.Proofs.Conformance
import OutletWiring.Proofs.Line.Quiet
import OutletWiring.Proofs.Lines.Reading
import Mathlib.Data.List.TakeWhile

/-!
# A declaration with the capability on it

A declaration is taken apart into words and put together again. Only its last word can hold the
newline, and from three words on that word stays the last, so the line stays one line. Of two words
the second gets a colon after its newline. Then the line is read back as two, but neither is an
outlet if the names that are declared hold no attribute.
-/

namespace OutletWiring

namespace Text

theorem infix_of_mem_split {c : Char} {text piece : Text} (h : piece ∈ split c text) :
    piece <:+: text := by
  induction hn : text.length using Nat.strong_induction_on generalizing text with
  | _ n ih =>
    by_cases hc : c ∈ text
    · obtain ⟨xs, ys, rfl, hxs⟩ := List.eq_append_cons_of_mem hc
      rw [split_append_cons, split_of_not_mem hxs, List.singleton_append, List.mem_cons] at h
      rcases h with rfl | h
      · exact (List.prefix_append ..).isInfix
      · exact (ih ys.length (by simp [← hn]; omega) h rfl).trans
          ((List.suffix_cons c ys).trans (List.suffix_append xs _)).isInfix
    · rw [split_of_not_mem hc, List.mem_singleton] at h
      exact h ▸ List.infix_rfl

theorem infix_of_mem_words {line word : Text} (h : word ∈ words line) : word <:+: line :=
  infix_of_mem_split (List.mem_filter.1 h).1

/-- What stands in front of some character of a line stands in front of its last. -/
theorem mem_dropLast_of_infix {line front : Text} {c x : Char} (h : front ++ [c] <:+: line)
    (hx : x ∈ front) : x ∈ line.dropLast := by
  obtain ⟨before, after, rfl⟩ := h
  have hline : before ++ (front ++ [c]) ++ after = (before ++ front) ++ (c :: after) := by simp
  rw [hline, List.dropLast_append_of_ne_nil (List.cons_ne_nil _ _)]
  simp [hx]

theorem mem_join {separator : Text} {pieces : List Text} {c : Char}
    (h : c ∈ join separator pieces) : c ∈ separator ∨ ∃ piece ∈ pieces, c ∈ piece := by
  fun_induction join separator pieces with
  | case1 => cases h
  | case2 piece => exact .inr ⟨piece, by simp, h⟩
  | case3 piece pieces _ ih =>
    simp only [List.mem_append] at h
    rcases h with (h | h) | h
    · exact .inr ⟨piece, by simp, h⟩
    · exact .inl h
    · exact (ih h).imp_right fun ⟨next, hnext, hc⟩ => ⟨next, by simp [hnext], hc⟩

theorem join_concat (separator : Text) {front : List Text} (h : front ≠ []) (last : Text) :
    join separator (front ++ [last]) = join separator front ++ separator ++ last := by
  induction front with
  | nil => exact absurd rfl h
  | cons piece front ih =>
    cases front with
    | nil => rfl
    | cons next front =>
      have hrest := ih (by simp)
      simp only [List.cons_append] at hrest
      simp [join, hrest]

theorem mem_dropEndWhile {p : Char → Bool} {text : Text} {c : Char} (hp : p c = false)
    (h : c ∈ text) : c ∈ dropEndWhile p text := by
  have hsplit : text = dropEndWhile p text ++ (text.reverse.takeWhile p).reverse := by
    rw [dropEndWhile, ← List.reverse_append, List.takeWhile_append_dropWhile, List.reverse_reverse]
  rw [hsplit, List.mem_append, List.mem_reverse] at h
  refine h.resolve_right fun hm => ?_
  rw [List.mem_takeWhile_imp hm] at hp
  cases hp

end Text

namespace Line

variable {line name first second : Text}

/-- A name without an attribute is declared by words without one. -/
theorem not_mem_of_declaresProtocol (hw : Text.words line = [first, second])
    (h : declaresProtocol name line = true) (hn : '@' ∉ name) : '@' ∉ first ∧ '@' ∉ second := by
  rw [declaresProtocol, hw] at h
  rcases declaresAmong_cons h with ⟨rfl, next, hnext, rfl⟩ | h
  · simp only [List.head?_cons, Option.mem_def, Option.some.injEq] at hnext
    subst hnext
    refine ⟨by decide, fun hm => hn ?_⟩
    exact Text.mem_dropEndWhile (by decide) (Text.mem_dropEndWhile (by decide) hm)
  · cases h

theorem not_mem_of_className? (hw : Text.words line = [first, second])
    (h : className? line = some name) (hn : '@' ∉ name) : '@' ∉ first ∧ '@' ∉ second := by
  unfold className? at h
  rw [hw] at h
  by_cases hf : first = Mark.classWord
  · subst hf
    simp only [List.dropWhile_cons, bne_self_eq_false, Bool.false_eq_true, if_false,
      Option.ite_none_left_eq_some, Option.some.injEq] at h
    obtain ⟨-, rfl⟩ := h
    exact ⟨by decide, fun hm => hn (List.mem_filter.2 ⟨hm, by decide⟩)⟩
  · have hdrop : ([first, second] : List Text).dropWhile (· != Mark.classWord) =
        [second].dropWhile (· != Mark.classWord) := by
      simp [List.dropWhile_cons, hf]
    rw [hdrop] at h
    by_cases hs : second = Mark.classWord <;> simp [hs] at h

end Line

namespace Conformance

open Line (Mark.capability Mark.classOnly Mark.classOnlyListed)

/-- The words of a line that holds a newline at its end only: no word but the last holds one. -/
def Ended (words : List Text) : Prop :=
  ∃ front last, words = front ++ [last] ∧ (∀ word ∈ front, '\n' ∉ word) ∧ '\n' ∉ last.dropLast

theorem ended_words {line : Text} (h : Lines.Single line) (hw : Text.words line ≠ []) :
    Ended (Text.words line) := by
  obtain ⟨front, last, heq⟩ := (List.eq_nil_or_concat' _).resolve_left hw
  refine ⟨front, last, heq, fun word hword hm => h.2 ?_, fun hm => h.2 ?_⟩
  · obtain ⟨before, after, rfl⟩ := List.append_of_mem hword
    obtain ⟨next, rest, hrest⟩ := List.exists_cons_of_ne_nil (show after ++ [last] ≠ [] by simp)
    have hsplit : Text.words line = before ++ word :: next :: rest := by
      rw [heq, List.append_assoc, List.cons_append, hrest]
    exact Text.mem_dropLast_of_infix (Line.append_space_infix_of_words hsplit) hm
  · have hinfix : last <:+: line := Text.infix_of_mem_words (by rw [heq]; simp)
    have hlast : last ≠ [] := fun hnil => by simp [hnil] at hm
    obtain ⟨init, c, rfl⟩ := (List.eq_nil_or_concat' last).resolve_left hlast
    exact Text.mem_dropLast_of_infix hinfix (by simpa using hm)

theorem Ended.not_mem_dropLast_join {words : List Text} (h : Ended words) :
    '\n' ∉ (Text.join " " words).dropLast := by
  obtain ⟨front, last, rfl, hfront, hlast⟩ := h
  by_cases hf : front = []
  · subst hf
    exact hlast
  · have hjoin : '\n' ∉ Text.join " " front ++ " ".toList := by
      intro hm
      rcases List.mem_append.1 hm with hm | hm
      · rcases Text.mem_join hm with hm | ⟨word, hword, hm⟩
        · exact absurd hm (by decide)
        · exact hfront word hword hm
      · exact absurd hm (by decide)
    rw [Text.join_concat _ hf]
    by_cases hl : last = []
    · rw [hl, List.append_nil]
      exact fun hm => hjoin (List.dropLast_subset _ hm)
    · rw [List.dropLast_append_of_ne_nil hl, List.mem_append, not_or]
      exact ⟨hjoin, hlast⟩

/-- Words can be left out. -/
theorem Ended.filter {words : List Text} (h : Ended words) {keep : Text → Bool}
    (hne : words.filter keep ≠ []) : Ended (words.filter keep) := by
  obtain ⟨front, last, rfl, hfront, hlast⟩ := h
  have hkept : ∀ word ∈ front.filter keep, '\n' ∉ word := fun word hword =>
    hfront word (List.mem_of_mem_filter hword)
  by_cases hk : keep last = true
  · exact ⟨front.filter keep, last, by simp [List.filter_append, hk], hkept, hlast⟩
  · have heq : (front ++ [last]).filter keep = front.filter keep := by
      simp [List.filter_append, hk]
    rw [heq] at hne ⊢
    obtain ⟨init, final, hinit⟩ := (List.eq_nil_or_concat' _).resolve_left hne
    rw [hinit] at hkept ⊢
    exact ⟨init, final, rfl, fun word hword => hkept word (by simp [hword]),
      fun hm => hkept final (by simp) (List.dropLast_subset _ hm)⟩

theorem continueList?_eq_some {words ready : List Text} (h : continueList? words = some ready) :
    ∃ (front : List Text) (word last : Text), words = front ++ [word, last] ∧
      ready = front ++ [word ++ ",", last] := by
  fun_induction continueList? words generalizing ready with
  | case1 => cases h
  | case2 => cases h
  | case3 word last =>
    rw [Option.some.injEq] at h
    exact ⟨[], word, last, rfl, h.symm⟩
  | case4 word rest _ _ ih =>
    obtain ⟨tail, htail, rfl⟩ := Option.map_eq_some_iff.1 h
    obtain ⟨front, next, last, rfl, rfl⟩ := ih htail
    exact ⟨word :: front, next, last, rfl, rfl⟩

theorem Ended.continueList? {words ready : List Text} (h : Ended words)
    (hready : continueList? words = some ready) : Ended ready := by
  obtain ⟨front, word, last, rfl, rfl⟩ := continueList?_eq_some hready
  obtain ⟨front', last', heq, hfront, hlast⟩ := h
  have hsplit : (front ++ [word]) ++ [last] = front' ++ [last'] := by simpa using heq
  obtain ⟨rfl, hlasts⟩ := List.append_inj' hsplit rfl
  rw [List.singleton_inj] at hlasts
  subst hlasts
  refine ⟨front ++ [word ++ ","], last, by simp, ?_, hlast⟩
  rw [List.forall_mem_append] at hfront ⊢
  refine ⟨hfront.1, ?_⟩
  simpa using hfront.2

/-- From three words on, the last word stays the last. -/
theorem Ended.readyList? {words ready : List Text} (h : Ended words) (hlen : 3 ≤ words.length)
    (hready : readyList? words = some ready) : Ended ready ∨ ready = [] := by
  unfold Conformance.readyList? at hready
  split_ifs at hready with hthree hclass hlisted
  · obtain ⟨front, last, rfl, hfront, hlast⟩ := h
    have htwo : front.length = 2 := by
      simp only [List.length_append, List.length_singleton] at hthree hlen
      omega
    obtain ⟨first, second, rfl⟩ := List.length_eq_two.1 htwo
    rw [Option.some.injEq] at hready
    subst hready
    refine .inl ⟨[first, second ++ ":"], last, rfl, ?_, hlast⟩
    simpa using hfront
  · rw [Option.some.injEq] at hready
    subst hready
    by_cases hne : words.filter (· != Mark.classOnly) = []
    · exact .inr hne
    · exact .inl (h.filter hne)
  · by_cases hne : words.filter (· != Mark.classOnlyListed) = []
    · rw [hne] at hready
      cases hready
    · exact .inl ((h.filter hne).continueList? hready)
  · exact .inl (h.continueList? hready)

theorem enter?_eq_some {words entered : List Text} (h : enter? words = some entered) :
    ∃ (front : List Text) (last : Text), words = front ++ [last] ∧
      entered = front ++ [Mark.capability, last] := by
  unfold enter? at h
  obtain ⟨last, hlast, rfl⟩ := Option.map_eq_some_iff.1 h
  obtain ⟨front, rfl⟩ := List.getLast?_eq_some_iff.1 hlast
  exact ⟨front, last, rfl, by simp⟩

theorem Ended.enter? {words entered : List Text} (h : Ended words)
    (hentered : enter? words = some entered) : Ended entered := by
  obtain ⟨front, last, rfl, rfl⟩ := enter?_eq_some hentered
  obtain ⟨front', last', heq, hfront, hlast⟩ := h
  obtain ⟨rfl, hlasts⟩ := List.append_inj' heq rfl
  rw [List.singleton_inj] at hlasts
  subst hlasts
  refine ⟨front ++ [Mark.capability], last, by simp, ?_, hlast⟩
  rw [List.forall_mem_append, List.forall_mem_singleton]
  exact ⟨hfront, by decide⟩

theorem join_ne_nil_of_enter? {words entered : List Text} (h : enter? words = some entered) :
    Text.join " " entered ≠ [] := by
  obtain ⟨front, last, rfl, rfl⟩ := enter?_eq_some h
  intro hnil
  have hsplit : front ++ [Mark.capability, last] = (front ++ [Mark.capability]) ++ [last] := by simp
  rw [hsplit, Text.join_concat _ (by simp)] at hnil
  simp at hnil

/-- A line that takes the capability stays one line, or it is two words. -/
theorem single_of_addCapability? {line next : Text} (h : Lines.Single line)
    (hnext : addCapability? line = some next) :
    next ≠ [] ∧ (Lines.Single next ∨
      ∃ first second, Text.words line = [first, second] ∧
        next = Text.join " " [first, Mark.capability, second ++ ":"]) := by
  unfold addCapability? at hnext
  simp only at hnext
  split_ifs at hnext with hlen
  · rw [Option.some.injEq] at hnext
    subst hnext
    exact ⟨h.1, .inl h⟩
  · obtain ⟨entered, hentered, rfl⟩ := Option.map_eq_some_iff.1 hnext
    obtain ⟨ready, hready, hentered⟩ := Option.bind_eq_some_iff.1 hentered
    have hne := join_ne_nil_of_enter? hentered
    refine ⟨hne, ?_⟩
    by_cases htwo : (Text.words line).length = 2
    · obtain ⟨first, second, hwords⟩ := List.length_eq_two.1 htwo
      rw [hwords] at hready
      simp only [readyList?, List.length_cons, List.length_nil, Nat.reduceAdd, Nat.reduceLeDiff,
        if_true, openList, Option.some.injEq] at hready
      subst hready
      simp only [Conformance.enter?, List.getLast?_cons_cons, List.getLast?_singleton,
        Option.map_some, Option.some.injEq] at hentered
      exact .inr ⟨first, second, hwords, by rw [← hentered]; rfl⟩
    · have hended := ended_words h fun hnil => by simp [hnil] at hlen
      rcases hended.readyList? (by omega) hready with hended | rfl
      · exact .inl ⟨hne, (hended.enter? hentered).not_mem_dropLast_join⟩
      · cases hentered

/-- The declaration that takes the capability is of the interface protocol or of the class. -/
theorem getElem?_target {lines : Lines} {declared : Lines.ClassDeclaration} {line : Text}
    (hc : lines.classDeclaration? = some declared)
    (hline : lines[target lines declared]? = some line) :
    Line.declaresProtocol (Naming.viewProtocol declared.name) line = true ∨
      Line.className? line = some declared.name := by
  obtain ⟨-, classLine, hclass, hname⟩ := Lines.classDeclaration?_eq_some_iff.1 hc
  obtain ⟨found, hfound, hd⟩ := exists_getElem?_target hclass
  obtain rfl : found = line := by simpa [hfound] using hline
  exact hd.imp id fun heq => by rw [heq, hname]

/-- The line is read back as one line, or it holds no attribute. -/
def Readable (line : Text) : Prop :=
  line ≠ [] ∧ (Lines.Single line ∨ '@' ∉ line)

theorem readable_of_single {line : Text} (h : Lines.Single line) : Readable line :=
  ⟨h.1, .inl h⟩

theorem readable_declareAt? {lines edited : Lines} {declared : Lines.ClassDeclaration}
    {events : List Event} (hs : ∀ line ∈ lines, Lines.Single line)
    (hc : lines.classDeclaration? = some declared) (hn : '@' ∉ declared.name)
    (he : declareAt? lines (target lines declared) = some (edited, events)) :
    ∀ line ∈ edited, Readable line := by
  obtain ⟨line, hline, rfl | ⟨next, hnext, rfl⟩⟩ := declareAt?_eq_some he
  · exact fun line hmem => readable_of_single (hs line hmem)
  · obtain ⟨hne, hnext⟩ := single_of_addCapability? (hs line (List.mem_of_getElem? hline)) hnext
    intro other hother
    rcases List.mem_or_eq_of_mem_set hother with hmem | rfl
    · exact readable_of_single (hs other hmem)
    · refine ⟨hne, hnext.imp_right ?_⟩
      rintro ⟨first, second, hwords, rfl⟩
      have hwords' : '@' ∉ first ∧ '@' ∉ second := by
        rcases getElem?_target hc hline with hd | hd
        · exact Line.not_mem_of_declaresProtocol hwords hd fun hm =>
            hn (Naming.mem_of_mem_viewProtocol hm)
        · exact Line.not_mem_of_className? hwords hd hn
      intro hm
      rcases Text.mem_join hm with hspace | ⟨piece, hpiece, hat⟩
      · exact absurd hspace (by decide)
      · simp only [List.mem_cons, List.not_mem_nil, or_false] at hpiece
        rcases hpiece with rfl | rfl | rfl
        · exact hwords'.1 hat
        · exact absurd hat (by decide)
        · exact (List.mem_append.1 hat).elim hwords'.2 (by decide)

/-- The line that imports a module named by a word declares no protocol. -/
theorem quiet_importLine {module name : Text} (h : Line.IsWord module) :
    Line.QuietRow name (Line.importLine module) := by
  have hinert : Line.Inert ("import " ++ module) := by simp [h.inert]
  have hrow : Line.importLine module = Draft.row 0 ("import " ++ module) := by
    show (Line.Mark.importWord ++ " " ++ module ++ "\n" : Text) = _
    have hword : Line.Mark.importWord ++ " ".toList = "import ".toList := by decide
    rw [hword]
    simp [Draft.row]
  exact hrow ▸ (Line.inertRow_row hinert).quiet

/-- The lines that the stage leaves are read back as they are, up to one without an attribute. -/
theorem Conformed.readable {variant : Variant} {lines edited conformed : Lines}
    (h : Conformed variant lines edited conformed)
    (hv : ∀ module ∈ variant.frameworkModule?, Line.IsWord module)
    (hs : ∀ line ∈ lines, Lines.Single line)
    (hn : ∀ declared ∈ lines.classDeclaration?, '@' ∉ declared.name) :
    ∀ line ∈ conformed, Readable line := by
  cases h with
  | unchanged => exact fun line hline => readable_of_single (hs line hline)
  | declared hc he => exact readable_declareAt? hs hc (hn _ hc) he
  | @imported declared edited events module index hc hm hi he =>
    have hedited := readable_declareAt? hs hc (hn _ hc) he
    intro line hline
    rcases List.mem_append.1 hline with hline | hline
    · exact hedited line (List.mem_of_mem_take hline)
    · rcases List.mem_cons.1 hline with rfl | hline
      · have hquiet : Line.QuietRow [] (Line.importLine module) := quiet_importLine (hv _ hm)
        exact readable_of_single (hquiet.quietLine _).single
      · exact hedited line (List.mem_of_mem_drop hline)
  | importTarget hc hm hi hp he =>
    rw [((quiet_importLine (hv _ hm)).quietLine _).declaresProtocol_eq_false] at hp
    cases hp

end Conformance

end OutletWiring

import OutletWiring.Proofs.Conformance.Declaration
import Mathlib.Data.List.Perm.Subperm

/-!
# When a declaration cannot take the capability

Taking a constraint to classes out of a declaration may leave too few words to go on with
(`addCapability?_eq_none_iff`). A declaration that was found by its keyword always keeps two words:
of a class the keyword and the word with the colon, of a protocol the keyword and the name. Only a
protocol that is named like the constraint itself loses its name.
-/

namespace OutletWiring

namespace Line

theorem classWord_mem_of_className? {line name : Text} (h : className? line = some name) :
    Mark.classWord ∈ Text.words line := by
  unfold className? at h
  split at h
  · next first word rest hwords =>
    have hfirst : first = Mark.classWord := by
      have hhead := List.head?_dropWhile_not (· != Mark.classWord) (Text.words line)
      rw [hwords] at hhead
      simpa using hhead
    rw [← hfirst]
    exact (List.dropWhile_suffix _).subset (by rw [hwords]; simp)
  · cases h

end Line

namespace Conformance

open Lines (ClassDeclaration)
open Line (Mark.classOnly Mark.classOnlyListed)

variable {variant : Variant} {lines : Lines} {line : Text} {words : List Text}

theorem enter?_eq_none_iff : enter? words = none ↔ words = [] := by
  simp [enter?]

theorem continued_eq_none_iff : (continueList? words).bind enter? = none ↔ words.length < 2 := by
  by_cases hl : 2 ≤ words.length
  · obtain ⟨front, word, last, rfl⟩ := exists_append_pair hl
    simp [continueList?_append, enter?]
  · have hnone : continueList? words = none := by
      rcases words with - | ⟨first, - | ⟨second, rest⟩⟩
      · rfl
      · rfl
      · simp at hl
    simp [hnone, Nat.lt_of_not_le hl]

theorem readyList?_of_mem (hl : ¬ words.length ≤ 3) (h : Mark.classOnly ∈ words) :
    readyList? words = some (words.filter (· != Mark.classOnly)) := by
  unfold readyList?
  rw [if_neg hl, if_pos (by simpa using h)]

theorem entered?_eq_none_iff (hl : 2 ≤ words.length) : entered? words = none ↔
    3 < words.length ∧ ((∀ word ∈ words, word = Mark.classOnly) ∨
      Mark.classOnly ∉ words ∧ (words.filter (· != Mark.classOnlyListed)).length < 2) := by
  unfold entered?
  by_cases hthree : words.length ≤ 3
  · obtain ⟨first, second, rest, rfl⟩ : ∃ first second rest, words = first :: second :: rest := by
      rcases words with - | ⟨first, - | ⟨second, rest⟩⟩
      · simp at hl
      · simp at hl
      · exact ⟨first, second, rest, rfl⟩
    have hready : readyList? (first :: second :: rest) = some (first :: (second ++ ":") :: rest) := by
      rw [readyList?, if_pos hthree, openList]
    rw [hready, Option.bind_some, enter?_eq_none_iff]
    simp only [List.length_cons, reduceCtorEq, false_iff, not_and] at hthree ⊢
    omega
  · by_cases hclass : Mark.classOnly ∈ words
    · rw [readyList?_of_mem hthree hclass, Option.bind_some, enter?_eq_none_iff,
        List.filter_eq_nil_iff]
      simp [hclass, Nat.lt_of_not_le hthree]
    · have hmany : 3 < words.length := Nat.lt_of_not_le hthree
      have hnot : ¬ ∀ word ∈ words, word = Mark.classOnly := by
        obtain ⟨word, hword⟩ := List.exists_mem_of_length_pos (Nat.lt_of_lt_of_le Nat.zero_lt_two hl)
        exact fun hall => hclass (hall word hword ▸ hword)
      rw [readyList?_of_not_mem hthree hclass, continued_eq_none_iff]
      simp [hmany, hnot, hclass]

/-- The words that are left are too few: none after `AnyObject` is taken out, or none but one after
`AnyObject,` is. -/
theorem addCapability?_eq_none_iff : addCapability? line = none ↔
    3 < (Text.words line).length ∧ ((∀ word ∈ Text.words line, word = Mark.classOnly) ∨
      Mark.classOnly ∉ Text.words line ∧
        ((Text.words line).filter (· != Mark.classOnlyListed)).length < 2) := by
  by_cases hl : 2 ≤ (Text.words line).length
  · rw [addCapability?_eq hl, Option.map_eq_none_iff, entered?_eq_none_iff hl]
  · simp only [addCapability?, if_pos (Nat.lt_of_not_le hl), reduceCtorEq, false_iff, not_and]
    omega

/-- Two words that are not taken out are enough. -/
theorem addCapability?_ne_none {first second : Text} (h : [first, second].Subperm (Text.words line))
    (hfirst : first ≠ Mark.classOnly ∧ first ≠ Mark.classOnlyListed)
    (hsecond : second ≠ Mark.classOnlyListed) : addCapability? line ≠ none := by
  rw [Ne, addCapability?_eq_none_iff]
  rintro ⟨-, hall | ⟨-, hfew⟩⟩
  · exact hfirst.1 (hall first (h.subset (by simp)))
  · have hkept := (h.filter (· != Mark.classOnlyListed)).length_le
    rw [List.filter_eq_self.2 (by simp [hfirst.2, hsecond])] at hkept
    exact absurd hfew (Nat.not_lt.2 hkept)

theorem addCapability?_ne_none_of_class {name : Text} (hkind : Line.kind line = .classDeclaration)
    (hname : Line.className? line = some name) : addCapability? line ≠ none := by
  obtain ⟨-, -, -, -, -, -, -, hcolon⟩ := Line.kind_eq_classDeclaration_iff.1 hkind
  obtain ⟨word, hword, hmem⟩ := Text.exists_word_of_mem (by decide) hcolon
  -- The keyword has no colon, so the two are different words of the line.
  have hne : Line.Mark.classWord ≠ word := by
    rintro rfl
    revert hmem
    decide
  refine addCapability?_ne_none (List.subperm_of_subset (by simpa using hne) ?_) (by decide)
    (by rintro rfl; revert hmem; decide)
  simpa using ⟨Line.classWord_mem_of_className? hname, hword⟩

theorem addCapability?_ne_none_of_protocol {name : Text}
    (h : Line.declaresProtocol name line = true) (hname : name ≠ Mark.classOnlyListed) :
    addCapability? line ≠ none := by
  obtain ⟨front, second, back, hwords, rfl⟩ := Line.exists_words_of_declaresAmong h
  have hpair : [Line.Mark.protocolWord, second].Sublist (Text.words line) := by
    rw [hwords]
    exact ((List.nil_sublist back).cons_cons second |>.cons_cons _).trans
      (List.sublist_append_right front _)
  refine addCapability?_ne_none hpair.subperm (by decide) ?_
  rintro rfl
  exact hname (by decide)

/-! ## The stage -/

variable {declared : ClassDeclaration} {subject : Subject}

/-- The class stands where it is looked for after the import. -/
theorem getElem?_importFramework (variant : Variant) (lines : Lines) (classIndex : Nat) :
    (importFramework variant lines classIndex).1[(importFramework variant lines classIndex).2]? =
      lines[classIndex]? := by
  cases hf : frameworkImport? variant lines classIndex with
  | none => rw [importFramework_of_none hf]
  | some found =>
    obtain ⟨index, importLine⟩ := found
    obtain ⟨module, -, -, hi⟩ := frameworkImport?_eq_some hf
    obtain ⟨hlt, hlen⟩ := lt_of_firstImport? hi
    rw [importFramework_of_some hf]
    exact Lines.getElem?_insertBlock_of_le (Nat.le_of_lt hlen) (Nat.le_of_lt hlt)

/-- The line of the declaration that has to take the capability, after the import. -/
theorem exists_declaration (variant : Variant) (hc : lines.classDeclaration? = some declared) :
    let imported := importFramework variant lines declared.index
    ∃ line, imported.1[target imported.1 ⟨declared.name, imported.2⟩]? = some line ∧
      (Line.declaresProtocol (Naming.viewProtocol declared.name) line = true ∨
        lines[declared.index]? = some line) := by
  intro imported
  obtain ⟨-, classLine, hclass, -⟩ := Lines.classDeclaration?_eq_some_iff.1 hc
  have hthere : imported.1[imported.2]? = some classLine :=
    (getElem?_importFramework variant lines declared.index).trans hclass
  obtain ⟨line, hline, hd⟩ :=
    @exists_getElem?_target imported.1 ⟨declared.name, imported.2⟩ classLine hthere
  exact ⟨line, hline, hd.imp id fun heq => by rw [heq, hclass]⟩

theorem addCapability?_of_classDeclaration? {line : Text}
    (hc : lines.classDeclaration? = some declared) (hline : lines[declared.index]? = some line) :
    addCapability? line ≠ none := by
  obtain ⟨hkind, found, hfound, hname⟩ := Lines.classDeclaration?_eq_some_iff.1 hc
  obtain rfl : found = line := by simpa [hfound] using hline
  obtain ⟨hlt, hkind, -⟩ := List.findIdx?_eq_some_iff_getElem.1 hkind
  obtain rfl : lines[declared.index] = found := by simpa [hlt] using hfound
  exact addCapability?_ne_none_of_class (by simpa using hkind) hname

theorem addCapability?_eq_none_of_declareAt? {index : Nat} (hline : lines[index]? = some line)
    (h : declareAt? lines index = none) : addCapability? line = none := by
  by_contra hne
  obtain ⟨next, hnext⟩ := Option.ne_none_iff_exists'.1 hne
  unfold declareAt? at h
  simp only [hline, hnext, Option.bind_eq_bind, Option.bind_some] at h
  split_ifs at h

/-- The stage is stuck only on the declaration of a protocol that is named like the constraint to
classes. -/
theorem stuck_declaration (hc : lines.classDeclaration? = some declared)
    (h : declaredIn variant lines declared = none) :
    Naming.viewProtocol declared.name = Mark.classOnlyListed ∧
      ∃ line ∈ (importFramework variant lines declared.index).1,
        Line.declaresProtocol (Naming.viewProtocol declared.name) line = true ∧
          addCapability? line = none := by
  obtain ⟨line, hline, hd⟩ := exists_declaration variant hc
  have hadd : addCapability? line = none := addCapability?_eq_none_of_declareAt? hline h
  rcases hd with hd | hclass
  · refine ⟨?_, line, List.mem_of_getElem? hline, hd, hadd⟩
    by_contra hname
    exact addCapability?_ne_none_of_protocol hd hname hadd
  · exact absurd hadd (addCapability?_of_classDeclaration? hc hclass)

theorem exists_declared_of_stuck (h : (run variant lines subject).verdict = .stuck) :
    ∃ declared, lines.classDeclaration? = some declared ∧
      declaredIn variant lines declared = none := by
  cases hc : lines.classDeclaration? with
  | none =>
    obtain ⟨reason, hrun⟩ := run_of_none variant subject hc
    simp [hrun] at h
  | some declared =>
    refine ⟨declared, rfl, ?_⟩
    rw [run_of_some hc] at h
    cases hd : declaredIn variant lines declared with
    | none => rfl
    | some result => simp [hd] at h

end Conformance

end OutletWiring

import OutletWiring.Lines.Find
import OutletWiring.Proofs.Lines.Ending

/-!
# Marks that decide the kind of a line

The kind of a line is that of the first mark found, in a fixed order. So a line of some kind holds
none of the marks that come before its own, and what a search for a kind finds can be told from the
marks in the lines.
-/

namespace OutletWiring

namespace Text

theorem afterLast_suffix (mark text : Text) : afterLast mark text <:+ text := by
  fun_induction afterLast mark text with
  | case1 => exact List.suffix_refl _
  | case2 c cs _ ih => exact ih.trans (List.suffix_cons c cs)
  | case3 c cs _ =>
    unfold afterPrefix?
    split_ifs
    · exact List.drop_suffix ..
    · exact List.suffix_refl _

theorem dropEndWhile_prefix_self (p : Char → Bool) (text : Text) : dropEndWhile p text <+: text := by
  have h : text.reverse.dropWhile p <:+ text.reverse := List.dropWhile_suffix p
  simpa [dropEndWhile] using List.reverse_prefix.2 h

theorem trim_infix (text : Text) : trim text <:+: text :=
  (dropEndWhile_prefix_self isBlank _).isInfix.trans (List.dropWhile_suffix isBlank).isInfix

theorem trimEnd_append_ending (text : Text) (ending : Lines.Ending) :
    trimEnd (text ++ ending.text) = trimEnd text := by
  cases ending <;> simp [trimEnd, dropEndWhile, Lines.Ending.text, isBlank]

end Text

namespace Line

variable {line : Text}

theorem kind_eq_setterSignature_iff :
    kind line = .setterSignature ↔ Text.occursIn Mark.setter line = true := by
  unfold kind
  split_ifs <;> simp_all

theorem kind_eq_outlet_iff :
    kind line = .outlet ↔ Text.occursIn Mark.setter line = false ∧
      Text.occursIn Mark.binding line = false ∧ Text.occursIn Mark.typealias line = false ∧
        Text.occursIn Mark.outlet line = true := by
  unfold kind
  split_ifs <;> simp_all

/-- An enum name read off a line stands in that line. -/
theorem typealiasTarget?_infix {target : Text} (h : typealiasTarget? line = some target) :
    Text.occursIn Mark.typealias line = true ∧ target <:+: line := by
  unfold typealiasTarget? at h
  split_ifs at h with hmark
  simp only [Option.ite_none_left_eq_some, Option.some.injEq] at h
  obtain ⟨-, rfl⟩ := h
  exact ⟨hmark, (Text.trim_infix _).trans (Text.afterLast_suffix _ _).isInfix⟩

theorem not_mem_of_outlet? {outlet : Outlet} (h : outlet? line = some outlet) :
    ' ' ∉ outlet.name := by
  unfold outlet? at h
  cases hn : (Text.words (Text.trimEnd line)).findSome? declaredName? with
  | none => simp [hn] at h
  | some name =>
    obtain ⟨front, word, back, hwords, hname, -⟩ := List.findSome?_eq_some_iff.1 hn
    have hword : word ∈ Text.words (Text.trimEnd line) := by simp [hwords]
    have hspace : ' ' ∉ name := by
      unfold declaredName? at hname
      split_ifs at hname
      rw [Option.some.injEq] at hname
      exact hname ▸ fun hm => Text.not_mem_of_mem_words hword (List.dropLast_subset _ hm)
    cases ht : (Text.words (Text.trimEnd line)).getLast?.bind declaredType? with
    | none => simp [hn, ht] at h
    | some type =>
      simp only [hn, ht, Option.ite_none_left_eq_some, Option.some.injEq] at h
      rw [← h.2]
      exact hspace

theorem className?_eq_some {name : Text} (h : className? line = some name) :
    name ≠ [] ∧ ' ' ∉ name := by
  unfold className? at h
  split at h
  · next first word rest hwords =>
    have hword : word ∈ Text.words line :=
      (List.dropWhile_suffix _).subset (by rw [hwords]; simp)
    simp only [Option.ite_none_left_eq_some, Option.some.injEq] at h
    obtain ⟨hne, rfl⟩ := h
    exact ⟨by simpa [List.isEmpty_iff] using hne, fun hm =>
      Text.not_mem_of_mem_words hword (List.mem_of_mem_filter hm)⟩
  · cases h

theorem outlet?_append_ending (line : Text) (ending : Lines.Ending) :
    outlet? (line ++ ending.text) = outlet? line := by
  rw [outlet?, outlet?, Text.trimEnd_append_ending]

theorem ignoresEnding_kind_outlet : Lines.IgnoresEnding (kind · == .outlet) := by
  have hmarks : ∀ mark ∈ [Mark.setter, Mark.binding, Mark.typealias, Mark.outlet],
      Lines.IgnoresEnding (Text.occursIn mark) := by
    have hunbroken : ∀ mark ∈ [Mark.setter, Mark.binding, Mark.typealias, Mark.outlet],
        Lines.Unbroken mark ∧ mark ≠ [] := by decide
    exact fun mark hm => Lines.ignoresEnding_occursIn (hunbroken mark hm).1 (hunbroken mark hm).2
  intro line ending
  rw [Bool.eq_iff_iff, beq_iff_eq, beq_iff_eq, kind_eq_outlet_iff, kind_eq_outlet_iff,
    hmarks _ (by simp), hmarks _ (by simp), hmarks _ (by simp), hmarks _ (by simp)]

end Line

namespace Lines

theorem setter?_eq_none_iff {lines : Lines} :
    lines.setter? = none ↔ lines.countP (Text.occursIn Line.Mark.setter) = 0 := by
  simp [setter?, findKind?, List.countP_eq_zero, Line.kind_eq_setterSignature_iff]

theorem lt_length_of_findKind? {lines : Lines} {kind : Line.Kind} {index : Nat}
    (h : lines.findKind? kind = some index) : index < lines.length := by
  obtain ⟨hi, -⟩ := List.findIdx?_eq_some_iff_getElem.1 h
  exact hi

/-- A class is declared by the first line of that kind, if that line has a name for it. -/
theorem classDeclaration?_eq_some_iff {lines : Lines} {declared : ClassDeclaration} :
    lines.classDeclaration? = some declared ↔
      lines.findKind? .classDeclaration = some declared.index ∧
        ∃ line, lines[declared.index]? = some line ∧ Line.className? line = some declared.name := by
  obtain ⟨name, index⟩ := declared
  simp only [classDeclaration?, Option.bind_eq_bind, Option.bind_eq_some_iff, Option.pure_def,
    Option.some.injEq, ClassDeclaration.mk.injEq]
  constructor
  · rintro ⟨place, hplace, line, hline, word, hword, rfl, rfl⟩
    exact ⟨hplace, line, hline, hword⟩
  · rintro ⟨hplace, line, hline, hword⟩
    exact ⟨index, hplace, line, hline, name, hword, rfl, rfl⟩

theorem exists_mem_of_typealiasTarget? {lines : Lines} {target : Text}
    (h : lines.typealiasTarget? = some target) :
    ∃ line ∈ lines, Text.occursIn Line.Mark.typealias line = true ∧ target <:+: line := by
  obtain ⟨front, line, back, rfl, htarget, -⟩ := List.findSome?_eq_some_iff.1 h
  exact ⟨line, by simp, Line.typealiasTarget?_infix htarget⟩

/-! ## Declared outlets -/

@[simp] theorem outlets_append (front back : Lines) :
    outlets (front ++ back) = front.outlets ++ back.outlets := by
  simp [outlets]

theorem outlets_perm {lines others : Lines} (h : lines.Perm others) :
    lines.outlets.Perm others.outlets :=
  (h.filter _).filterMap _

theorem not_mem_of_mem_outlets {lines : Lines} {outlet : Outlet} (h : outlet ∈ lines.outlets) :
    ' ' ∉ outlet.name := by
  obtain ⟨line, -, hline⟩ := List.mem_filterMap.1 h
  exact Line.not_mem_of_outlet? hline

theorem outlets_eq_nil {lines : Lines} (h : ∀ line ∈ lines, Line.kind line ≠ .outlet) :
    lines.outlets = [] := by
  have : lines.filter (Line.kind · == .outlet) = [] :=
    List.filter_eq_nil_iff.2 fun line hline => by simp [h line hline]
  simp [outlets, this]

theorem outlets_cons (line : Text) (lines : Lines) :
    outlets (line :: lines) = outlets [line] ++ lines.outlets :=
  outlets_append [line] lines

theorem outlets_closed (ending : Ending) (line : Text) :
    outlets [closed ending line] = outlets [line] := by
  unfold closed
  split_ifs
  · rfl
  · have hkind : (Line.kind (line ++ ending.text) == .outlet) = (Line.kind line == .outlet) :=
      Line.ignoresEnding_kind_outlet line ending
    rw [outlets, outlets, List.filter_singleton, List.filter_singleton, hkind]
    cases Line.kind line == .outlet
    · rfl
    · simp [List.filterMap_cons, Line.outlet?_append_ending]

theorem outlets_terminateLast (ending : Ending) (lines : Lines) :
    (terminateLast ending lines).outlets = lines.outlets := by
  induction lines using List.reverseRecOn with
  | nil => rfl
  | append_singleton lines line =>
    rw [terminateLast_concat, outlets_append, outlets_append, outlets_closed]

theorem outlets_eq_nil_of_not_mem {lines : Lines} (h : ∀ line ∈ lines, '@' ∉ line) : lines.outlets = [] := by
  refine outlets_eq_nil fun line hline hk => h line hline ?_
  exact Text.mem_of_occursIn (Line.kind_eq_outlet_iff.1 hk).2.2.2 (by decide)

end Lines

end OutletWiring

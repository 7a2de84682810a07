import OutletWiring.Proofs.Identifiers.Rows

/-!
# Recognising a binding

An outlet counts as bound when its probe stands somewhere in a line. Both the probe and a binding
hold exactly one opening parenthesis, so one can stand in the other in one place only, and there
they agree only if the outlets have the same name and are both, or both not, a root view
(`exists_probe_iff`). Names need to be free of the punctuation of a binding for this.
-/

namespace OutletWiring

namespace Text

variable {c : Char}

theorem append_cons_prefix_iff {x y s t : Text} (hx : c ∉ x) (hy : c ∉ y) :
    x ++ c :: s <+: y ++ c :: t ↔ x = y ∧ s <+: t := by
  induction x generalizing y with
  | nil =>
    cases y with
    | nil => simp
    | cons b y =>
      have hb : c ≠ b := fun h => hy (by simp [h])
      simp [hb]
  | cons a x ih =>
    have hx' : c ∉ x := fun h => hx (by simp [h])
    cases y with
    | nil =>
      have ha : a ≠ c := fun h => hx (by simp [h])
      simp [ha]
    | cons b y =>
      have hy' : c ∉ y := fun h => hy (by simp [h])
      simp [ih hx' hy', and_assoc]

/-- Two texts with one mark each meet only with their marks on each other. -/
theorem append_cons_infix_iff {x y s t : Text} (hy : c ∉ y) (ht : c ∉ t) :
    x ++ c :: s <:+: y ++ c :: t ↔ x <:+ y ∧ s <+: t := by
  constructor
  · rintro ⟨front, back, h⟩
    have h' : (front ++ x) ++ c :: (s ++ back) = y ++ c :: t := by simpa using h
    rcases List.append_eq_append_iff.1 h' with ⟨mid, hy', hm⟩ | ⟨mid, hf, hm⟩
    · cases mid with
      | nil =>
        simp only [List.append_nil, List.nil_append, List.cons.injEq, true_and] at hy' hm
        exact ⟨⟨front, hy'.symm⟩, ⟨back, hm⟩⟩
      | cons m mid =>
        simp only [List.cons_append, List.cons.injEq] at hm
        exact absurd (by simp [hy', hm.1]) hy
    · cases mid with
      | nil =>
        simp only [List.append_nil, List.nil_append, List.cons.injEq, true_and] at hf hm
        exact ⟨⟨front, hf⟩, ⟨back, hm.symm⟩⟩
      | cons m mid =>
        simp only [List.cons_append, List.cons.injEq] at hm
        exact absurd (by simp [hm.2]) ht
  · rintro ⟨⟨front, rfl⟩, ⟨back, rfl⟩⟩
    exact ⟨front, back, by simp⟩

end Text

namespace Identifiers

open Line (Mark.binding bindingProbe)

/-- The name holds none of the punctuation that ends a name in a binding. -/
def Bare (name : Text) : Prop :=
  '(' ∉ name ∧ ')' ∉ name ∧ ',' ∉ name ∧ '.' ∉ name

instance (name : Text) : Decidable (Bare name) :=
  inferInstanceAs (Decidable (_ ∧ _))

/-- What a probe asks for after the opening parenthesis. -/
def probeRest (outlet : Outlet) : Text :=
  if outlet.isRootView then "self.view, using: ." ++ outlet.name ++ ")" else outlet.name ++ ","

theorem binding_eq : Mark.binding = ("makeViewTestable" : Text) ++ ['('] := by
  decide

theorem bindingProbe_eq (outlet : Outlet) :
    bindingProbe outlet = Mark.binding ++ probeRest outlet := by
  unfold bindingProbe probeRest
  split_ifs <;> simp

theorem probe_occursIn_iff (outlet : Outlet) (level : Nat) {rest : Text} (h : '(' ∉ rest) :
    Text.occursIn (bindingProbe outlet) (Draft.row level (Mark.binding ++ rest)) = true ↔
      probeRest outlet <+: rest ++ ['\n'] := by
  have hprobe : bindingProbe outlet = ("makeViewTestable" : Text) ++ '(' :: probeRest outlet := by
    rw [bindingProbe_eq, binding_eq, List.append_assoc, List.singleton_append]
  have hrow : Draft.row level (Mark.binding ++ rest) =
      (List.replicate level '\t' ++ ("makeViewTestable" : Text)) ++ '(' :: (rest ++ ['\n']) := by
    simp only [Draft.row, binding_eq, List.append_assoc, List.nil_append, List.cons_append]
  rw [Text.occursIn_iff, hprobe, hrow,
    Text.append_cons_infix_iff (by simp [List.mem_replicate]) (by simp [h])]
  exact and_iff_right (List.suffix_append ..)

/-- The probe of an outlet stands in a binding exactly if target and case are those that its own
binding has. -/
theorem probe_occursIn_bindingRow {outlet : Outlet} {target name : Text} (ho : Bare outlet.name)
    (hn : Bare name) (ht : '(' ∉ target) (htc : ',' ∉ target) :
    Text.occursIn (bindingProbe outlet) (bindingRow target name) = true ↔
      target = outlet.target ∧ (outlet.isRootView = true → name = outlet.name) := by
  have hrow : bindingRow target name =
      Draft.row 2 (Mark.binding ++ (target ++ ", using: ." ++ name ++ ")")) := by
    simp [bindingRow]
  rw [hrow, probe_occursIn_iff _ _ (by simp [ht, hn.1])]
  unfold probeRest Outlet.target
  by_cases hroot : outlet.isRootView = true
  · have hself : ',' ∉ ("self.view" : Text) := by decide
    have hl : ("self.view, using: ." : Text) ++ outlet.name ++ ")" =
        ("self.view" : Text) ++ ',' :: (" using: ." ++ outlet.name ++ ")") := by simp
    have hr : target ++ ", using: ." ++ name ++ ")" ++ ['\n'] =
        target ++ ',' :: (" using: ." ++ (name ++ ')' :: ['\n'])) := by simp
    rw [if_pos hroot, if_pos hroot, hl, hr, Text.append_cons_prefix_iff hself htc,
      List.append_assoc, List.prefix_append_right_inj]
    have hlast : outlet.name ++ (")" : Text) <+: name ++ ')' :: ['\n'] ↔ outlet.name = name := by
      have := Text.append_cons_prefix_iff (s := []) (t := ['\n']) ho.2.1 hn.2.1
      simpa using this
    rw [hlast]
    constructor
    · rintro ⟨h1, h2⟩
      exact ⟨h1.symm, fun _ => h2.symm⟩
    · rintro ⟨h1, h2⟩
      exact ⟨h1.symm, (h2 hroot).symm⟩
  · have hr : target ++ ", using: ." ++ name ++ ")" ++ ['\n'] =
        target ++ ',' :: (" using: ." ++ name ++ ")" ++ ['\n']) := by simp
    rw [if_neg hroot, if_neg hroot, hr]
    have := Text.append_cons_prefix_iff (s := []) (t := " using: ." ++ name ++ ")" ++ ['\n'])
      ho.2.2.1 htc
    simp only [List.nil_prefix, and_true] at this
    rw [show outlet.name ++ ("," : Text) = outlet.name ++ ',' :: [] from rfl, this]
    constructor
    · rintro rfl
      exact ⟨rfl, fun h => absurd h hroot⟩
    · rintro ⟨rfl, -⟩
      rfl

theorem Bare.append {name other : Text} (h : Bare name) (ho : Bare other) : Bare (name ++ other) := by
  simp only [Bare, List.mem_append, not_or] at *
  tauto

/-- The target of a binding holds neither a parenthesis nor a comma. -/
theorem not_mem_target {outlet : Outlet} (h : Bare outlet.name) :
    '(' ∉ outlet.target ∧ ',' ∉ outlet.target := by
  unfold Outlet.target
  split_ifs
  · decide
  · exact ⟨h.1, h.2.2.1⟩

theorem target_eq_iff {a b : Outlet} (ha : Bare a.name) (hb : Bare b.name) :
    a.target = b.target ∧ (b.isRootView = true → a.name = b.name) ↔
      a.name = b.name ∧ a.isRootView = b.isRootView := by
  have hself : '.' ∈ ("self.view" : Text) := by decide
  unfold Outlet.target
  by_cases hra : a.isRootView = true <;> by_cases hrb : b.isRootView = true
  · simp [hra, hrb]
  · have hne : ("self.view" : Text) ≠ b.name := fun h => hb.2.2.2 (h ▸ hself)
    rw [if_pos hra, if_neg hrb]
    exact ⟨fun h => absurd h.1 hne, fun h => absurd (h.2 ▸ hra) hrb⟩
  · have hne : a.name ≠ ("self.view" : Text) := fun h => ha.2.2.2 (h ▸ hself)
    rw [if_neg hra, if_pos hrb]
    exact ⟨fun h => absurd h.1 hne, fun h => absurd (h.2 ▸ hrb) hra⟩
  · simp [hra, hrb]

section Bare

variable {a b : Outlet} (ha : Bare a.name) (hb : Bare b.name)
include ha hb

theorem probe_occursIn_ownRow :
    Text.occursIn (bindingProbe b) (bindingRow a.target a.name) = true ↔
      a.name = b.name ∧ a.isRootView = b.isRootView := by
  rw [probe_occursIn_bindingRow hb ha (not_mem_target ha).1 (not_mem_target ha).2,
    target_eq_iff ha hb]

theorem probe_not_occursIn_textFieldRow :
    Text.occursIn (bindingProbe b) (bindingRow (a.name ++ ".textfield") a.textFieldCase) = false := by
  have hcase : Bare a.textFieldCase := ha.append (by decide)
  have hparen : '(' ∉ a.name ++ (".textfield" : Text) := by simp [ha.1]
  have hcomma : ',' ∉ a.name ++ (".textfield" : Text) := by simp [ha.2.2.1]
  rw [Bool.eq_false_iff, Ne, probe_occursIn_bindingRow hb hcase hparen hcomma]
  rintro ⟨h, -⟩
  unfold Outlet.target at h
  split_ifs at h
  · -- the texts end in different letters
    have := congrArg List.getLast? h
    simp at this
  · exact hb.2.2.2 (h ▸ by simp)

/-- Of the lines that bind an outlet, exactly the first can hold a probe, and it holds that of the
outlets with the same name and the same way of being bound. -/
theorem filter_probe_bindingLines :
    (bindingLines a).filter (Text.occursIn (bindingProbe b)) =
      if a.name = b.name ∧ a.isRootView = b.isRootView then [bindingRow a.target a.name] else [] := by
  have hown := probe_occursIn_ownRow ha hb
  have hfield := probe_not_occursIn_textFieldRow ha hb
  have hrest : (if a.isSearchBar then [bindingRow (a.name ++ ".textfield") a.textFieldCase]
      else []).filter (Text.occursIn (bindingProbe b)) = [] := by
    split_ifs
    · rw [List.filter_cons_of_neg (by rw [hfield]; decide), List.filter_nil]
    · rfl
  rw [bindingLines_eq, List.filter_cons, hrest]
  by_cases h : a.name = b.name ∧ a.isRootView = b.isRootView
  · rw [if_pos (hown.2 h), if_pos h]
  · rw [if_neg (mt hown.1 h), if_neg h]

/-- A line that binds `a` is taken for a binding of `b` only if the two are bound alike. -/
theorem same_of_probe_occursIn {line : Text} (hline : line ∈ bindingLines a)
    (hprobe : Text.occursIn (bindingProbe b) line = true) :
    a.name = b.name ∧ a.isRootView = b.isRootView := by
  have hmem : line ∈ (bindingLines a).filter (Text.occursIn (bindingProbe b)) :=
    List.mem_filter.2 ⟨hline, hprobe⟩
  rw [filter_probe_bindingLines ha hb] at hmem
  split_ifs at hmem with hab
  · exact hab
  · cases hmem

end Bare

/-- Some line that binds `a` is taken for a binding of `b` exactly if the two have the same name and
are both, or both not, a root view. -/
theorem exists_probe_iff {a b : Outlet} (ha : Bare a.name) (hb : Bare b.name) :
    (∃ line ∈ bindingLines a, Text.occursIn (bindingProbe b) line = true) ↔
      a.name = b.name ∧ a.isRootView = b.isRootView := by
  constructor
  · rintro ⟨line, hline, hprobe⟩
    exact same_of_probe_occursIn ha hb hline hprobe
  · intro hab
    refine ⟨bindingRow a.target a.name, ?_, (probe_occursIn_ownRow ha hb).2 hab⟩
    rw [bindingLines_eq]
    exact List.mem_cons_self

/-- The second line of a search bar binds its text field, but not an outlet of that name. -/
theorem exists_probe_iff_search :
    (Bare "search" ∧ Bare "searchTextField") ∧
      (∃ line ∈ bindingLines ⟨"search", "UISearchBar"⟩,
        Text.occursIn (bindingProbe ⟨"search", "UISearchBar"⟩) line = true) ∧
      ¬∃ line ∈ bindingLines ⟨"search", "UISearchBar"⟩,
        Text.occursIn (bindingProbe ⟨"searchTextField", "UITextField"⟩) line = true := by
  have hsearch : Bare "search" := by decide
  have hfield : Bare "searchTextField" := by decide
  refine ⟨⟨hsearch, hfield⟩, ?_, ?_⟩
  · exact (exists_probe_iff (a := ⟨"search", "UISearchBar"⟩) hsearch hsearch).2 ⟨rfl, rfl⟩
  · rw [exists_probe_iff hsearch hfield]
    decide

theorem probe_not_occursIn_cellRow {outlet : Outlet} (subject : Subject) (ho : Bare outlet.name)
    (hself : outlet.isRootView = false → outlet.name ≠ ("self" : Text))
    (hcell : '(' ∉ subject.cellIdentifier) :
    Text.occursIn (bindingProbe outlet) (cellRow subject) = false := by
  have hrow : cellRow subject = Draft.row 2 (Mark.binding ++
      (("self" : Text) ++ ", using: ." ++ subject.cellIdentifier ++ ", index: index)")) := by
    simp [cellRow]
  have hrest : '(' ∉ ("self" : Text) ++ ", using: ." ++ subject.cellIdentifier ++
      ", index: index)" := by simp [hcell]
  rw [Bool.eq_false_iff, Ne, hrow, probe_occursIn_iff _ _ hrest]
  unfold probeRest
  intro h
  split_ifs at h with hroot
  · simp at h
  · have hpre : outlet.name ++ ',' :: [] <+: ("self" : Text) ++ ',' :: (" using: ." ++
        subject.cellIdentifier ++ ", index: index)" ++ ['\n']) := by simpa using h
    rw [Text.append_cons_prefix_iff ho.2.2.1 (by decide)] at hpre
    exact hself (by simpa using hroot) hpre.1

end Identifiers

end OutletWiring

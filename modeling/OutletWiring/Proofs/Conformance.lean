import OutletWiring.Proofs.Line.Kind
import OutletWiring.Proofs.Lines.Insertion
import OutletWiring.Stage.Conformance

/-!
# What the conformance stage changes

The stage may put one import line in, which moves the lines after it, and change the line of one
declaration. Its effect is told here in terms of the lines before it (`Conformed`).
-/

namespace OutletWiring.Conformance

open Lines (ClassDeclaration withEnding)
open Line (Mark.capability)

variable {variant : Variant} {lines : Lines} {subject : Subject}

/-- The declaration that has to take the capability: of the interface protocol if there is one, else
of the class. -/
def target (lines : Lines) (declared : ClassDeclaration) : Nat :=
  (lines.protocol? (Naming.viewProtocol declared.name)).getD declared.index

/-- There is a line at the target: the one that stands where the class was found, or one that
declares the interface protocol. -/
theorem exists_getElem?_target {declared : ClassDeclaration} {classLine : Text}
    (h : lines[declared.index]? = some classLine) :
    ∃ line, lines[target lines declared]? = some line ∧
      (Line.declaresProtocol (Naming.viewProtocol declared.name) line = true ∨ line = classLine) := by
  unfold target
  cases hp : lines.protocol? (Naming.viewProtocol declared.name) with
  | some place =>
    obtain ⟨hlt, hd, -⟩ := List.findIdx?_eq_some_iff_getElem.1 hp
    exact ⟨lines[place], by simp [hlt], .inl hd⟩
  | none => exact ⟨classLine, h, .inr rfl⟩

/-- `edited` is the lines with the capability on their target, and `conformed` has besides it at
most one import line, right before the first import above the class. -/
inductive Conformed (variant : Variant) (lines : Lines) : Lines → Lines → Prop
  /-- No class is declared, and nothing happens. -/
  | unchanged (hc : lines.classDeclaration? = none) : Conformed variant lines lines lines
  | declared {declared : ClassDeclaration} {edited : Lines} {events : List Event}
      (hc : lines.classDeclaration? = some declared)
      (he : declareAt? lines (target lines declared) = some (edited, events)) :
      Conformed variant lines edited edited
  | imported {declared : ClassDeclaration} {edited : Lines} {events : List Event} {module : Text}
      {index : Nat} (hc : lines.classDeclaration? = some declared)
      (hm : variant.frameworkModule? = some module)
      (hi : Lines.firstImport? (lines.take declared.index) = some index)
      (he : declareAt? lines (target lines declared) = some (edited, events)) :
      Conformed variant lines edited
        (edited.take index ++ withEnding lines.ending (Line.importLine module) :: edited.drop index)
  /-- The import line itself is taken for the declaration of the protocol. -/
  | importTarget {declared : ClassDeclaration} {module line : Text} {index : Nat}
      {events : List Event} (hc : lines.classDeclaration? = some declared)
      (hm : variant.frameworkModule? = some module)
      (hi : Lines.firstImport? (lines.take declared.index) = some index)
      (hp : Line.declaresProtocol (Naming.viewProtocol declared.name)
        (withEnding lines.ending (Line.importLine module)) = true)
      (he : declareAt? [withEnding lines.ending (Line.importLine module)] 0 = some ([line], events)) :
      Conformed variant lines lines (lines.take index ++ line :: lines.drop index)

/-- The capability is declared by leaving the lines or by changing one. -/
theorem declareAt?_eq_some {index : Nat} {edited : Lines} {events : List Event}
    (h : declareAt? lines index = some (edited, events)) :
    ∃ line, lines[index]? = some line ∧
      (edited = lines ∨ ∃ next, addCapability? line = some next ∧ edited = lines.set index next) := by
  unfold declareAt? at h
  cases hline : lines[index]? with
  | none => simp [hline] at h
  | some line =>
    refine ⟨line, rfl, ?_⟩
    simp only [hline, Option.bind_eq_bind, Option.bind_some] at h
    split_ifs at h
    · simp only [Option.pure_def, Option.some.injEq, Prod.mk.injEq] at h
      exact .inl h.1.symm
    · cases hadd : addCapability? line with
      | none => simp [hadd] at h
      | some next =>
        simp only [hadd, Option.bind_some, Option.pure_def, Option.some.injEq, Prod.mk.injEq] at h
        exact .inr ⟨next, rfl, h.1.symm⟩

theorem length_of_declareAt? {index : Nat} {edited : Lines} {events : List Event}
    (h : declareAt? lines index = some (edited, events)) : edited.length = lines.length := by
  obtain ⟨line, -, rfl | ⟨next, -, rfl⟩⟩ := declareAt?_eq_some h
  · rfl
  · exact List.length_set

/-! ## One line more -/

section Insert

variable {index place : Nat} {line : Text}

/-- Where the line at `place` stands after one line was put in at `index`. -/
def moved (index place : Nat) : Nat :=
  if place < index then place else place + 1

theorem getElem?_moved (hi : index ≤ lines.length) :
    (lines.take index ++ line :: lines.drop index)[moved index place]? = lines[place]? := by
  have hlen : (lines.take index).length = index := by simp [hi]
  unfold moved
  split_ifs with h
  · rw [List.getElem?_append_left (by omega), List.getElem?_take_of_lt h]
  · rw [List.getElem?_append_right (by omega), hlen, show place + 1 - index = place - index + 1 by omega,
      List.getElem?_cons_succ, List.getElem?_drop]
    congr 1
    omega

theorem set_moved (hi : index ≤ lines.length) (next : Text) :
    (lines.take index ++ line :: lines.drop index).set (moved index place) next =
      (lines.set place next).take index ++ line :: (lines.set place next).drop index := by
  have hlen : (lines.take index).length = index := by simp [hi]
  unfold moved
  split_ifs with h
  · rw [List.set_append_left _ _ (by omega), List.take_set, List.drop_set_of_lt h]
  · rw [List.set_append_right _ _ (by omega), hlen,
      show place + 1 - index = place - index + 1 by omega, List.set_cons_succ,
      List.drop_set, if_neg (by omega), List.take_set_of_le (by omega)]

/-- Putting a line in and declaring the capability on another can be done in either order. -/
theorem declareAt?_moved (hi : index ≤ lines.length) {conforming : Lines} {events : List Event}
    (h : declareAt? (lines.take index ++ line :: lines.drop index) (moved index place) =
      some (conforming, events)) :
    ∃ edited events', declareAt? lines place = some (edited, events') ∧
      conforming = edited.take index ++ line :: edited.drop index := by
  unfold declareAt? at h ⊢
  rw [getElem?_moved hi] at h
  cases hline : lines[place]? with
  | none => simp [hline] at h
  | some old =>
    simp only [hline, Option.bind_eq_bind, Option.bind_some] at h ⊢
    split_ifs at h ⊢ with hcap
    · simp only [Option.pure_def, Option.some.injEq, Prod.mk.injEq] at h
      exact ⟨lines, [], rfl, h.1.symm⟩
    · cases hadd : addCapability? old with
      | none => simp [hadd] at h
      | some next =>
        simp only [hadd, Option.bind_some, Option.pure_def, Option.some.injEq, Prod.mk.injEq] at h
        exact ⟨lines.set place next, [.capabilityAdded place], rfl, by rw [← h.1, set_moved hi]⟩

theorem declareAt?_middle {front back conforming : Lines} {events : List Event}
    (hl : front.length = index)
    (h : declareAt? (front ++ line :: back) index = some (conforming, events)) :
    ∃ next events', declareAt? [line] 0 = some ([next], events') ∧
      conforming = front ++ next :: back := by
  subst hl
  unfold declareAt? at h ⊢
  rw [List.getElem?_append_right (Nat.le_refl _), Nat.sub_self] at h
  simp only [List.getElem?_cons_zero, Option.bind_eq_bind, Option.bind_some] at h ⊢
  split_ifs at h ⊢ with hcap
  · simp only [Option.pure_def, Option.some.injEq, Prod.mk.injEq] at h
    exact ⟨line, [], rfl, h.1.symm⟩
  · cases hadd : addCapability? line with
    | none => simp [hadd] at h
    | some next =>
      simp only [hadd, Option.bind_some, Option.pure_def, Option.some.injEq, Prod.mk.injEq] at h
      exact ⟨next, [.capabilityAdded 0], rfl, by rw [← h.1]; simp⟩

/-- What a search finds first moves with the lines, unless the new line comes to be it. -/
theorem findIdx?_insert (hi : index ≤ lines.length) (q : Text → Bool) :
    (lines.take index ++ line :: lines.drop index).findIdx? q =
        (lines.findIdx? q).map (moved index) ∨
      q line = true ∧ (lines.take index ++ line :: lines.drop index).findIdx? q = some index := by
  have hlen : (lines.take index).length = index := by simp [hi]
  have hsplit : lines.findIdx? q = (lines.take index ++ lines.drop index).findIdx? q := by
    rw [List.take_append_drop]
  rw [hsplit, List.findIdx?_append, List.findIdx?_append]
  cases hf : (lines.take index).findIdx? q with
  | some place =>
    have hlt := (List.findIdx?_eq_some_iff_getElem.1 hf).1
    have : place < index := by omega
    exact .inl (by simp [moved, this])
  | none =>
    by_cases hline : q line = true
    · exact .inr ⟨hline, by simp [List.findIdx?_cons, hline, hlen]⟩
    · refine .inl ?_
      rw [List.findIdx?_cons, if_neg hline]
      cases (lines.drop index).findIdx? q with
      | none => rfl
      | some place =>
        have : ¬ place + index < index := by omega
        simp [moved, hlen, this]
        omega

theorem protocol?_insert (hi : index ≤ lines.length) (name : Text) :
    Lines.protocol? name (lines.take index ++ line :: lines.drop index) =
        (lines.protocol? name).map (moved index) ∨
      Line.declaresProtocol name line = true ∧
        Lines.protocol? name (lines.take index ++ line :: lines.drop index) = some index :=
  findIdx?_insert hi (Line.declaresProtocol name)

end Insert

/-! ## The stage -/

def found (subject : Subject) (declared : ClassDeclaration) : Subject :=
  { subject with className := declared.name, viewKind := ViewKind.ofClassName declared.name }

def declaredIn (variant : Variant) (lines : Lines) (declared : ClassDeclaration) :
    Option (Lines × List Event) :=
  let imported := importFramework variant lines declared.index
  declareAt? imported.1
    ((imported.1.protocol? (Naming.viewProtocol declared.name)).getD imported.2)

theorem run_of_none (variant : Variant) (subject : Subject) (hc : lines.classDeclaration? = none) :
    ∃ reason, run variant lines subject = ⟨lines, subject, .declined reason, []⟩ := by
  unfold run runM
  split_ifs
  · exact ⟨_, rfl⟩
  · rw [hc]
    exact ⟨_, rfl⟩

theorem isEmpty_of_classDeclaration? {declared : ClassDeclaration}
    (hc : lines.classDeclaration? = some declared) : lines.isEmpty = false := by
  cases lines with
  | nil => cases hc
  | cons => rfl

theorem run_of_some {declared : ClassDeclaration} (hc : lines.classDeclaration? = some declared) :
    run variant lines subject =
      match declaredIn variant lines declared with
      | some (conforming, events) => ⟨conforming, found subject declared, .completed, events⟩
      | none => ⟨lines, found subject declared, .stuck, []⟩ := by
  simp only [run, runM, isEmpty_of_classDeclaration? hc, hc, Bool.false_eq_true, if_false]
  rfl

theorem run_subject_of_some {declared : ClassDeclaration}
    (hc : lines.classDeclaration? = some declared) :
    (run variant lines subject).subject = found subject declared := by
  rw [run_of_some hc]
  cases declaredIn variant lines declared <;> rfl

theorem frameworkImport?_eq_some {classIndex index : Nat} {line : Text}
    (h : frameworkImport? variant lines classIndex = some (index, line)) :
    ∃ module, variant.frameworkModule? = some module ∧ line = Line.importLine module ∧
      Lines.firstImport? (lines.take classIndex) = some index := by
  unfold frameworkImport? at h
  cases hm : variant.frameworkModule? with
  | none => simp [hm] at h
  | some module =>
    simp only [hm, Option.bind_eq_bind, Option.bind_some] at h
    split_ifs at h
    cases hi : Lines.firstImport? (lines.take classIndex) with
    | none => simp [hi] at h
    | some place =>
      simp only [hi, Option.bind_some, Option.pure_def, Option.some.injEq, Prod.mk.injEq] at h
      exact ⟨module, rfl, h.2.symm, by rw [h.1]⟩

theorem lt_of_firstImport? {classIndex index : Nat}
    (h : Lines.firstImport? (lines.take classIndex) = some index) :
    index < classIndex ∧ index < lines.length := by
  have := Lines.lt_length_of_findKind? h
  rw [List.length_take] at this
  omega

theorem importFramework_of_none {classIndex : Nat}
    (hf : frameworkImport? variant lines classIndex = none) :
    importFramework variant lines classIndex = (lines, classIndex) := by
  unfold importFramework importFrameworkM
  rw [hf]
  rfl

theorem importFramework_of_some {classIndex index : Nat} {line : Text}
    (hf : frameworkImport? variant lines classIndex = some (index, line)) :
    importFramework variant lines classIndex =
      (lines.insertBlock index [line], classIndex + 1) := by
  unfold importFramework importFrameworkM
  rw [hf]
  rfl

theorem declaredIn_of_none {declared : ClassDeclaration}
    (hf : frameworkImport? variant lines declared.index = none) :
    declaredIn variant lines declared = declareAt? lines (target lines declared) := by
  rw [declaredIn, importFramework_of_none hf]
  rfl

/-- The target moves with the lines if a line is put in above the class that is not taken for the
protocol. -/
theorem target_moved {declared : ClassDeclaration} {others : Lines} {index : Nat}
    (hlt : index < declared.index)
    (hp : others.protocol? (Naming.viewProtocol declared.name) =
      (lines.protocol? (Naming.viewProtocol declared.name)).map (moved index)) :
    target others ⟨declared.name, declared.index + 1⟩ = moved index (target lines declared) := by
  have hclass : moved index declared.index = declared.index + 1 := if_neg (by omega)
  unfold target
  rw [hp]
  cases lines.protocol? (Naming.viewProtocol declared.name) with
  | none => exact hclass.symm
  | some place => rfl

/-- With the import line put in, the capability comes to the target, or to the import line if that
is taken for the declaration of the protocol. -/
theorem declaredIn_of_some {declared : ClassDeclaration} {conforming : Lines} {events : List Event}
    {index : Nat} {importLine : Text} (hlt : index < declared.index) (hlen : index < lines.length)
    (hf : frameworkImport? variant lines declared.index = some (index, importLine))
    (hd : declaredIn variant lines declared = some (conforming, events)) :
    (∃ edited events', declareAt? lines (target lines declared) = some (edited, events') ∧
      conforming = edited.take index ++ withEnding lines.ending importLine :: edited.drop index) ∨
    Line.declaresProtocol (Naming.viewProtocol declared.name)
        (withEnding lines.ending importLine) = true ∧
      ∃ next events', declareAt? [withEnding lines.ending importLine] 0 = some ([next], events') ∧
        conforming = lines.take index ++ next :: lines.drop index := by
  have hinsert : lines.insertBlock index [importLine] =
      lines.take index ++ withEnding lines.ending importLine :: lines.drop index := by
    simp [Lines.insertBlock]
  simp only [declaredIn, importFramework_of_some hf, hinsert] at hd
  rcases protocol?_insert (Nat.le_of_lt hlen) (Naming.viewProtocol declared.name) with
    hp | ⟨hline, hp⟩
  · have htarget := target_moved hlt hp
    rw [target] at htarget
    rw [htarget] at hd
    exact .inl (declareAt?_moved (Nat.le_of_lt hlen) hd)
  · rw [hp, Option.getD_some] at hd
    exact .inr ⟨hline, declareAt?_middle (List.length_take_of_le (Nat.le_of_lt hlen)) hd⟩

/-- The lines of a run that is not stuck are the lines before it with the capability on their target
and at most one import line. -/
theorem conformed_run (h : (run variant lines subject).verdict ≠ .stuck) :
    ∃ edited, Conformed variant lines edited (run variant lines subject).lines := by
  cases hc : lines.classDeclaration? with
  | none =>
    obtain ⟨reason, hrun⟩ := run_of_none variant subject hc
    rw [hrun]
    exact ⟨lines, .unchanged hc⟩
  | some declared =>
    rw [run_of_some hc] at h ⊢
    cases hd : declaredIn variant lines declared with
    | none => simp [hd] at h
    | some result =>
      obtain ⟨conforming, events⟩ := result
      show ∃ edited, Conformed variant lines edited conforming
      cases hf : frameworkImport? variant lines declared.index with
      | none =>
        rw [declaredIn_of_none hf] at hd
        exact ⟨conforming, .declared hc hd⟩
      | some found =>
        obtain ⟨index, line⟩ := found
        obtain ⟨module, hm, rfl, hi⟩ := frameworkImport?_eq_some hf
        obtain ⟨hlt, hlen⟩ := lt_of_firstImport? hi
        obtain ⟨edited, events', he, rfl⟩ | ⟨hline, next, events', he, rfl⟩ :=
          declaredIn_of_some hlt hlen hf hd
        · exact ⟨edited, .imported hc hm hi he⟩
        · exact ⟨lines, .importTarget hc hm hi hline he⟩

end OutletWiring.Conformance

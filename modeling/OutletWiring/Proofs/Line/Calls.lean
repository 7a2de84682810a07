import OutletWiring.Proofs.Draft
import OutletWiring.Proofs.Identifiers.Probe
import OutletWiring.Proofs.Line.Kind

/-!
# Texts that are taken for a binding

A text is a binding if the name of the binding function stands right before some parenthesis. What
is written for a test declares and calls functions that are named for the subject, and such a name
may end in that of the binding function. So it is told of each text under which condition on these
names it is a binding, and that it neither is the signature of the setter nor names an enum.
-/

namespace OutletWiring

namespace Text

variable {needle : Text} {c : Char}

theorem suffix_append_cons_iff (xs ys : Text) (hc : c ∉ needle) :
    needle <:+ xs ++ c :: ys ↔ needle <:+ ys := by
  have hrev : (xs ++ c :: ys).reverse = ys.reverse ++ c :: xs.reverse := by simp
  rw [← List.reverse_prefix, hrev, prefix_append_cons_iff _ _ (by simpa using hc),
    List.reverse_prefix]

theorem append_cons_suffix_iff {x y s t : Text} (hs : c ∉ s) (ht : c ∉ t) :
    x ++ c :: s <:+ y ++ c :: t ↔ x <:+ y ∧ s = t := by
  have hrev : ∀ u v : Text, (u ++ c :: v).reverse = v.reverse ++ c :: u.reverse := by simp
  rw [← List.reverse_prefix, hrev, hrev,
    append_cons_prefix_iff (by simpa using hs) (by simpa using ht), List.reverse_prefix,
    List.reverse_inj, and_comm]

/-- A text with one mark stands in another on the first mark of that or after it. -/
theorem append_cons_infix_append_cons_iff {x y s t : Text} (hx : c ∉ x) (hy : c ∉ y) :
    x ++ c :: s <:+: y ++ c :: t ↔ (x <:+ y ∧ s <+: t) ∨ x ++ c :: s <:+: t := by
  induction y with
  | nil =>
    have hfirst := append_cons_prefix_iff (s := s) (t := t) hx List.not_mem_nil
    rw [List.nil_append] at hfirst ⊢
    rw [List.infix_cons_iff, hfirst, List.suffix_nil]
  | cons b y ih =>
    have hfirst := append_cons_prefix_iff (s := s) (t := t) hx hy
    have hrest : c ∉ y := fun h => hy (List.mem_cons_of_mem b h)
    rw [List.cons_append] at hfirst ⊢
    rw [List.infix_cons_iff, hfirst, ih hrest, List.suffix_cons_iff, or_and_right, or_assoc]

end Text

/-- Of the signs that marks are made of, one for each mark: the parenthesis of a signature or call,
the sign of an assignment and that of an attribute. -/
def Punctuation.ofMarks : Punctuation where
  holds c := c == '(' || c == '=' || c == '@'
  isSign h := by
    simp only [Bool.or_eq_true, beq_iff_eq] at h
    rcases h with (rfl | rfl) | rfl <;> decide

namespace Line

variable {text rest name : Text} {p q : Prop}

def bindingName : Text := "makeViewTestable"

def setterName : Text := "func setAccessibilityIdentifiers"

theorem binding_eq_append : Mark.binding = bindingName ++ '(' :: [] :=
  Identifiers.binding_eq

theorem setter_eq_append : Mark.setter = setterName ++ '(' :: [')'] := by
  decide

theorem typealias_eq_append :
    Mark.typealias = "typealias UIElementType ".toList ++ '=' :: " UIElements.".toList := by
  decide

theorem kind_eq_binding_iff {line : Text} :
    kind line = .binding ↔
      Text.occursIn Mark.setter line = false ∧ Text.occursIn Mark.binding line = true := by
  unfold kind
  split_ifs <;> simp_all

theorem typealias_of_lacks (h : Text.Lacks .ofMarks text) :
    Text.occursIn Mark.typealias text = false :=
  Text.occursIn_eq_false_of_not_mem (c := '=') (by decide) (h.not_mem rfl)

/-- An assignment names an enum only by what stands right after its sign. -/
theorem typealias_of_assignment {target value : Text} (ht : '=' ∉ target) (hv : '=' ∉ value)
    (helements : ¬ " UIElements.".toList <+: value) :
    Text.occursIn Mark.typealias (target ++ '=' :: value) = false := by
  rw [Bool.eq_false_iff, ne_eq, Text.occursIn_iff, typealias_eq_append,
    Text.append_cons_infix_append_cons_iff (by decide) ht]
  rintro (⟨-, hvalue⟩ | hvalue)
  · exact helements hvalue
  · exact hv (hvalue.subset (by simp))

/-- The text is neither the signature of the setter nor names an enum, and it is a binding exactly
under the condition. -/
structure BindsIff (text : Text) (p : Prop) : Prop where
  setter : Text.occursIn Mark.setter text = false
  typealias : Text.occursIn Mark.typealias text = false
  binding : Text.occursIn Mark.binding text = true ↔ p

namespace BindsIff

theorem congr (h : BindsIff text p) (hpq : p ↔ q) : BindsIff text q :=
  ⟨h.setter, h.typealias, h.binding.trans hpq⟩

theorem of_not_mem (hparen : '(' ∉ text) (htypealias : Text.occursIn Mark.typealias text = false) :
    BindsIff text False where
  setter := Text.occursIn_eq_false_of_not_mem (c := '(') (by decide) hparen
  typealias := htypealias
  binding := by
    rw [Text.occursIn_eq_false_of_not_mem (c := '(') (by decide) hparen]
    simp

theorem of_lacks (h : Text.Lacks .ofMarks text) : BindsIff text False :=
  of_not_mem (h.not_mem rfl) (typealias_of_lacks h)

/-- A fixed text is searched as it stands. -/
theorem literal {chars : List Char}
    (h : [Mark.setter, Mark.typealias, Mark.binding].all (fun mark => !Text.occursIn mark chars) =
      true) :
    BindsIff (String.ofList chars).toList False := by
  simp only [List.all_cons, List.all_nil, Bool.and_true, Bool.and_eq_true, Bool.not_eq_true'] at h
  rw [String.toList_ofList]
  exact ⟨h.1, h.2.1, by simp [h.2.2]⟩

/-- One call more in front. -/
theorem call (hparen : '(' ∉ text) (htypealias : Text.occursIn Mark.typealias text = false)
    (hsetter : setterName <:+ text → ¬ [')'] <+: rest) (hname : bindingName <:+ text ↔ p)
    (hrest : BindsIff rest q) : BindsIff (text ++ '(' :: rest) (p ∨ q) where
  setter := by
    rw [Bool.eq_false_iff, ne_eq, Text.occursIn_iff, setter_eq_append,
      Text.append_cons_infix_append_cons_iff (by decide) hparen, ← setter_eq_append,
      ← Text.occursIn_iff, hrest.setter]
    simpa using hsetter
  typealias := by
    rw [Text.occursIn_append_cons (by decide) (by decide), htypealias, hrest.typealias]
    rfl
  binding := by
    rw [Text.occursIn_iff, binding_eq_append,
      Text.append_cons_infix_append_cons_iff (by decide) hparen, ← binding_eq_append,
      ← Text.occursIn_iff, hrest.binding, hname]
    simp

/-- A call of a function that neither binds nor sets the identifiers. -/
theorem call_other (hparen : '(' ∉ text) (htypealias : Text.occursIn Mark.typealias text = false)
    (hsetter : ¬ setterName <:+ text) (hname : ¬ bindingName <:+ text) (hrest : BindsIff rest p) :
    BindsIff (text ++ '(' :: rest) p :=
  (call hparen htypealias (fun h => absurd h hsetter) (iff_of_false hname not_false) hrest).congr
    (or_iff_right not_false)

theorem call_other_of_lacks (h : Text.Lacks .ofMarks text)
    (hname : ¬ setterName <:+ text ∧ ¬ bindingName <:+ text) (hrest : BindsIff rest p) :
    BindsIff (text ++ '(' :: rest) p :=
  call_other (h.not_mem rfl) (typealias_of_lacks h) hname.1 hname.2 hrest

/-- The only call in a text. -/
theorem call_only (h : Text.Lacks .ofMarks text) (hsetter : setterName <:+ text → ¬ [')'] <+: rest)
    (hname : bindingName <:+ text ↔ p) (hrest : BindsIff rest False) :
    BindsIff (text ++ '(' :: rest) p :=
  (call (h.not_mem rfl) (typealias_of_lacks h) hsetter hname hrest).congr (or_iff_left not_false)

end BindsIff

end Line

/-! ## Lines and steps -/

namespace Text

variable {needle : Text}

/-- What is searched for in a row stands in its text. -/
theorem occursIn_row (htab : '\t' ∉ needle) (hnewline : '\n' ∉ needle) (hne : needle ≠ [])
    (level : Nat) (text : Text) :
    occursIn needle (Draft.row level text) = occursIn needle text := by
  unfold Draft.row
  rw [occursIn_append_singleton hnewline hne]
  induction level with
  | zero => rfl
  | succ level ih =>
    have hnil : occursIn needle [] = false := by simp [occursIn, hne]
    have htabs : occursIn needle ([] ++ '\t' :: (List.replicate level '\t' ++ text)) =
        (occursIn needle [] || occursIn needle (List.replicate level '\t' ++ text)) :=
      occursIn_append_cons htab hne
    rw [hnil, Bool.false_or, ih] at htabs
    exact htabs

end Text

namespace Lines

open Line (Mark.setter Mark.typealias Mark.binding)

variable {lines front back : Lines} {p q : Prop}

/-- No line is the signature of the setter or names an enum, and there is a binding among the lines
exactly under the condition. -/
structure BindsIff (lines : Lines) (p : Prop) : Prop where
  unnamed : ∀ line ∈ lines, Text.occursIn Mark.setter line = false ∧
    Text.occursIn Mark.typealias line = false
  binding : (∃ line ∈ lines, Text.occursIn Mark.binding line = true) ↔ p

namespace BindsIff

theorem congr (h : BindsIff lines p) (hpq : p ↔ q) : BindsIff lines q :=
  ⟨h.unnamed, h.binding.trans hpq⟩

theorem nil : BindsIff [] False :=
  ⟨by simp, by simp⟩

theorem singleton {line : Text} (h : Line.BindsIff line p) : BindsIff [line] p where
  unnamed := List.forall_mem_singleton.2 ⟨h.setter, h.typealias⟩
  binding := by simpa using h.binding

theorem append (hf : BindsIff front p) (hb : BindsIff back q) : BindsIff (front ++ back) (p ∨ q) where
  unnamed := List.forall_mem_append.2 ⟨hf.unnamed, hb.unnamed⟩
  binding := by simp only [List.mem_append, or_and_right, exists_or, hf.binding, hb.binding]

theorem row {text : Text} (h : Line.BindsIff text p) (level : Nat) :
    BindsIff [Draft.row level text] p := by
  refine singleton ⟨?_, ?_, ?_⟩
  · rw [Text.occursIn_row (by decide) (by decide) (by decide), h.setter]
  · rw [Text.occursIn_row (by decide) (by decide) (by decide), h.typealias]
  · rw [Text.occursIn_row (by decide) (by decide) (by decide), h.binding]

theorem exists_binding_iff (h : BindsIff lines p) :
    (∃ line ∈ lines, Line.kind line = .binding) ↔ p := by
  rw [← h.binding]
  constructor
  · rintro ⟨line, hline, hkind⟩
    exact ⟨line, hline, (Line.kind_eq_binding_iff.1 hkind).2⟩
  · rintro ⟨line, hline, hmark⟩
    exact ⟨line, hline, Line.kind_eq_binding_iff.2 ⟨(h.unnamed line hline).1, hmark⟩⟩

end BindsIff

end Lines

namespace Draft

variable {steps front back : List Step} {p q : Prop}

/-- The steps lay out whole lines, with a binding among them exactly under the condition. -/
structure BindsIff (steps : List Step) (p : Prop) : Prop where
  whole : ∀ step ∈ steps, step.whole = true
  rows : Lines.BindsIff (steps.flatMap Step.rows) p

namespace BindsIff

theorem compose (h : BindsIff steps p) : Lines.BindsIff (compose steps) p := by
  rw [compose_eq_flatMap_rows h.whole]
  exact h.rows

theorem congr (h : BindsIff steps p) (hpq : p ↔ q) : BindsIff steps q :=
  ⟨h.whole, h.rows.congr hpq⟩

theorem nil : BindsIff [] False :=
  ⟨by simp, Lines.BindsIff.nil⟩

theorem append (hf : BindsIff front p) (hb : BindsIff back q) :
    BindsIff (front ++ back) (p ∨ q) where
  whole := List.forall_mem_append.2 ⟨hf.whole, hb.whole⟩
  rows := by
    rw [List.flatMap_append]
    exact hf.rows.append hb.rows

theorem cons {step : Step} (hs : BindsIff [step] p) (h : BindsIff steps q) :
    BindsIff (step :: steps) (p ∨ q) :=
  hs.append h

/-- One step more that lays out no binding. -/
theorem cons_other {step : Step} (hs : BindsIff [step] False) (h : BindsIff steps p) :
    BindsIff (step :: steps) p :=
  (hs.append h).congr (or_iff_right not_false)

theorem line {text : Text} (h : Line.BindsIff text p) {level : Nat} :
    BindsIff [.line level text] p where
  whole := by simp [Step.whole]
  rows := Lines.BindsIff.row h level

theorem blank : BindsIff [.blank] False where
  whole := by simp [Step.whole]
  rows := Lines.BindsIff.row (.of_lacks (by simp [Text.Lacks])) 0

/-- One step more before steps that lay out no binding. -/
theorem cons_only {step : Step} (hs : BindsIff [step] p) (h : BindsIff steps False) :
    BindsIff (step :: steps) p :=
  (hs.append h).congr (or_iff_left not_false)

theorem flatMap {α : Type} {items : List α} {f : α → List Step} {p : α → Prop}
    (h : ∀ item ∈ items, BindsIff (f item) (p item)) :
    BindsIff (items.flatMap f) (∃ item ∈ items, p item) := by
  induction items with
  | nil => exact nil.congr (by simp)
  | cons item items ih =>
    rw [List.forall_mem_cons] at h
    rw [List.flatMap_cons]
    exact (h.1.append (ih h.2)).congr (by simp)

theorem map {α : Type} {items : List α} {f : α → Step} {p : α → Prop}
    (h : ∀ item ∈ items, BindsIff [f item] (p item)) :
    BindsIff (items.map f) (∃ item ∈ items, p item) := by
  rw [List.map_eq_flatMap]
  exact flatMap h

/-- A list of entries, where the texts that may stand around an entry do not matter. -/
theorem list {α : Type} {items : List α} {entry : α → Text} {p : α → Prop} {level : Nat}
    {opening continuation closing : Text}
    (h : ∀ item ∈ items, ∀ before ∈ [opening, continuation], ∀ after ∈ [closing, [',']],
      Line.BindsIff (before ++ entry item ++ after) (p item)) :
    BindsIff [.list level opening (items.map entry) continuation closing]
      (∃ item ∈ items, p item) := by
  refine ⟨by simp [Step.whole], ?_⟩
  rw [List.flatMap_singleton, Step.rows]
  -- the opening stands before the first entry only, so it varies along the list
  induction items generalizing opening with
  | nil => exact Lines.BindsIff.nil.congr (by simp)
  | cons item items ih =>
    rw [List.forall_mem_cons] at h
    cases items with
    | nil =>
      have hlast := h.1 opening (by simp) closing (by simp)
      exact (Lines.BindsIff.row hlast level).congr (by simp)
    | cons next items =>
      have hfirst := h.1 opening (by simp) [','] (by simp)
      have hrest := @ih continuation fun other hother before hbefore =>
        h.2 other hother before (List.mem_cons_of_mem opening (by simpa using hbefore))
      rw [List.map_cons, List.map_cons, listed.eq_3 _ _ _ _ _ (by simp), List.map_cons,
        ← List.map_cons]
      exact ((Lines.BindsIff.row hfirst level).append hrest).congr (by simp)

end BindsIff

end Draft

end OutletWiring

import OutletWiring.Naming
import Mathlib.Data.List.Basic

/-!
# Punctuation in derived names

The rules that derive names drop characters and change the case of one. No character but a letter
comes out of a change of case, so a derived name holds no punctuation that the class name does not
hold. In particular the names derived from an identifier hold no punctuation at all.
-/

namespace OutletWiring

namespace Letter

def isSign (c : Char) : Bool :=
  0 < c.toNat && c.toNat < 0x80 && !c.isAlpha

/-- The run goes to characters from U+0080 on, or holds one character that goes to a letter. -/
def Shift.avoidsSigns (shift : Shift) : Bool :=
  0x80 ≤ shift.run.first + shift.distance ||
    (shift.run.first == shift.run.last &&
      (Char.ofNat (shift.run.first + shift.distance).toNat).isAlpha)

theorem avoidsSigns_upperShifts : ∀ shift ∈ upperShifts, shift.avoidsSigns = true := by
  decide +kernel

theorem avoidsSigns_lowerShifts : ∀ shift ∈ lowerShifts, shift.avoidsSigns = true := by
  decide +kernel

theorem not_sign_upperExpansions :
    ∀ entry ∈ upperExpansions, ∀ code ∈ entry.2, isSign (Char.ofNat code) = false := by
  decide +kernel

theorem not_sign_lowerExpansions :
    ∀ entry ∈ lowerExpansions, ∀ code ∈ entry.2, isSign (Char.ofNat code) = false := by
  decide +kernel

theorem not_sign_ofNat {code : Nat} (h : 0x80 ≤ code) : isSign (Char.ofNat code) = false := by
  unfold isSign
  by_cases hv : code.isValidChar
  · have : (Char.ofNat code).toNat = code := by
      rw [Char.ofNat, dif_pos hv]
      rfl
    rw [this]
    simp
    omega
  · have : (Char.ofNat code).toNat = 0 := by
      simp [Char.ofNat, hv, Char.toNat]
    simp [this]

theorem not_sign_shift {shift : Shift} (h : shift.avoidsSigns = true) {code : Nat}
    (hc : shift.run.holds code = true) :
    isSign (Char.ofNat (code + shift.distance).toNat) = false := by
  simp only [Run.holds, Bool.and_eq_true, decide_eq_true_eq] at hc
  simp only [Shift.avoidsSigns, Bool.or_eq_true, decide_eq_true_eq, Bool.and_eq_true,
    beq_iff_eq] at h
  rcases h with h | ⟨hone, halpha⟩
  · exact not_sign_ofNat (by omega)
  · have : code = shift.run.first := by omega
    rw [this]
    simp [isSign, halpha]

theorem not_sign_mapped {expansions : List (Nat × List Nat)} {shifts : List Shift} {c x : Char}
    (he : ∀ entry ∈ expansions, ∀ code ∈ entry.2, isSign (Char.ofNat code) = false)
    (hs : ∀ shift ∈ shifts, shift.avoidsSigns = true) (hx : isSign x = false)
    (h : c ∈ mapped expansions shifts x) : isSign c = false := by
  unfold mapped at h
  cases hl : expansions.lookup x.toNat with
  | some codes =>
    simp only [hl, List.mem_map] at h
    obtain ⟨code, hcode, rfl⟩ := h
    obtain ⟨front, back, hsplit, -⟩ := List.lookup_eq_some_iff.1 hl
    exact he (x.toNat, codes) (by simp [hsplit]) code hcode
  | none =>
    simp only [hl] at h
    cases hf : shifts.find? (·.run.holds x.toNat) with
    | some shift =>
      simp only [hf, List.mem_singleton] at h
      subst h
      have hholds : shift.run.holds x.toNat = true := by simpa using List.find?_some hf
      exact not_sign_shift (hs shift (List.mem_of_find?_eq_some hf)) hholds
    | none =>
      simp only [hf, List.mem_singleton] at h
      exact h ▸ hx

theorem toCase_of_sign : ∀ code < 0x80,
    (isSign (Char.ofNat code).toLower = true → (Char.ofNat code).toLower = Char.ofNat code) ∧
      (isSign (Char.ofNat code).toUpper = true → (Char.ofNat code).toUpper = Char.ofNat code) := by
  decide +kernel

variable {c x : Char}

theorem eq_of_mem_lower (hc : isSign c = true) (h : c ∈ lower x) : c = x := by
  unfold lower at h
  split_ifs at h with hx
  · rw [List.mem_singleton] at h
    have := (toCase_of_sign x.toNat hx).1
    rw [Char.ofNat_toNat] at this
    exact h.trans (this (h ▸ hc))
  · have hns : isSign x = false := by simp [isSign, hx]
    rw [not_sign_mapped not_sign_lowerExpansions avoidsSigns_lowerShifts hns h] at hc
    cases hc

theorem eq_of_mem_upper (hc : isSign c = true) (h : c ∈ upper x) : c = x := by
  unfold upper at h
  split_ifs at h with hx
  · rw [List.mem_singleton] at h
    have := (toCase_of_sign x.toNat hx).2
    rw [Char.ofNat_toNat] at this
    exact h.trans (this (h ▸ hc))
  · have hns : isSign x = false := by simp [isSign, hx]
    rw [not_sign_mapped not_sign_upperExpansions avoidsSigns_upperShifts hns h] at hc
    cases hc

end Letter

open Letter (isSign)

variable {c : Char}

namespace Text

theorem mem_of_mem_lowerFirst (hc : isSign c = true) {text : Text} (h : c ∈ lowerFirst text) :
    c ∈ text := by
  cases text with
  | nil => simp [lowerFirst] at h
  | cons x xs =>
    rcases List.mem_append.1 h with h | h
    · simp [Letter.eq_of_mem_lower hc h]
    · simp [h]

theorem mem_of_mem_upperFirst (hc : isSign c = true) {text : Text} (h : c ∈ upperFirst text) :
    c ∈ text := by
  cases text with
  | nil => simp [upperFirst] at h
  | cons x xs =>
    rcases List.mem_append.1 h with h | h
    · simp [Letter.eq_of_mem_upper hc h]
    · simp [h]

theorem mem_of_mem_eraseFrom {mark text : Text} {skip : Nat} (h : c ∈ eraseFrom mark skip text) :
    c ∈ text := by
  fun_induction eraseFrom mark skip text with
  | case1 => exact h
  | case2 skip _ cs ih => exact List.mem_cons_of_mem _ (ih h)
  | case3 c' cs _ ih => exact List.mem_cons_of_mem _ (ih h)
  | case4 c' cs _ ih =>
    rcases List.mem_cons.1 h with rfl | h
    · exact List.mem_cons_self
    · exact List.mem_cons_of_mem _ (ih h)

theorem mem_of_mem_erase {mark text : Text} (h : c ∈ erase mark text) : c ∈ text :=
  mem_of_mem_eraseFrom h

theorem mem_eraseFrom {mark text : Text} {skip : Nat} (hm : mark ≠ []) (hc : c ∉ mark)
    (hskip : ∀ x ∈ text.take skip, x ∈ mark) (h : c ∈ text) : c ∈ eraseFrom mark skip text := by
  fun_induction eraseFrom mark skip text with
  | case1 => exact h
  | case2 skip x cs ih =>
    have hx : x ∈ mark := hskip x (by simp)
    rcases List.mem_cons.1 h with rfl | h
    · exact absurd hx hc
    · exact ih (fun y hy => hskip y (by simp [hy])) h
  | case3 x cs hp ih =>
    rw [List.isPrefixOf_iff_prefix] at hp
    -- the characters that are left out are those of the mark
    have htake : mark = (x :: cs).take mark.length := List.prefix_iff_eq_take.1 hp
    obtain ⟨size, hsize⟩ := Nat.exists_eq_add_one_of_ne_zero (mt List.length_eq_zero_iff.1 hm)
    rw [hsize, List.take_succ_cons] at htake
    have hx : x ∈ mark := by rw [htake]; simp
    have hcs : ∀ y ∈ cs.take (mark.length - 1), y ∈ mark := by
      intro y hy
      rw [hsize, Nat.add_sub_cancel] at hy
      rw [htake]
      simp [hy]
    rcases List.mem_cons.1 h with rfl | h
    · exact absurd hx hc
    · exact ih hcs h
  | case4 x cs _ ih =>
    rcases List.mem_cons.1 h with rfl | h
    · exact List.mem_cons_self
    · exact List.mem_cons_of_mem _ (ih (by simp) h)

/-- A character that is not of the mark is never taken out. -/
theorem mem_erase {mark text : Text} (hm : mark ≠ []) (hc : c ∉ mark) (h : c ∈ text) :
    c ∈ erase mark text :=
  mem_eraseFrom hm hc (by simp) h

theorem length_eraseFrom_le (mark : Text) (skip : Nat) (text : Text) :
    (eraseFrom mark skip text).length ≤ text.length := by
  fun_induction eraseFrom mark skip text with
  | case1 => exact Nat.le_refl _
  | case2 skip _ cs ih => exact Nat.le_trans ih (Nat.le_succ _)
  | case3 c cs _ ih => exact Nat.le_trans ih (Nat.le_succ _)
  | case4 c cs _ ih => simpa using ih

end Text

namespace Naming

variable {className : Text}

theorem mem_of_mem_dropCapitals {name : Text} (h : c ∈ dropCapitals name) : c ∈ name := by
  fun_induction dropCapitals name with
  | case1 first second rest _ ih => exact List.mem_cons_of_mem _ (ih h)
  | case2 => exact h
  | case3 => exact h

theorem mem_of_mem_withoutModuleMark {name : Text} (h : c ∈ withoutModuleMark name) : c ∈ name := by
  unfold withoutModuleMark at h
  split_ifs at h
  · exact h
  · exact mem_of_mem_dropCapitals h

theorem mem_of_mem_accessorStem (hc : isSign c = true) (h : c ∈ accessorStem className) :
    c ∈ className :=
  mem_of_mem_withoutModuleMark (Text.mem_of_mem_lowerFirst hc h)

theorem mem_of_mem_screenStem (h : c ∈ screenStem className) : c ∈ className :=
  Text.mem_of_mem_erase h

theorem mem_of_mem_viewProtocol (h : c ∈ viewProtocol className) : c ∈ className :=
  Text.mem_of_mem_erase h

/-- A name that is longer than that of the class is not that of its interface protocol. -/
theorem append_ne_viewProtocol (className : Text) {mark : Text} (h : mark ≠ []) :
    className ++ mark ≠ viewProtocol className := by
  intro heq
  have hlen : (viewProtocol className).length ≤ className.length :=
    Text.length_eraseFrom_le "Controller" 0 className
  have hmark := List.length_pos_iff.2 h
  rw [← heq, List.length_append] at hlen
  omega

theorem mem_of_mem_rootViewIdentifier (hc : isSign c = true)
    (h : c ∈ rootViewIdentifier className) : c ∈ className :=
  mem_of_mem_viewProtocol (Text.mem_of_mem_lowerFirst hc h)

theorem mem_of_mem_cellIdentifier (hc : isSign c = true) (h : c ∈ cellIdentifier className) :
    c ∈ className := by
  unfold cellIdentifier at h
  cases hl : (className.takeWhile Letter.isUppercase).getLast? with
  | none =>
    rw [hl] at h
    exact h
  | some capital =>
    simp only [hl, List.mem_append] at h
    rcases h with h | h
    · rw [Letter.eq_of_mem_lower hc h]
      exact (List.takeWhile_prefix _).subset (List.mem_of_getLast? hl)
    · exact (List.dropWhile_suffix _).subset h

/-! ## Identifiers -/

def isWordChar (c : Char) : Bool :=
  c.isAlphanum || c == '_'

/-- The name is an identifier: ASCII letters, digits and underscores, with no digit in front. -/
def IsIdentifier : Text → Prop
  | [] => False
  | first :: rest => first.isDigit = false ∧ ∀ c ∈ first :: rest, isWordChar c = true

instance : DecidablePred IsIdentifier
  | [] => inferInstanceAs (Decidable False)
  | _ :: _ => inferInstanceAs (Decidable (_ ∧ _))

theorem IsIdentifier.not_mem {name : Text} (h : IsIdentifier name) (hc : isWordChar c = false) :
    c ∉ name := by
  intro hm
  cases name with
  | nil => cases hm
  | cons first rest =>
    have := h.2 c hm
    rw [hc] at this
    cases this

theorem IsIdentifier.ne_nil {name : Text} (h : IsIdentifier name) : name ≠ [] := by
  rintro rfl
  exact h

def IsFragment (text : Text) : Prop :=
  ∀ c ∈ text, isWordChar c = true

instance : DecidablePred IsFragment :=
  fun text => inferInstanceAs (Decidable (∀ _ ∈ text, _))

theorem IsIdentifier.isFragment {name : Text} (h : IsIdentifier name) : IsFragment name := by
  cases name with
  | nil => cases h
  | cons first rest => exact h.2

theorem IsFragment.append {a b : Text} (ha : IsFragment a) (hb : IsFragment b) :
    IsFragment (a ++ b) :=
  List.forall_mem_append.2 ⟨ha, hb⟩

theorem toNat_lt_of_isWordChar {c : Char} (h : isWordChar c = true) : c.toNat < 0x80 := by
  have hcases : (c.isUpper || c.isLower || c.isDigit || c == '_') = true := h
  simp only [Bool.or_eq_true, beq_iff_eq] at hcases
  rcases hcases with ((h | h) | h) | rfl
  · exact Nat.lt_of_le_of_lt (of_decide_eq_true h).2 (by decide)
  · exact Nat.lt_of_le_of_lt (of_decide_eq_true (Bool.and_eq_true_iff.1 h).2) (by decide)
  · exact Nat.lt_of_le_of_lt (of_decide_eq_true (Bool.and_eq_true_iff.1 h).2) (by decide)
  · decide

theorem isWordChar_toCase : ∀ code < 0x80, isWordChar (Char.ofNat code) = true →
    isWordChar (Char.ofNat code).toUpper = true ∧ isWordChar (Char.ofNat code).toLower = true := by
  decide +kernel

/-- A change of the case of its first character leaves a fragment one. -/
theorem IsFragment.toCase {first : Char} {rest : Text} (h : IsFragment (first :: rest)) :
    first.toNat < 0x80 ∧ IsFragment (first.toUpper :: rest) ∧
      IsFragment (first.toLower :: rest) := by
  have hfirst := h first (by simp)
  have hlow := toNat_lt_of_isWordChar hfirst
  have hcase := isWordChar_toCase first.toNat hlow
  rw [Char.ofNat_toNat] at hcase
  have hrest := (List.forall_mem_cons.1 h).2
  exact ⟨hlow, List.forall_mem_cons.2 ⟨(hcase hfirst).1, hrest⟩,
    List.forall_mem_cons.2 ⟨(hcase hfirst).2, hrest⟩⟩

theorem IsFragment.upperFirst {text : Text} (h : IsFragment text) :
    IsFragment (Text.upperFirst text) := by
  cases text with
  | nil => exact h
  | cons first rest =>
    obtain ⟨hlow, hupper, -⟩ := h.toCase
    rw [Text.upperFirst, Letter.upper_of_ascii hlow]
    exact hupper

theorem IsFragment.lowerFirst {text : Text} (h : IsFragment text) :
    IsFragment (Text.lowerFirst text) := by
  cases text with
  | nil => exact h
  | cons first rest =>
    obtain ⟨hlow, -, hlower⟩ := h.toCase
    rw [Text.lowerFirst, Letter.lower_of_ascii hlow]
    exact hlower

theorem IsFragment.accessorStem {className : Text} (h : IsFragment className) :
    IsFragment (accessorStem className) :=
  IsFragment.lowerFirst fun c hc => h c (mem_of_mem_withoutModuleMark hc)

theorem IsFragment.screenStem {className : Text} (h : IsFragment className) :
    IsFragment (screenStem className) :=
  fun c hc => h c (mem_of_mem_screenStem hc)

end Naming

end OutletWiring

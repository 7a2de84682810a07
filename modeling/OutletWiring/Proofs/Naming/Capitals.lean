import OutletWiring.Naming
import OutletWiring.Proofs.Text.Letter

/-!
# The identifier of a cell and the stem of its accessors

Both rules shorten a run of capitals in front of a class name to its last one and write that in
lower case (`cellIdentifier_eq_lowerFirst`). They part in one shape only: the stem keeps a run of
capitals before a lower case letter among the first three characters, so that `IPadCell` is
identified as `padCell` and reached by accessors that start with `iPadCell`. The rules agree on
every other name that starts with a capital, whatever the length of the run or of the name.
-/

namespace OutletWiring.Naming

open Letter (isUppercase isLowercase)

/-- The first two characters are upper case and the third is lower case. -/
def TwoCapitals : Text → Prop
  | first :: second :: third :: _ =>
    isUppercase first = true ∧ isUppercase second = true ∧ isLowercase third = true
  | _ => False

instance : DecidablePred TwoCapitals
  | [] | [_] | [_, _] => inferInstanceAs (Decidable False)
  | _ :: _ :: _ :: _ => inferInstanceAs (Decidable (_ ∧ _))

variable {first second : Char} {rest : Text}

/-! ## One capital of a run -/

theorem cellIdentifier_cons_cons (hfirst : isUppercase first = true)
    (hsecond : isUppercase second = true) :
    cellIdentifier (first :: second :: rest) = cellIdentifier (second :: rest) := by
  simp [cellIdentifier, hfirst, hsecond, List.getLast?_cons]

theorem cellIdentifier_cons (hfirst : isUppercase first = true)
    (hrest : ∀ c ∈ rest.head?, isUppercase c = false) :
    cellIdentifier (first :: rest) = Letter.lower first ++ rest := by
  cases rest with
  | nil => simp [cellIdentifier, hfirst]
  | cons second rest =>
    have hsecond : isUppercase second = false := hrest second rfl
    simp [cellIdentifier, hfirst, hsecond]

theorem dropCapitals_cons (hrest : ∀ c ∈ rest.head?, isUppercase c = false) :
    dropCapitals (first :: rest) = first :: rest := by
  cases rest with
  | nil => rfl
  | cons second rest =>
    have hsecond : isUppercase second = false := hrest second rfl
    simp [dropCapitals, hsecond]

/-- A cell is identified by what is left of its name when all capitals in front but the last are
dropped. -/
theorem cellIdentifier_eq_lowerFirst (h : isUppercase first = true) :
    cellIdentifier (first :: rest) = Text.lowerFirst (dropCapitals (first :: rest)) := by
  induction rest generalizing first with
  | nil => exact cellIdentifier_cons h (by simp)
  | cons second rest ih =>
    by_cases hsecond : isUppercase second = true
    · have hdrop : dropCapitals (first :: second :: rest) = dropCapitals (second :: rest) := by
        simp [dropCapitals, h, hsecond]
      rw [cellIdentifier_cons_cons h hsecond, hdrop, ih hsecond]
    · have hnext : ∀ c ∈ (second :: rest).head?, isUppercase c = false := by
        simpa using hsecond
      rw [cellIdentifier_cons h hnext, dropCapitals_cons hnext]
      rfl

/-! ## Where the two rules part -/

/-- A name without two capitals before a lower case letter loses its capitals to both rules. -/
theorem withoutModuleMark_eq_dropCapitals (h : isUppercase first = true)
    (hn : ¬ TwoCapitals (first :: rest)) :
    withoutModuleMark (first :: rest) = dropCapitals (first :: rest) := by
  unfold withoutModuleMark
  split_ifs with hlow
  · -- the lower case letter is the second character, or the third after one that is no capital
    refine (dropCapitals_cons ?_).symm
    have hfirst := Letter.isLowercase_eq_false_of_isUppercase h
    cases rest with
    | nil => simp
    | cons second rest =>
      simp only [List.head?_cons, Option.mem_some_iff, forall_eq', Bool.eq_false_iff]
      intro hsecond
      have hlower := Letter.isLowercase_eq_false_of_isUppercase hsecond
      cases rest with
      | nil => simp [hfirst, hlower] at hlow
      | cons third rest =>
        have hthird : isLowercase third = true := by simpa [hfirst, hlower] using hlow
        exact hn ⟨h, hsecond, hthird⟩
  · rfl

theorem accessorStem_of_twoCapitals {third : Char}
    (h : TwoCapitals (first :: second :: third :: rest)) :
    accessorStem (first :: second :: third :: rest) =
      Letter.lower first ++ second :: third :: rest := by
  have hlow : ((first :: second :: third :: rest).take 3).any isLowercase = true := by
    simp [h.2.2]
  rw [accessorStem, withoutModuleMark, if_pos hlow]
  rfl

theorem cellIdentifier_of_twoCapitals {third : Char}
    (h : TwoCapitals (first :: second :: third :: rest)) :
    cellIdentifier (first :: second :: third :: rest) = Letter.lower second ++ third :: rest := by
  have hthird : isUppercase third = false := by
    rw [Bool.eq_false_iff]
    intro hupper
    have hlower := Letter.isLowercase_eq_false_of_isUppercase hupper
    rw [h.2.2] at hlower
    cases hlower
  rw [cellIdentifier_cons_cons h.1 h.2.1]
  exact cellIdentifier_cons h.2.1 (by simpa using hthird)

theorem cellIdentifier_ne_accessorStem {name : Text} (h : TwoCapitals name) :
    cellIdentifier name ≠ accessorStem name := by
  rcases name with _ | ⟨first, _ | ⟨second, _ | ⟨third, rest⟩⟩⟩
  · exact h.elim
  · exact h.elim
  · exact h.elim
  rw [cellIdentifier_of_twoCapitals h, accessorStem_of_twoCapitals h]
  intro heq
  have hsplit : Letter.lower first ++ second :: third :: rest =
      (Letter.lower first ++ [second]) ++ third :: rest := by simp
  rw [hsplit] at heq
  exact Letter.lower_ne_append_self (Letter.lower_ne_nil first) (List.append_cancel_right heq)

/-- The identifier of a cell and the stem of its accessors are the same for a class name that starts
with a capital, unless its first two characters are capitals and the third is a lower case letter;
then they differ. -/
theorem cellIdentifier_eq_accessorStem_iff {first : Char} (rest : Text)
    (h : isUppercase first = true) :
    cellIdentifier (first :: rest) = accessorStem (first :: rest) ↔
      ¬ TwoCapitals (first :: rest) := by
  constructor
  · intro heq htwo
    exact cellIdentifier_ne_accessorStem htwo heq
  · intro hn
    rw [accessorStem, withoutModuleMark_eq_dropCapitals h hn, cellIdentifier_eq_lowerFirst h]

/-- `ABCProductCell` has one name for both uses, `IPadCell` has two. -/
theorem cellIdentifier_eq_accessorStem_iff_padCell :
    isUppercase 'A' = true ∧
      cellIdentifier ('A' :: "BCProductCell") = accessorStem ('A' :: "BCProductCell") ∧
      isUppercase 'I' = true ∧
      cellIdentifier ('I' :: "PadCell") ≠ accessorStem ('I' :: "PadCell") :=
  ⟨by decide, (cellIdentifier_eq_accessorStem_iff "BCProductCell" (by decide)).2 (by decide),
    by decide,
    fun heq => (cellIdentifier_eq_accessorStem_iff "PadCell" (by decide)).1 heq (by decide)⟩

end OutletWiring.Naming

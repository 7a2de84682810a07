import OutletWiring.Proofs.Text.Occurrence
import OutletWiring.ViewKind

/-!
# The kind of a view by the end of its name

The kind is looked for in the last characters of the class name, one more than the word that gives
it has. There the word stands at the end of the name or right before its last character
(`occursIn_lastChars_iff`). So nothing in front of the last nineteen characters counts, which leave
room for `Cell`, one character more, and `ViewController` (`ofClassName_lastChars`).
-/

namespace OutletWiring

namespace Text

variable {mark text : Text}

/-- The mark ends the text, or all of it but the last character. -/
def EndsNear (mark text : Text) : Prop :=
  mark <:+ text ∨ ∃ c, mark ++ [c] <:+ text

theorem lastChars_suffix (count : Nat) (text : Text) : lastChars count text <:+ text :=
  List.drop_suffix _ _

theorem length_lastChars (count : Nat) (text : Text) :
    (lastChars count text).length = min count text.length := by
  rw [lastChars, List.length_drop]
  omega

/-- What ends a text and is not too long ends its last characters. -/
theorem suffix_lastChars {tail : Text} {count : Nat} (h : tail <:+ text) (hl : tail.length ≤ count) :
    tail <:+ lastChars count text := by
  apply List.suffix_of_suffix_length_le h (lastChars_suffix count text)
  have htail := h.length_le
  rw [length_lastChars]
  omega

/-- With room for one character more, a mark is found in the last characters exactly if it ends the
text or all of it but the last character. -/
theorem occursIn_lastChars_iff (mark text : Text) :
    occursIn mark (lastChars (mark.length + 1) text) = true ↔ EndsNear mark text := by
  rw [occursIn_iff]
  constructor
  · rintro ⟨front, back, h⟩
    have hsuffix : front ++ mark ++ back <:+ text := h ▸ lastChars_suffix _ text
    have hlength : front.length + mark.length + back.length ≤ mark.length + 1 := by
      have := length_lastChars (mark.length + 1) text
      rw [← h] at this
      simp only [List.length_append] at this
      omega
    cases back with
    | nil =>
      left
      rw [List.append_nil] at hsuffix
      exact (List.suffix_append front mark).trans hsuffix
    | cons c back =>
      right
      rw [List.length_cons] at hlength
      have hfront : front = [] := List.length_eq_zero_iff.1 (by omega)
      have hback : back = [] := List.length_eq_zero_iff.1 (by omega)
      subst hfront hback
      exact ⟨c, hsuffix⟩
  · rintro (h | ⟨c, h⟩)
    · exact (suffix_lastChars h (by omega)).isInfix
    · have hlast : mark ++ [c] <:+ lastChars (mark.length + 1) text := suffix_lastChars h (by simp)
      exact (List.prefix_append mark [c]).isInfix.trans hlast.isInfix

/-- The rest of a text that ends in the mark, or the whole text if it does not. -/
theorem withoutSuffix_spec (mark text : Text) :
    text = withoutSuffix mark text ++ mark ∨ withoutSuffix mark text = text ∧ ¬ mark <:+ text := by
  unfold withoutSuffix
  split_ifs with h
  · left
    rw [List.isSuffixOf_iff_suffix] at h
    obtain ⟨front, rfl⟩ := h
    simp
  · right
    rw [List.isSuffixOf_iff_suffix] at h
    exact ⟨rfl, h⟩

/-! ## Text in front -/

variable {front : Text} {count : Nat}

theorem lastChars_append (h : count ≤ text.length) :
    lastChars count (front ++ text) = lastChars count text := by
  have hdrop : (front ++ text).length - count = front.length + (text.length - count) := by
    rw [List.length_append]
    omega
  rw [lastChars, lastChars, hdrop, List.drop_append]
  simp

theorem withoutSuffix_append (h : mark.length ≤ text.length) :
    withoutSuffix mark (front ++ text) = front ++ withoutSuffix mark text := by
  have hsuffix : mark.isSuffixOf (front ++ text) = mark.isSuffixOf text := by
    rw [Bool.eq_iff_iff, List.isSuffixOf_iff_suffix, List.isSuffixOf_iff_suffix]
    constructor
    · intro hm
      exact List.suffix_of_suffix_length_le hm (List.suffix_append front text) h
    · intro hm
      exact hm.trans (List.suffix_append front text)
  have htake : (front ++ text).length - mark.length = front.length + (text.length - mark.length) := by
    rw [List.length_append]
    omega
  unfold withoutSuffix
  rw [hsuffix, htake]
  split_ifs
  · rw [List.take_length_add_append]
  · rfl

theorem length_le_withoutSuffix (mark text : Text) :
    text.length ≤ (withoutSuffix mark text).length + mark.length := by
  rcases withoutSuffix_spec mark text with h | ⟨h, -⟩
  · have := congrArg List.length h
    rw [List.length_append] at this
    omega
  · rw [h]
    omega

end Text

namespace ViewKind

open Text (EndsNear withoutSuffix)

/-- The three kinds, by what ends the name and the name without a final `ViewController`. -/
theorem ofClassName_iff (name : Text) :
    (ofClassName name = cell ↔
      EndsNear "Cell" name ∨ EndsNear "Cell" (withoutSuffix "ViewController" name)) ∧
    (ofClassName name = viewController ↔
      ¬(EndsNear "Cell" name ∨ EndsNear "Cell" (withoutSuffix "ViewController" name)) ∧
        EndsNear "ViewController" name) := by
  have hname : Text.occursIn "Cell" (Text.lastChars 5 name) = true ↔ EndsNear "Cell" name :=
    Text.occursIn_lastChars_iff "Cell" name
  have hstem : Text.occursIn "Cell" (Text.lastChars 5 (withoutSuffix "ViewController" name)) = true ↔
      EndsNear "Cell" (withoutSuffix "ViewController" name) :=
    Text.occursIn_lastChars_iff "Cell" _
  have hcontroller : Text.occursIn "ViewController" (Text.lastChars 15 name) = true ↔
      EndsNear "ViewController" name :=
    Text.occursIn_lastChars_iff "ViewController" name
  rw [← hname, ← hstem, ← hcontroller, ← Bool.or_eq_true]
  unfold ofClassName
  split_ifs <;> simp_all

/-- The kind hangs on the last nineteen characters of the name alone. -/
theorem ofClassName_append {front name : Text} (h : 19 ≤ name.length) :
    ofClassName (front ++ name) = ofClassName name := by
  have hmark : ("ViewController" : Text).length = 14 := rfl
  have hstem := Text.length_le_withoutSuffix "ViewController" name
  unfold ofClassName
  rw [Text.lastChars_append (by omega), Text.lastChars_append (by omega),
    Text.withoutSuffix_append (by omega), Text.lastChars_append (by omega)]

theorem ofClassName_lastChars (name : Text) :
    ofClassName (Text.lastChars 19 name) = ofClassName name := by
  obtain ⟨front, hfront⟩ := Text.lastChars_suffix 19 name
  have hlength := Text.length_lastChars 19 name
  by_cases hlong : 19 ≤ name.length
  · have happend : ofClassName (front ++ Text.lastChars 19 name) =
        ofClassName (Text.lastChars 19 name) := ofClassName_append (by omega)
    rw [← happend, hfront]
  · have hall : Text.lastChars 19 name = name := by
      apply (Text.lastChars_suffix 19 name).eq_of_length
      omega
    rw [hall]

/-- A name gives a cell if it, or it without one final `ViewController`, ends in `Cell` or in `Cell`
and one character more; else a controller if it ends in `ViewController` or in that and one
character more; else a plain view. Nothing in front of the last nineteen characters counts. -/
theorem ofClassName_by_end (name : Text) :
    ofClassName name = ofClassName (Text.lastChars 19 name) ∧
    ∃ stem : Text,
      (name = stem ++ "ViewController" ∨ stem = name ∧ ¬("ViewController" : Text) <:+ name) ∧
      (ofClassName name = cell ↔ EndsNear "Cell" name ∨ EndsNear "Cell" stem) ∧
      (ofClassName name = viewController ↔
        ¬(EndsNear "Cell" name ∨ EndsNear "Cell" stem) ∧ EndsNear "ViewController" name) ∧
      (ofClassName name = view ↔
        ¬(EndsNear "Cell" name ∨ EndsNear "Cell" stem) ∧ ¬EndsNear "ViewController" name) := by
  obtain ⟨hcell, hcontroller⟩ := ofClassName_iff name
  refine ⟨(ofClassName_lastChars name).symm, withoutSuffix "ViewController" name,
    Text.withoutSuffix_spec _ name, hcell, hcontroller, ?_⟩
  cases hk : ofClassName name with
  | view => simp_all
  | viewController => simp_all
  | cell => simp_all

example : ofClassName "ItemCellViewController" = .cell := by decide

example : ofClassName "ViewControllerHostView" = .view := by decide

end ViewKind

end OutletWiring

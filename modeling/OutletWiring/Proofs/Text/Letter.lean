import OutletWiring.Text.Case
import Mathlib.Data.List.TakeWhile
import Mathlib.Tactic.SplitIfs

/-!
# Upper and lower case letters apart

No character is both upper and lower case: the two tables are in order, and going through both at
once shows that no run of one meets a run of the other. The lower case of a character is never
empty, and where it is more than one character the last of them is another one.
-/

namespace OutletWiring.Letter

/-! ## The two tables -/

/-- No code point is in both runs: one ends before the other starts, one is a single code point that
the other passes over, or they take turns. -/
def Run.apart (run other : Run) : Bool :=
  run.last < other.first || other.last < run.first ||
    (run.first == run.last && !other.holds run.first) ||
    (other.first == other.last && !run.holds other.first) ||
    (run.step == 2 && other.step == 2 && (run.first + other.first) % 2 == 1)

theorem Run.holds_eq_false_of_apart {run other : Run} (h : run.apart other = true) {code : Nat}
    (hc : run.holds code = true) : other.holds code = false := by
  rw [Bool.eq_false_iff]
  intro ho
  have hbounds : ∀ {run : Run}, run.holds code = true →
      run.first ≤ code ∧ code ≤ run.last ∧ (code - run.first) % run.step = 0 := by
    intro run h
    simpa [Run.holds, and_assoc] using h
  obtain ⟨hfirst, hlast, hstep⟩ := hbounds hc
  obtain ⟨hfirst', hlast', hstep'⟩ := hbounds ho
  simp only [Run.apart, Bool.or_eq_true, Bool.and_eq_true, decide_eq_true_eq, beq_iff_eq] at h
  rcases h with (((hlt | hlt) | ⟨hone, hpassed⟩) | ⟨hone, hpassed⟩) | ⟨⟨htwo, htwo'⟩, hodd⟩
  · omega
  · omega
  · rw [show run.first = code by omega, ho] at hpassed
    cases hpassed
  · rw [show other.first = code by omega, hc] at hpassed
    cases hpassed
  · rw [htwo] at hstep
    rw [htwo'] at hstep'
    omega

/-- The runs start at `bound` or later, each behind the end of the one before it. -/
def inOrder (bound : Nat) : List Run → Bool
  | [] => true
  | run :: runs =>
    Nat.ble bound run.first && Nat.ble run.first run.last && inOrder (run.last + 1) runs

theorem le_first_of_inOrder {runs : List Run} {bound : Nat} (h : inOrder bound runs = true) :
    ∀ run ∈ runs, bound ≤ run.first := by
  induction runs generalizing bound with
  | nil => simp
  | cons run runs ih =>
    simp only [inOrder, Bool.and_eq_true, Nat.ble_eq] at h
    obtain ⟨⟨hbound, hrun⟩, hrest⟩ := h
    intro other hother
    rcases List.mem_cons.1 hother with rfl | hother
    · exact hbound
    · have hlater := ih hrest other hother
      omega

/-- Runs in order are apart from others in order if each is apart from the others down to its end.
The others that end before a run are passed over for the later ones too. -/
def apartFrom : List Run → List Run → Bool
  | [], _ => true
  | run :: runs, others =>
    let near := others.dropWhile fun other => Nat.blt other.last run.first
    (near.takeWhile fun other => Nat.ble other.first run.last).all run.apart && apartFrom runs near

theorem exists_inOrder_dropWhile {runs : List Run} {bound : Nat} (h : inOrder bound runs = true)
    (p : Run → Bool) : ∃ start, inOrder start (runs.dropWhile p) = true := by
  induction runs generalizing bound with
  | nil => exact ⟨0, rfl⟩
  | cons run runs ih =>
    rw [List.dropWhile_cons]
    split_ifs
    · simp only [inOrder, Bool.and_eq_true] at h
      exact ih h.2
    · exact ⟨bound, h⟩

/-- Behind the first run that starts beyond a code point, all do. -/
theorem lt_first_of_mem_dropWhile {runs : List Run} {bound code : Nat}
    (h : inOrder bound runs = true) {run : Run}
    (hr : run ∈ runs.dropWhile fun run => Nat.ble run.first code) : code < run.first := by
  induction runs generalizing bound with
  | nil => cases hr
  | cons next runs ih =>
    simp only [inOrder, Bool.and_eq_true, Nat.ble_eq] at h
    obtain ⟨⟨hbound, hnext⟩, hrest⟩ := h
    rw [List.dropWhile_cons] at hr
    split_ifs at hr with hle
    · exact ih hrest hr
    · have hstart : code < next.first := by simpa using hle
      rcases List.mem_cons.1 hr with rfl | hr
      · exact hstart
      · have hlater := le_first_of_inOrder hrest run hr
        omega

theorem Run.apart_of_last_lt {run other : Run} (h : run.last < other.first) :
    run.apart other = true ∧ other.apart run = true := by
  simp [Run.apart, h]

theorem apart_of_apartFrom {runs others : List Run} {bound start : Nat}
    (hr : inOrder bound runs = true) (ho : inOrder start others = true)
    (h : apartFrom runs others = true) :
    ∀ run ∈ runs, ∀ other ∈ others, run.apart other = true := by
  induction runs generalizing others bound start with
  | nil => simp
  | cons run runs ih =>
    simp only [inOrder, Bool.and_eq_true, Nat.ble_eq] at hr
    obtain ⟨⟨-, hrun⟩, hrest⟩ := hr
    rw [apartFrom, Bool.and_eq_true, List.all_eq_true] at h
    obtain ⟨hnear, hlater⟩ := h
    obtain ⟨start', ho'⟩ :=
      exists_inOrder_dropWhile ho fun other => Nat.blt other.last run.first
    intro one hone other hother
    rw [← List.takeWhile_append_dropWhile
      (p := fun other : Run => Nat.blt other.last run.first) (l := others),
      List.mem_append] at hother
    rcases hother with hbefore | hother
    · -- the other ends before this run starts, and this run before the later ones do
      have hlast : other.last < run.first := by simpa using List.mem_takeWhile_imp hbefore
      refine (Run.apart_of_last_lt ?_).2
      rcases List.mem_cons.1 hone with rfl | hone
      · exact hlast
      · have hfirst := le_first_of_inOrder hrest one hone
        omega
    · rcases List.mem_cons.1 hone with rfl | hone
      · rw [← List.takeWhile_append_dropWhile
          (p := fun other : Run => Nat.ble other.first one.last)
          (l := others.dropWhile fun other => Nat.blt other.last one.first),
          List.mem_append] at hother
        rcases hother with htaken | hbeyond
        · exact hnear other htaken
        · exact (Run.apart_of_last_lt (lt_first_of_mem_dropWhile ho' hbeyond)).1
      · exact ih hrest ho' hlater one hone other hother

theorem uppercaseRuns_apart_lowercaseRuns :
    ∀ run ∈ uppercaseRuns, ∀ other ∈ lowercaseRuns, run.apart other = true := by
  have hupper : inOrder 0 uppercaseRuns = true := by decide +kernel
  have hlower : inOrder 0 lowercaseRuns = true := by decide +kernel
  exact apart_of_apartFrom hupper hlower (by decide +kernel)

theorem isLowercase_eq_false_of_isUppercase {c : Char} (h : isUppercase c = true) :
    isLowercase c = false := by
  by_cases hc : c.toNat < 0x80
  · rw [isUppercase_of_ascii hc] at h
    rw [isLowercase_of_ascii hc, Bool.eq_false_iff]
    intro hl
    have hle : c.val ≤ 'Z'.val := (of_decide_eq_true h).2
    have hge : 'a'.val ≤ c.val := of_decide_eq_true (Bool.and_eq_true_iff.1 hl).1
    exact absurd (UInt32.le_trans hge hle) (by decide)
  · simp only [isUppercase, if_neg hc, List.any_eq_true] at h
    obtain ⟨run, hrun, hholds⟩ := h
    simp only [isLowercase, if_neg hc, List.any_eq_false]
    intro other hother
    simp [Run.holds_eq_false_of_apart (uppercaseRuns_apart_lowercaseRuns run hrun other hother)
      hholds]

/-! ## The lower case of a character -/

theorem lower_ne_nil (c : Char) : lower c ≠ [] := by
  unfold lower mapped
  split_ifs
  · exact List.cons_ne_nil _ _
  · cases hl : lowerExpansions.lookup c.toNat with
    | some codes =>
      obtain ⟨front, back, hsplit, -⟩ := List.lookup_eq_some_iff.1 hl
      have hne : ∀ entry ∈ lowerExpansions, entry.2 ≠ [] := by decide
      simpa using hne (c.toNat, codes) (by simp [hsplit])
    | none =>
      simp only
      split <;> exact List.cons_ne_nil _ _

/-- Where the lower case of a character is more than one, the character does not end it. -/
theorem lower_ne_append_self {c : Char} {text : Text} (h : text ≠ []) : lower c ≠ text ++ [c] := by
  have hlength := List.length_pos_iff.2 h
  intro heq
  have hsize : 1 < (lower c).length := by
    rw [heq, List.length_append, List.length_singleton]
    omega
  unfold lower mapped at heq hsize
  split_ifs at heq hsize with hascii
  · simp at hsize
  · cases hl : lowerExpansions.lookup c.toNat with
    | some codes =>
      obtain ⟨front, back, hsplit, -⟩ := List.lookup_eq_some_iff.1 hl
      have hends : ∀ entry ∈ lowerExpansions, ∀ code ∈ entry.2.getLast?,
          (Char.ofNat code).toNat ≠ entry.1 := by decide
      have hmem : (c.toNat, codes) ∈ lowerExpansions := by simp [hsplit]
      simp only [hl] at heq
      have hlast := congrArg List.getLast? heq
      rw [List.getLast?_map, List.getLast?_concat, Option.map_eq_some_iff] at hlast
      obtain ⟨code, hcode, hc⟩ := hlast
      exact hends _ hmem code hcode (congrArg Char.toNat hc)
    | none =>
      simp only [hl] at hsize
      split at hsize <;> simp at hsize

end OutletWiring.Letter

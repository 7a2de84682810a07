import OutletWiring.Proofs.Lines.Insertion

/-!
# Lines with blocks between them

Weaving puts a block into each gap of a list of lines: gap `0` is in front of the first line, and
gap `g + 1` right after the line at index `g`. The lines all stay, in their order, so where they
stand can be told in terms of the lines before anything was put in.
-/

namespace OutletWiring.Lines

/-- The lines with a block in each gap. -/
def weave (blocks : Nat → Lines) : Lines → Lines
  | [] => blocks 0
  | line :: lines => blocks 0 ++ line :: weave (fun gap => blocks (gap + 1)) lines

/-- A block in one gap and nothing in the others. -/
def only (place : Nat) (block : Lines) (gap : Nat) : Lines :=
  if gap = place then block else []

variable {blocks : Nat → Lines}

theorem only_succ (place : Nat) (block : Lines) :
    (fun gap => only (place + 1) block (gap + 1)) = only place block := by
  funext gap
  simp [only]

theorem only_zero_succ (block : Lines) : (fun gap => only 0 block (gap + 1)) = fun _ => [] := by
  funext gap
  simp [only]

theorem weave_nil (lines : Lines) : weave (fun _ => []) lines = lines := by
  induction lines with
  | nil => rfl
  | cons line lines ih => simp [weave, ih]

theorem weave_append_cons (blocks : Nat → Lines) (front : Lines) (line : Text) (back : Lines) :
    weave blocks (front ++ line :: back) =
      weave blocks front ++ line :: weave (fun gap => blocks (gap + front.length + 1)) back := by
  induction front generalizing blocks with
  | nil => rfl
  | cons first front ih =>
    simp only [List.cons_append, weave, ih, List.append_assoc, List.length_cons]
    simp only [Nat.add_right_comm, Nat.add_assoc]

theorem sublist_weave (blocks : Nat → Lines) (lines : Lines) :
    lines.Sublist (weave blocks lines) := by
  induction lines generalizing blocks with
  | nil => exact List.nil_sublist _
  | cons line lines ih => exact ((ih _).cons_cons line).trans (List.sublist_append_right ..)

theorem weave_only {lines : Lines} {place : Nat} (h : place ≤ lines.length) (block : Lines) :
    weave (only place block) lines = lines.take place ++ block ++ lines.drop place := by
  induction lines generalizing place with
  | nil =>
    obtain rfl : place = 0 := by simpa using h
    simp [weave, only]
  | cons line lines ih =>
    cases place with
    | zero => simp [weave, weave_nil, only]
    | succ place =>
      have hle : place ≤ lines.length := by simpa using h
      simp only [weave, only_succ, ih hle]
      simp [only]

theorem insertBlock_eq_weave {lines : Lines} {index : Nat} (h : index ≤ lines.length)
    (block : Lines) :
    lines.insertBlock index block =
      weave (only index (block.map (withEnding lines.ending))) lines := by
  rw [weave_only h, insertBlock]

/-! ## Two blocks -/

/-- Two blocks in their gaps, the first before the second where the gap is the same. -/
def both (place : Nat) (block : Lines) (place' : Nat) (block' : Lines) (gap : Nat) : Lines :=
  only place block gap ++ only place' block' gap

theorem both_succ (place place' : Nat) (block block' : Lines) :
    (fun gap => both (place + 1) block (place' + 1) block' (gap + 1)) =
      both place block place' block' := by
  funext gap
  simp [both, only]

/-- A block put in up to where another was put in before. -/
theorem weave_both_of_le {lines block block' : Lines} {place place' : Nat} (h : place ≤ place')
    (h' : place' ≤ lines.length) :
    (weave (only place' block') lines).take place ++ block ++
        (weave (only place' block') lines).drop place =
      weave (both place block place' block') lines := by
  induction lines generalizing place place' with
  | nil =>
    obtain rfl : place' = 0 := by simpa using h'
    obtain rfl : place = 0 := by simpa using h
    simp [weave, both, only]
  | cons line lines ih =>
    cases place with
    | zero =>
      simp [weave, both, only]
    | succ place =>
      cases place' with
      | zero => omega
      | succ place' =>
        have hih := @ih place place' (by omega) (by simpa using h')
        simp only [weave, both_succ, only_succ]
        simpa [both, only] using hih

/-- A block put in after where another was put in before, which has moved its place on. -/
theorem weave_both_of_lt {lines block block' : Lines} {place place' : Nat} (h : place' < place)
    (hle : place ≤ lines.length) :
    (weave (only place' block') lines).take (place + block'.length) ++ block ++
        (weave (only place' block') lines).drop (place + block'.length) =
      weave (both place block place' block') lines := by
  induction lines generalizing place place' with
  | nil => simp at hle; omega
  | cons line lines ih =>
    cases place with
    | zero => omega
    | succ place =>
      cases place' with
      | zero =>
        have hrest : (fun gap => both (place + 1) block 0 block' (gap + 1)) = only place block := by
          funext gap
          simp [both, only]
        have hplace : place + 1 + block'.length = block'.length + (place + 1) := by omega
        simp only [weave, hrest, only_zero_succ, weave_nil, hplace]
        rw [weave_only (by simpa using hle), show only 0 block' 0 = block' from rfl,
          List.take_length_add_append, List.drop_length_add_append]
        simp [both, only]
      | succ place' =>
        have hih := @ih place place' (by omega) (by simpa using hle)
        have hplace : place + 1 + block'.length = place + block'.length + 1 := by omega
        simp only [weave, both_succ, only_succ, hplace]
        simpa [both, only] using hih

/-! ## The last line -/

theorem terminateLast_weave {lines : Lines} (h : blocks lines.length = []) (ending : Ending) :
    terminateLast ending (weave blocks lines) = weave blocks (terminateLast ending lines) := by
  induction lines using List.reverseRecOn with
  | nil =>
    have : blocks 0 = [] := h
    simp [weave, this]
  | append_singleton lines line =>
    rw [List.length_append, List.length_singleton] at h
    simp only [terminateLast_concat, weave_append_cons, weave, Nat.zero_add, h]

theorem terminateLast_append_of_terminated (ending : Ending) (front : Lines) {back : Lines}
    (hne : back ≠ []) (h : ∀ line ∈ back, terminated line = true) :
    terminateLast ending (front ++ back) = front ++ back := by
  refine terminateLast_eq_self fun line hline => h line ?_
  rw [List.getLast?_append_of_ne_nil _ hne] at hline
  exact List.mem_of_getLast? hline

theorem weave_eq_append (blocks : Nat → Lines) (lines : Lines) :
    ∃ front, weave blocks lines = front ++ blocks lines.length := by
  induction lines using List.reverseRecOn with
  | nil => exact ⟨[], rfl⟩
  | append_singleton lines line =>
    refine ⟨weave blocks lines ++ [line], ?_⟩
    simp [weave_append_cons, weave]

/-! ## Additions to a file -/

/-- What is added to a file: blocks in the gaps between its lines, and lines at its end. All that is
added is terminated. -/
structure Additions where
  gaps : Nat → Lines
  tail : Lines
  /-- The terminator that the last line gets if it has none and the tail follows it. -/
  ending : Ending
  gaps_terminated : ∀ gap, ∀ line ∈ gaps gap, terminated line = true
  tail_terminated : ∀ line ∈ tail, terminated line = true

namespace Additions

/-- The tail comes right after the last line, which is terminated for it. -/
def closes (additions : Additions) (lines : Lines) : Bool :=
  !additions.tail.isEmpty && (additions.gaps lines.length).isEmpty

/-- The lines as they stand among the additions. -/
def base (additions : Additions) (lines : Lines) : Lines :=
  if additions.closes lines then terminateLast additions.ending lines else lines

def apply (additions : Additions) (lines : Lines) : Lines :=
  weave additions.gaps (additions.base lines) ++ additions.tail

theorem base_sublist_apply (additions : Additions) (lines : Lines) :
    (additions.base lines).Sublist (additions.apply lines) :=
  (sublist_weave _ _).trans (List.sublist_append_left ..)

def between (gaps : Nat → Lines) (h : ∀ gap, ∀ line ∈ gaps gap, terminated line = true) :
    Additions where
  gaps := gaps
  tail := []
  ending := .newline
  gaps_terminated := h
  tail_terminated := by simp

theorem apply_between (gaps : Nat → Lines) (h : ∀ gap, ∀ line ∈ gaps gap, terminated line = true)
    (lines : Lines) : (between gaps h).apply lines = weave gaps lines := by
  simp [apply, base, closes, between]

theorem terminated_map_withEnding {block : Lines} (h : ∀ line ∈ block, terminated line = true)
    (ending : Ending) : ∀ line ∈ block.map (withEnding ending), terminated line = true := by
  simpa using h

/-- One more block at the end of a file that has the additions already. -/
def append (additions : Additions) (lines block : Lines)
    (h : ∀ line ∈ block, terminated line = true) : Additions where
  gaps := additions.gaps
  tail := additions.tail ++
    block.map (withEnding (terminateLast (additions.apply lines).ending (additions.apply lines)).ending)
  ending := if additions.tail.isEmpty then (additions.apply lines).ending else additions.ending
  gaps_terminated := additions.gaps_terminated
  tail_terminated line hline := (List.mem_append.1 hline).elim (additions.tail_terminated line)
    (terminated_map_withEnding h _ line)

section Append

variable (additions : Additions) (lines : Lines) {block : Lines} (hne : block ≠ [])
  (h : ∀ line ∈ block, terminated line = true)
include hne

theorem base_append (ht : additions.tail ≠ []) :
    (additions.append lines block h).base lines = additions.base lines := by
  have hcloses : (additions.append lines block h).closes lines = additions.closes lines := by
    simp [closes, append, hne, List.isEmpty_eq_false_iff.2 ht]
  have hending : (additions.append lines block h).ending = additions.ending := by
    simp [append, ht]
  rw [base, base, hcloses, hending]

theorem base_append_of_tail_nil (ht : additions.tail = []) :
    (additions.append lines block h).base lines =
      if (additions.gaps lines.length).isEmpty then
        terminateLast (additions.apply lines).ending lines
      else lines := by
  have hcloses : (additions.append lines block h).closes lines =
      (additions.gaps lines.length).isEmpty := by
    simp [closes, append, hne]
  have hending : (additions.append lines block h).ending = (additions.apply lines).ending := by
    simp [append, ht]
  rw [base, hcloses, hending]

/-- Terminating the last line for one more block. -/
theorem terminateLast_apply :
    terminateLast (additions.apply lines).ending (additions.apply lines) =
      weave additions.gaps ((additions.append lines block h).base lines) ++ additions.tail := by
  by_cases ht : additions.tail = []
  · have happly : additions.apply lines = weave additions.gaps lines := by
      simp [apply, base, closes, ht]
    rw [base_append_of_tail_nil additions lines hne h ht, ht, List.append_nil]
    by_cases hgap : additions.gaps lines.length = []
    · rw [hgap, List.isEmpty_nil, if_pos rfl, happly]
      exact terminateLast_weave hgap _
    · obtain ⟨front, hfront⟩ := weave_eq_append additions.gaps lines
      rw [if_neg (by simp [hgap]), happly, hfront]
      exact terminateLast_append_of_terminated _ front hgap (additions.gaps_terminated _)
  · rw [base_append additions lines hne h ht]
    exact terminateLast_append_of_terminated _ _ ht additions.tail_terminated

/-- A block after additions is an addition. -/
theorem appendBlock_apply :
    (additions.apply lines).appendBlock block = (additions.append lines block h).apply lines := by
  rw [appendBlock_eq]
  have happly : (additions.append lines block h).apply lines =
      weave additions.gaps ((additions.append lines block h).base lines) ++ additions.tail ++
        block.map (withEnding
          (terminateLast (additions.apply lines).ending (additions.apply lines)).ending) :=
    (List.append_assoc ..).symm
  rw [happly, ← terminateLast_apply additions lines hne h]

end Append

end Additions

end OutletWiring.Lines

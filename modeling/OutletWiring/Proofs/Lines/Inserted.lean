import OutletWiring.Lines.Edit
import OutletWiring.Proofs.Conformance

/-!
# One line more

Lines with one line put in, compared with the lines without it. A search that passes the line over
finds what it found, moved by one place from there on. Blocks that are put in or added come to the
same whether the line is there or not, if both files have the same terminator to write them in.
-/

namespace OutletWiring.Lines

open Conformance (moved)

def inserted (lines : Lines) (index : Nat) (line : Text) : Lines :=
  lines.take index ++ line :: lines.drop index

variable {lines block back : Lines} {line : Text} {index place cursor : Nat} {q : Text → Bool}

theorem insert?_eq_some_iff {others : Lines} :
    lines.insert? index line = some others ↔
      index ≤ lines.length ∧ others = lines.inserted index line := by
  unfold insert?
  split_ifs with h
  · simp [h, inserted, eq_comm]
  · simp [h]

@[simp] theorem length_inserted : (lines.inserted index line).length = lines.length + 1 := by
  simp [inserted]
  omega

/-- Taking the line out again leaves the lines. -/
theorem remove?_inserted (hi : index ≤ lines.length) :
    (lines.inserted index line).remove? index = some (line, lines) := by
  have hlen : (lines.take index).length = index := List.length_take_of_le hi
  have hline : (lines.inserted index line)[index]? = some line := by
    rw [inserted, List.getElem?_append_right (by omega), hlen, Nat.sub_self]
    rfl
  have hfront : (lines.inserted index line).take index = lines.take index := by
    rw [inserted, List.take_append_of_le_length (by omega), List.take_take, Nat.min_self]
  have hback : (lines.inserted index line).drop (index + 1) = lines.drop index := by
    rw [inserted, List.drop_append, hlen, List.drop_eq_nil_of_le (by omega), List.nil_append,
      Nat.add_sub_cancel_left]
    rfl
  rw [remove?, hline, Option.map_some, hfront, hback, List.take_append_drop]

theorem inserted_inj {others : Lines} (hi : index ≤ lines.length) (ho : index ≤ others.length) :
    lines.inserted index line = others.inserted index line ↔ lines = others := by
  constructor
  · intro h
    have hremoved : (lines.inserted index line).remove? index = some (line, lines) :=
      remove?_inserted hi
    rw [h, remove?_inserted ho] at hremoved
    simpa using hremoved.symm
  · rintro rfl
    rfl

theorem mem_inserted {other : Text} : other ∈ lines.inserted index line ↔
    other = line ∨ other ∈ lines := by
  nth_rewrite 2 [← List.take_append_drop index lines]
  simp only [inserted, List.mem_append, List.mem_cons]
  tauto

/-! ## Searching -/

theorem moved_lt_moved {other : Nat} : moved index place < moved index other ↔ place < other := by
  unfold moved
  split_ifs <;> omega

theorem findIdx?_inserted (hi : index ≤ lines.length) (hq : q line = false) :
    (lines.inserted index line).findIdx? q = (lines.findIdx? q).map (moved index) := by
  refine (Conformance.findIdx?_insert hi q).resolve_right ?_
  rintro ⟨hline, -⟩
  rw [hq] at hline
  cases hline

theorem getElem?_inserted (hi : index ≤ lines.length) :
    (lines.inserted index line)[moved index place]? = lines[place]? :=
  Conformance.getElem?_moved hi

/-- What is found above a place moves with both. -/
theorem findIdx?_take_inserted (hi : index ≤ lines.length) (hq : q line = false) :
    ((lines.inserted index line).take (moved index place)).findIdx? q =
      ((lines.take place).findIdx? q).map (moved index) := by
  rw [List.findIdx?_take, List.findIdx?_take, findIdx?_inserted hi hq]
  cases lines.findIdx? q with
  | none => rfl
  | some found =>
    simp only [Option.map_some, Option.bind_some, Option.guard, moved_lt_moved]
    split_ifs <;> rfl

theorem any_inserted (hq : q line = false) : (lines.inserted index line).any q = lines.any q := by
  nth_rewrite 2 [← List.take_append_drop index lines]
  rw [inserted, List.any_append, List.any_cons, hq, Bool.false_or, List.any_append]

theorem typealiasTarget?_inserted (h : Line.typealiasTarget? line = none) :
    (lines.inserted index line).typealiasTarget? = lines.typealiasTarget? := by
  unfold typealiasTarget?
  nth_rewrite 2 [← List.take_append_drop index lines]
  rw [inserted, List.findSome?_append, List.findSome?_cons, h, List.findSome?_append]

theorem outlets_inserted (h : outlets [line] = []) :
    (lines.inserted index line).outlets = lines.outlets := by
  nth_rewrite 2 [← List.take_append_drop index lines]
  rw [inserted, outlets_append, outlets_cons, h, List.nil_append, outlets_append]

/-! ## Putting blocks in -/

theorem inserted_append (hi : index ≤ lines.length) :
    lines.inserted index line ++ back = (lines ++ back).inserted index line := by
  rw [inserted, inserted, List.take_append_of_le_length hi, List.drop_append_of_le_length hi]
  simp

/-- The lines cut at two places. -/
theorem exists_cut (hc : cursor ≤ lines.length) (h : index ≤ cursor) :
    ∃ front middle back, lines = front ++ (middle ++ back) ∧ front.length = index ∧
      front.length + middle.length = cursor := by
  refine ⟨lines.take index, (lines.drop index).take (cursor - index), lines.drop cursor, ?_, ?_, ?_⟩
  · have hback : lines.drop cursor = (lines.drop index).drop (cursor - index) := by
      rw [List.drop_drop, Nat.add_sub_cancel' h]
    rw [hback, List.take_append_drop, List.take_append_drop]
  · exact List.length_take_of_le (by omega)
  · rw [List.length_take_of_le (by omega), List.length_take_of_le (by rw [List.length_drop]; omega)]
    omega

/-- A block that goes in behind the line. -/
theorem insertBlock_inserted_of_le (hc : cursor ≤ lines.length) (h : index ≤ cursor)
    (he : (lines.inserted index line).ending = lines.ending) :
    (lines.inserted index line).insertBlock (cursor + 1) block =
      (lines.insertBlock cursor block).inserted index line := by
  unfold insertBlock
  rw [he]
  generalize block.map (withEnding lines.ending) = written
  obtain ⟨front, middle, back, rfl, rfl, rfl⟩ := exists_cut hc h
  simp (disch := omega) [inserted, List.take_append, List.drop_append, List.take_of_length_le,
    List.drop_eq_nil_of_le, Nat.add_assoc]

/-- A block that goes in before the line. -/
theorem insertBlock_inserted_of_ge (hi : index ≤ lines.length) (h : cursor ≤ index)
    (he : (lines.inserted index line).ending = lines.ending) :
    (lines.inserted index line).insertBlock cursor block =
      (lines.insertBlock cursor block).inserted (index + block.length) line := by
  unfold insertBlock
  rw [he, ← List.length_map (withEnding lines.ending)]
  generalize block.map (withEnding lines.ending) = written
  obtain ⟨front, middle, back, rfl, rfl, rfl⟩ := exists_cut hi h
  simp (disch := omega) [inserted, List.take_append, List.drop_append, List.take_of_length_le,
    List.drop_eq_nil_of_le, Nat.add_assoc]

/-- Where a line put in at `index` comes to stand when `count` lines go in next to the line at
`place`: it is moved if it stands behind that line. -/
def pushed (place count index : Nat) : Nat :=
  if index ≤ place then index else index + count

/-- A block that goes in before the line at a place. -/
theorem insertBlock_moved (hi : index ≤ lines.length) (hp : place ≤ lines.length)
    (he : (lines.inserted index line).ending = lines.ending) :
    (lines.inserted index line).insertBlock (moved index place) block =
      (lines.insertBlock place block).inserted (pushed place block.length index) line := by
  unfold moved pushed
  split_ifs with hlt hle hle
  · omega
  · exact insertBlock_inserted_of_ge hi (by omega) he
  · exact insertBlock_inserted_of_le hp hle he
  · omega

/-- A block that goes in behind the line at a place. -/
theorem insertBlock_moved_succ (hi : index ≤ lines.length) (hp : place < lines.length)
    (he : (lines.inserted index line).ending = lines.ending) :
    (lines.inserted index line).insertBlock (moved index place + 1) block =
      (lines.insertBlock (place + 1) block).inserted (pushed place block.length index) line := by
  unfold moved pushed
  split_ifs with hlt hle hle
  · omega
  · exact insertBlock_inserted_of_ge hi hlt he
  · exact insertBlock_inserted_of_le hp (by omega) he
  · omega

theorem terminateLast_inserted (hi : index < lines.length) (ending : Ending) :
    terminateLast ending (lines.inserted index line) =
      (terminateLast ending lines).inserted index line := by
  have hdrop : lines.drop index ≠ [] := by simpa using hi
  have hsplit : terminateLast ending lines =
      lines.take index ++ terminateLast ending (lines.drop index) := by
    rw [← terminateLast_append ending _ hdrop, List.take_append_drop]
  have hlen : (lines.take index).length = index := List.length_take_of_le (by omega)
  rw [hsplit, inserted, terminateLast_append _ _ (List.cons_ne_nil _ _), ← List.singleton_append,
    terminateLast_append _ _ hdrop, inserted, List.take_left' hlen, List.drop_left' hlen]
  rfl

/-- Between the lines before and after, a place moves down by no more than lines are added. -/
structure Drifts (index landing : Nat) (before after : Lines) : Prop where
  le : index ≤ landing
  bound : landing + before.length ≤ index + after.length

namespace Drifts

variable {before after later : Lines} {landing final : Nat}

protected theorem refl (index : Nat) (lines : Lines) : Drifts index index lines lines :=
  ⟨Nat.le_refl _, Nat.le_refl _⟩

theorem trans (h : Drifts index landing before after) (h' : Drifts landing final after later) :
    Drifts index final before later := by
  obtain ⟨hle, hbound⟩ := h
  obtain ⟨hle', hbound'⟩ := h'
  exact ⟨by omega, by omega⟩

theorem of_length_le (h : before.length ≤ after.length) : Drifts index index before after :=
  ⟨Nat.le_refl _, Nat.add_le_add_left h index⟩

theorem appendBlock (block : Lines) : Drifts index index before (before.appendBlock block) :=
  of_length_le (by simp [appendBlock_eq])

theorem pushed (place : Nat) (block : Lines) (cursor : Nat) :
    Drifts index (pushed place block.length index) before (before.insertBlock cursor block) := by
  constructor
  · unfold Lines.pushed
    split_ifs <;> omega
  · rw [length_insertBlock]
    unfold Lines.pushed
    split_ifs <;> omega

theorem lt_length (h : Drifts index landing before after) (hi : index < before.length) :
    landing < after.length := by
  obtain ⟨hle, hbound⟩ := h
  omega

/-- Both files are changed or neither is. -/
theorem inserted_eq_iff (h : Drifts index landing before after) (hi : index ≤ before.length) :
    after.inserted landing line = before.inserted index line ↔ after = before := by
  obtain ⟨hle, hbound⟩ := h
  constructor
  · intro heq
    have hlength := congrArg List.length heq
    rw [length_inserted, length_inserted] at hlength
    obtain rfl : landing = index := by omega
    exact (inserted_inj (by omega) hi).1 heq
  · rintro rfl
    obtain rfl : landing = index := by omega
    rfl

end Drifts

/-! ## The terminator of the file -/

/-- Some line is terminated, and the first that is has the given terminator. -/
def Led (mark : Ending) (lines : Lines) : Prop :=
  (∃ line ∈ lines, terminated line = true) ∧ lines.ending = mark

variable {mark : Ending}

def EndsIn (mark : Ending) (line : Text) : Prop :=
  terminated line = true ∧ endingOf line = mark

theorem endsIn_withEnding (h : Plain line) (mark : Ending) : EndsIn mark (withEnding mark line) :=
  ⟨by rw [terminated_withEnding]; exact h.terminated, endingOf_withEnding h mark⟩

theorem endsIn_append {text : Text} (h : text.getLast? ≠ some '\r') (mark : Ending) :
    EndsIn mark (text ++ mark.text) := by
  rw [← withEnding_append_newline text mark h]
  exact endsIn_withEnding ⟨text, rfl, h⟩ mark

theorem led_iff : Led mark lines ↔
    ∃ line, lines.find? terminated = some line ∧ endingOf line = mark := by
  unfold Led
  rw [ending_eq]
  cases hf : lines.find? terminated with
  | none =>
    have hnone : ∀ line ∈ lines, terminated line = false := by simpa using hf
    simp +contextual [hnone]
  | some line =>
    have hline : ∃ other ∈ lines, terminated other = true :=
      ⟨line, List.mem_of_find?_eq_some hf, List.find?_some hf⟩
    simp [hline]

/-- Lines lead a file in which they come first. -/
theorem Led.append (h : Led mark lines) (back : Lines) : Led mark (lines ++ back) := by
  obtain ⟨line, hline, hmark⟩ := led_iff.1 h
  exact led_iff.2 ⟨line, by simp [List.find?_append, hline], hmark⟩

/-- The lines in front lead already if one of them is terminated. -/
theorem Led.front {front back : Lines} (h : Led mark (front ++ back)) {first : Text}
    (hf : front.find? terminated = some first) : Led mark front := by
  obtain ⟨other, hother, hmark⟩ := led_iff.1 h
  rw [List.find?_append, hf] at hother
  cases hother
  exact led_iff.2 ⟨first, hf, hmark⟩

theorem Led.take (h : Led mark lines) {first : Text}
    (hf : (lines.take index).find? terminated = some first) : Led mark (lines.take index) := by
  rw [← List.take_append_drop index lines] at h
  exact h.front hf

theorem Led.inserted (h : Led mark lines) (hl : EndsIn mark line) :
    Led mark (lines.inserted index line) := by
  unfold Lines.inserted
  cases hf : (lines.take index).find? terminated with
  | none => exact led_iff.2 ⟨line, by simp [List.find?_append, hf, hl.1], hl.2⟩
  | some first => exact (h.take hf).append _

theorem Led.ending_inserted (h : Led mark lines) (hl : EndsIn mark line) (index : Nat) :
    (lines.inserted index line).ending = lines.ending :=
  (h.inserted hl).2.trans h.2.symm

theorem Led.terminateLast (h : Led mark lines) (ending : Ending) :
    Led mark (terminateLast ending lines) := by
  obtain ⟨init, last, rfl⟩ := (List.eq_nil_or_concat' lines).resolve_left (by
    rintro rfl
    simp [Led] at h)
  rw [terminateLast_concat]
  cases hf : init.find? terminated with
  | some first => exact (h.front hf).append _
  | none =>
    -- the last line decides, so it is terminated already
    obtain ⟨other, hother, hmark⟩ := led_iff.1 h
    rw [List.find?_append, hf, Option.none_or, List.find?_singleton] at hother
    split_ifs at hother with hlast
    rwa [closed_of_terminated hlast]

theorem Led.appendBlock (h : Led mark lines) (block : Lines) :
    Led mark (lines.appendBlock block) := by
  rw [appendBlock_eq]
  exact (h.terminateLast _).append _

theorem Led.insertBlock_plain (h : Led mark lines) (hb : ∀ line ∈ block.head?, Plain line) :
    Led mark (lines.insertBlock cursor block) := by
  obtain ⟨⟨line, hline, ht⟩, hmark⟩ := h
  exact ⟨⟨line, mem_insertBlock.2 (.inl hline), ht⟩,
    (ending_insertBlock lines cursor hb).trans hmark⟩

/-- A block does not lead if it goes in below a terminated line. -/
theorem Led.insertBlock_below (h : Led mark lines) (hline : lines[place]? = some line)
    (ht : terminated line = true) (hp : place < cursor) :
    Led mark (lines.insertBlock cursor block) := by
  have htake : line ∈ lines.take cursor :=
    List.mem_of_getElem? ((List.getElem?_take_of_lt hp).trans hline)
  rw [insertBlock, List.append_assoc]
  cases hf : (lines.take cursor).find? terminated with
  | none => exact absurd ht (by simpa using List.find?_eq_none.1 hf line htake)
  | some first => exact (h.take hf).append _

/-- What the lines have to keep for written blocks to end alike: no two terminated lines end
differently, an enum is declared on a terminated line, and where there is an outlet some line is
terminated. -/
structure Settled (mark : Ending) (lines : Lines) : Prop where
  agree : ∀ line ∈ lines, terminated line = true → endingOf line = mark
  enum : ∀ name, ∀ line ∈ lines, Line.declaresEnum name line = true → terminated line = true
  outlets : lines.outlets ≠ [] → ∃ line ∈ lines, terminated line = true

theorem Settled.inserted (h : Settled mark lines) (hl : EndsIn mark line) :
    Settled mark (lines.inserted index line) where
  agree other hother ht := by
    rcases mem_inserted.1 hother with rfl | hother
    · exact hl.2
    · exact h.agree other hother ht
  enum name other hother hd := by
    rcases mem_inserted.1 hother with rfl | hother
    · exact hl.1
    · exact h.enum name other hother hd
  outlets _ := ⟨line, mem_inserted.2 (.inl rfl), hl.1⟩

theorem Settled.led (h : Settled mark lines) (ho : lines.outlets ≠ []) : Led mark lines := by
  obtain ⟨line, hline, ht⟩ := h.outlets ho
  cases hf : lines.find? terminated with
  | none => exact absurd ht (by simpa using List.find?_eq_none.1 hf line hline)
  | some first =>
    exact led_iff.2 ⟨first, hf, h.agree first (List.mem_of_find?_eq_some hf) (List.find?_some hf)⟩

/-- A block that is added at the end. -/
theorem appendBlock_inserted (hi : index < lines.length) (h : Led mark lines)
    (hl : EndsIn mark line) (block : Lines) :
    (lines.inserted index line).appendBlock block =
      (lines.appendBlock block).inserted index line := by
  have ho : Led mark (lines.inserted index line) := h.inserted hl
  have hle : index ≤ (Lines.terminateLast mark lines).length := by
    rw [length_terminateLast]
    omega
  rw [appendBlock_eq, appendBlock_eq, ho.2, h.2, (ho.terminateLast mark).2,
    (h.terminateLast mark).2, terminateLast_inserted hi, inserted_append hle]

end OutletWiring.Lines

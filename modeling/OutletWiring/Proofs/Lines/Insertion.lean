import OutletWiring.Draft
import OutletWiring.Lines.Edit
import OutletWiring.Proofs.Lines.Ending

/-!
# Putting lines in between others

A block is put in with the terminator of the file, which it does not change: the file has the same
terminator afterwards, so that blocks put in one after the other are one block. What is put in at
several places at once is described by `weave`, which keeps every line in its order.
-/

namespace OutletWiring.Lines

/-- The line ends in a newline that no return precedes. -/
def Plain (line : Text) : Prop :=
  ∃ text, line = text ++ ['\n'] ∧ text.getLast? ≠ some '\r'

theorem plain_row {level : Nat} {text : Text} (h : text.getLast? ≠ some '\r') :
    Plain (Draft.row level text) := by
  refine ⟨List.replicate level '\t' ++ text, rfl, ?_⟩
  rw [List.getLast?_append]
  cases ht : text.getLast? with
  | none =>
    intro hr
    have hm := List.mem_of_getLast? (by simpa using hr)
    simp [List.mem_replicate] at hm
  | some c =>
    rw [ht] at h
    simpa using h

theorem Plain.terminated {line : Text} (h : Plain line) : terminated line = true := by
  obtain ⟨text, rfl, -⟩ := h
  exact terminated_append_newline text

/-- Everything that is laid out is terminated. -/
theorem terminated_compose (steps : List Draft.Step) :
    ∀ line ∈ Draft.compose steps, Lines.terminated line = true := by
  have hnewline : ∀ draft : Draft, (∀ line ∈ draft.finished, Lines.terminated line = true) →
      ∀ line ∈ draft.newline.finished, Lines.terminated line = true := by
    intro draft h line hline
    rcases List.mem_append.1 hline with hline | hline
    · exact h line hline
    · rw [List.mem_singleton] at hline
      exact hline ▸ terminated_append_newline _
  have hlines : ∀ (level : Nat) (texts : List Text) (draft : Draft),
      (∀ line ∈ draft.finished, Lines.terminated line = true) →
      ∀ line ∈ (draft.lines level texts).finished, Lines.terminated line = true := by
    intro level texts
    induction texts with
    | nil => exact fun draft h => h
    | cons text texts ih => exact fun draft h => ih _ (hnewline _ h)
  have hall : ∀ draft : Draft, (∀ line ∈ draft.finished, Lines.terminated line = true) →
      ∀ line ∈ (draft.runAll steps).finished, Lines.terminated line = true := by
    induction steps with
    | nil => exact fun draft h => h
    | cons step steps ih =>
      refine fun draft h => ih _ ?_
      cases step with
      | push text => exact h
      | newline => exact hnewline _ h
      | indent level => exact h
      | line level text => exact hnewline _ h
      | blank => exact hnewline _ h
      | list level opening entries continuation closing => exact hlines _ _ _ h
  unfold Draft.compose Draft.finish
  split_ifs
  · exact hall _ (by simp)
  · exact hnewline _ (hall _ (by simp))

def endingOf (line : Text) : Ending :=
  if Ending.returnNewline.text.isSuffixOf line then .returnNewline else .newline

theorem ending_eq (lines : Lines) :
    lines.ending = ((lines.find? terminated).map endingOf).getD .newline := by
  unfold ending endingOf
  cases lines.find? terminated <;> simp

theorem endingOf_withEnding {line : Text} (h : Plain line) (ending : Ending) :
    endingOf (withEnding ending line) = ending := by
  obtain ⟨text, rfl, hr⟩ := h
  rw [withEnding_append_newline text ending hr]
  cases ending with
  | returnNewline =>
    have : Ending.returnNewline.text.isSuffixOf (text ++ Ending.returnNewline.text) = true := by
      simp
    simp [endingOf, this]
  | newline =>
    have : ¬ Ending.returnNewline.text <:+ text ++ ['\n'] := by
      rintro ⟨front, hf⟩
      have hf' : (front ++ ['\r']) ++ ['\n'] = text ++ ['\n'] := by simpa [Ending.text] using hf
      rw [List.append_cancel_right_eq] at hf'
      exact hr (by simp [← hf'])
    unfold endingOf
    exact if_neg (by rwa [List.isSuffixOf_iff_suffix])

theorem ending_append_of_find {front : Lines} {line : Text} (h : front.find? terminated = some line)
    (back : Lines) : ending (front ++ back) = endingOf line := by
  simp [ending_eq, List.find?_append, h]

/-- A block in the terminator of the file leaves the file with that terminator. Only the first line
of the block can become the one that decides. -/
theorem ending_insertBlock (lines : Lines) (index : Nat) {block : Lines}
    (h : ∀ line ∈ block.head?, Plain line) : (lines.insertBlock index block).ending = lines.ending := by
  have hsplit : lines.ending = ending (lines.take index ++ lines.drop index) := by
    rw [List.take_append_drop]
  cases hf : (lines.take index).find? terminated with
  | some line =>
    rw [insertBlock, List.append_assoc, ending_append_of_find hf, hsplit, ending_append_of_find hf]
  | none =>
    cases block with
    | nil => simp [insertBlock]
    | cons first rest =>
      have hfirst : Plain first := h first (by simp)
      have hterm : terminated (withEnding lines.ending first) = true := by
        rw [terminated_withEnding]
        exact hfirst.terminated
      rw [ending_eq]
      simp [insertBlock, List.find?_append, hf, hterm, endingOf_withEnding hfirst]

theorem insertBlock_nil (lines : Lines) (index : Nat) : lines.insertBlock index [] = lines := by
  simp [insertBlock]

theorem length_insertBlock (lines block : Lines) (index : Nat) :
    (lines.insertBlock index block).length = lines.length + block.length := by
  simp [insertBlock]
  omega

theorem getElem?_insertBlock_of_lt {lines block : Lines} {index place : Nat}
    (hi : index ≤ lines.length) (h : place < index) :
    (lines.insertBlock index block)[place]? = lines[place]? := by
  have hlen : place < (lines.take index).length := by simp; omega
  rw [insertBlock, List.append_assoc, List.getElem?_append_left hlen, List.getElem?_take_of_lt h]

theorem getElem?_insertBlock_of_le {lines block : Lines} {index place : Nat}
    (hi : index ≤ lines.length) (h : index ≤ place) :
    (lines.insertBlock index block)[place + block.length]? = lines[place]? := by
  have hlen : (lines.take index ++ block.map (withEnding lines.ending)).length =
      index + block.length := by simp [hi]
  rw [insertBlock, List.getElem?_append_right (by omega), hlen, List.getElem?_drop]
  congr 1
  omega

theorem getElem?_insertBlock_self {lines rest : Lines} {first : Text} {index : Nat}
    (hi : index ≤ lines.length) :
    (lines.insertBlock index (first :: rest))[index]? = some (withEnding lines.ending first) := by
  have hlen : (lines.take index).length = index := by simp [hi]
  rw [insertBlock, List.append_assoc, List.getElem?_append_right (by omega), hlen]
  simp

/-- A block after a block at the same place is the two blocks at that place. -/
theorem insertBlock_insertBlock {lines block next : Lines} {index : Nat} (hi : index ≤ lines.length)
    (h : ∀ line ∈ block.head?, Plain line) :
    (lines.insertBlock index block).insertBlock (index + block.length) next =
      lines.insertBlock index (block ++ next) := by
  have hlen : (lines.take index ++ block.map (withEnding lines.ending)).length =
      index + block.length := by simp [hi]
  conv_lhs => rw [insertBlock, ending_insertBlock lines index h]
  conv_lhs => rw [insertBlock, ← hlen, List.take_left, List.drop_left]
  simp [insertBlock]

theorem perm_insertBlock (lines block : Lines) (index : Nat) :
    (lines.insertBlock index block).Perm (lines ++ block.map (withEnding lines.ending)) := by
  have h : ((block.map (withEnding lines.ending)) ++ lines.drop index).Perm
      (lines.drop index ++ block.map (withEnding lines.ending)) := List.perm_append_comm
  rw [insertBlock, List.append_assoc]
  refine (h.append_left _).trans ?_
  rw [← List.append_assoc, List.take_append_drop]

theorem mem_insertBlock {lines block : Lines} {index : Nat} {line : Text} :
    line ∈ lines.insertBlock index block ↔
      line ∈ lines ∨ ∃ raw ∈ block, withEnding lines.ending raw = line := by
  rw [(perm_insertBlock lines block index).mem_iff]
  simp

theorem perm_of_insert? {lines after : Lines} {index : Nat} {line : Text}
    (h : lines.insert? index line = some after) : after.Perm (line :: lines) := by
  unfold insert? at h
  split_ifs at h
  rw [Option.some.injEq] at h
  rw [← h]
  refine List.perm_middle.trans ?_
  rw [List.take_append_drop]

theorem perm_of_remove? {lines after : Lines} {index : Nat} {line : Text}
    (h : lines.remove? index = some (line, after)) : lines.Perm (line :: after) := by
  simp only [remove?, Option.map_eq_some_iff, Prod.mk.injEq] at h
  obtain ⟨_, hget, rfl, rfl⟩ := h
  obtain ⟨hi, rfl⟩ := List.getElem?_eq_some_iff.1 hget
  conv_lhs => rw [← List.take_append_drop index lines, ← List.getElem_cons_drop hi]
  exact List.perm_middle

/-! ## Files with one terminator -/

def Uniform (ending : Ending) (lines : Lines) : Prop :=
  ∀ line ∈ lines, terminated line = true ∧ endingOf line = ending

instance (ending : Ending) (lines : Lines) : Decidable (Uniform ending lines) :=
  inferInstanceAs (Decidable (∀ line ∈ lines, _))

namespace Uniform

variable {mark : Ending} {lines : Lines}

theorem ending_eq (h : Uniform mark lines) (hne : lines ≠ []) : lines.ending = mark := by
  obtain ⟨first, rest, rfl⟩ := List.exists_cons_of_ne_nil hne
  obtain ⟨hterm, hend⟩ := h first (by simp)
  simp [Lines.ending_eq, hterm, hend]

theorem of_perm {others : Lines} (h : Uniform mark lines) (hp : others.Perm lines) :
    Uniform mark others :=
  fun line hline => h line (hp.subset hline)

theorem append {others : Lines} (h : Uniform mark lines) (ho : Uniform mark others) :
    Uniform mark (lines ++ others) := fun line hline =>
  (List.mem_append.1 hline).elim (h line) (ho line)

theorem map_withEnding {block : Lines} (h : ∀ line ∈ block, Plain line) :
    Uniform mark (block.map (withEnding mark)) := by
  intro line hline
  obtain ⟨raw, hraw, rfl⟩ := List.mem_map.1 hline
  exact ⟨by rw [terminated_withEnding]; exact (h raw hraw).terminated,
    endingOf_withEnding (h raw hraw) mark⟩

theorem appendBlock_eq (h : Uniform mark lines) (hne : lines ≠ []) (block : Lines) :
    lines.appendBlock block = lines ++ block.map (withEnding mark) := by
  have hlast : terminateLast lines.ending lines = lines :=
    terminateLast_eq_self fun line hline => (h line (List.mem_of_getLast? hline)).1
  rw [Lines.appendBlock_eq, hlast, h.ending_eq hne]

end Uniform

/-! ## How many lines have a property -/

section Count

variable {p : Text → Bool} (h : IgnoresEnding p)
include h

theorem countP_insertBlock (lines block : Lines) (index : Nat) :
    (lines.insertBlock index block).countP p = lines.countP p + block.countP p := by
  rw [(perm_insertBlock lines block index).countP_eq, List.countP_append, List.countP_map]
  congr 2
  funext line
  exact h.on_withEnding _ line

theorem countP_terminateLast (lines : Lines) (ending : Ending) :
    (terminateLast ending lines).countP p = lines.countP p := by
  induction lines using List.reverseRecOn with
  | nil => rfl
  | append_singleton lines line =>
    rw [terminateLast_concat, List.countP_append, List.countP_append, List.countP_singleton,
      List.countP_singleton, h.on_closed]

theorem countP_appendBlock (lines block : Lines) :
    (lines.appendBlock block).countP p = lines.countP p + block.countP p := by
  simp only [appendBlock, appendBlockM, run_insertBlockM]
  rw [countP_insertBlock h, countP_terminateLast h]

end Count

end OutletWiring.Lines

import OutletWiring.Proofs.Conformance.Declaration
import OutletWiring.Proofs.Lines.Inserted

/-!
# How declarations end

The words of a declaration are put together again with the capability among them. The terminator
stands in the last word, and from three words on that word stays the last. Of two words the second
gets a colon, which comes behind the terminator. So a file in one terminator keeps it, but for at
most one line that is no longer terminated (`Conformed.settled`).
-/

namespace OutletWiring

namespace Lines

variable {mark : Ending} {line : Text}

theorem endsIn_iff : EndsIn mark line ↔
    ∃ text, line = text ++ mark.text ∧ (mark = .newline → text.getLast? ≠ some '\r') := by
  constructor
  · rintro ⟨ht, rfl⟩
    unfold endingOf
    split_ifs with hsuffix
    · obtain ⟨text, rfl⟩ := List.isSuffixOf_iff_suffix.1 hsuffix
      refine ⟨text, rfl, fun hnewline => ?_⟩
      cases hnewline
    · obtain ⟨text, rfl⟩ := exists_append_newline ht
      refine ⟨text, rfl, fun _ hl => hsuffix ?_⟩
      obtain ⟨front, rfl⟩ := List.getLast?_eq_some_iff.1 hl
      exact List.isSuffixOf_iff_suffix.2 ⟨front, by simp [Ending.text]⟩
  · rintro ⟨text, rfl, h⟩
    cases mark with
    | newline => exact endsIn_append (h rfl) .newline
    | returnNewline => exact ⟨terminated_append_ending text .returnNewline, by simp [endingOf]⟩

/-- A line ends as its last word does. -/
theorem EndsIn.append_space (h : EndsIn mark line) (front : Text) :
    EndsIn mark (front ++ ' ' :: line) := by
  obtain ⟨text, rfl, hr⟩ := endsIn_iff.1 h
  refine endsIn_iff.2 ⟨front ++ ' ' :: text, by simp, fun hm => ?_⟩
  rw [List.getLast?_append_of_ne_nil _ (List.cons_ne_nil _ _)]
  cases text with
  | nil => simp
  | cons c text => exact hr hm

theorem EndsIn.last_word (h : EndsIn mark line) {front : List Text} {last : Text}
    (hw : Text.words line = front ++ [last]) : EndsIn mark last := by
  obtain ⟨text, rfl, hr⟩ := endsIn_iff.1 h
  have hspace : ' ' ∉ mark.text := by cases mark <;> decide
  obtain ⟨pieces, piece, hsplit, happend⟩ := Text.split_append_of_not_mem hspace text
  have hwords : Text.words (text ++ mark.text) =
      pieces.filter (! ·.isEmpty) ++ [piece ++ mark.text] := by
    have hne : (piece ++ mark.text).isEmpty = false := by cases mark <;> simp [Ending.text]
    simp [Text.words, happend, List.filter_append, hne]
  obtain ⟨-, hlast⟩ := List.append_inj' (hw.symm.trans hwords) rfl
  rw [List.singleton_inj] at hlast
  refine endsIn_iff.2 ⟨piece, hlast, fun hm hl => hr hm ?_⟩
  have hjoin : Text.join [' '] (pieces ++ [piece]) = text := hsplit ▸ Text.join_split ' ' text
  obtain ⟨init, rfl⟩ := List.getLast?_eq_some_iff.1 hl
  by_cases hp : pieces = []
  · simp [← hjoin, hp, Text.join]
  · rw [← hjoin, Text.join_concat _ hp, ← List.append_assoc, List.getLast?_concat]

end Lines

namespace Conformance

open Line (Mark.capability Mark.classOnly Mark.classOnlyListed)
open Lines (EndsIn Settled Uniform terminated endingOf)

variable {variant : Variant} {lines edited conformed : Lines} {line next : Text}
  {mark : Lines.Ending}

/-- From three words on, the last word stays the last unless it is a constraint to classes. -/
theorem getLast?_entered? {words entered : List Text} {last : Text}
    (h : entered? words = some entered) (hlen : 3 ≤ words.length)
    (hl : words.getLast? = some last) (hc : last ≠ Mark.classOnly)
    (hc' : last ≠ Mark.classOnlyListed) : entered.getLast? = some last := by
  obtain ⟨front, rfl⟩ := List.getLast?_eq_some_iff.1 hl
  obtain ⟨ready, hready, hentered⟩ := Option.bind_eq_some_iff.1 h
  have hcontinued : ∀ {kept : List Text}, kept.getLast? = some last →
      continueList? kept = some ready → ready.getLast? = some last := by
    intro kept hkept hsome
    obtain ⟨init, word, final, rfl, rfl⟩ := continueList?_eq_some hsome
    simpa using hkept
  have hlast : ready.getLast? = some last := by
    unfold readyList? at hready
    split_ifs at hready with hthree
    · have htwo : front.length = 2 := by
        simp only [List.length_append, List.length_singleton] at hthree hlen
        omega
      obtain ⟨first, second, rfl⟩ := List.length_eq_two.1 htwo
      rw [Option.some.injEq] at hready
      rw [← hready]
      rfl
    · rw [Option.some.injEq] at hready
      rw [← hready]
      simp [List.filter_append, hc]
    · exact hcontinued (by simp [List.filter_append, hc']) hready
    · exact hcontinued hl hready
  obtain ⟨init, final, rfl, rfl⟩ := enter?_eq_some hentered
  simpa using hlast

theorem declareAt?_eq {index : Nat} (hline : lines[index]? = some line) :
    declareAt? lines index =
      if Text.occursIn Mark.capability line then some (lines, [])
      else (addCapability? line).map fun next =>
        (lines.set index next, [.capabilityAdded index]) := by
  unfold declareAt?
  simp only [hline, Option.bind_eq_bind, Option.bind_some]
  split_ifs
  · rfl
  · cases addCapability? line <;> rfl

def pairLine (first second : Text) : Text :=
  Text.join " " [first, Mark.capability, second ++ ":"]

theorem pairLine_eq (first second : Text) :
    pairLine first second = (first ++ " " ++ (Mark.capability ++ " " ++ second)) ++ [':'] := by
  simp [pairLine, Text.join]

theorem eq_pairLine {first second : Text} (hw : Text.words line = [first, second])
    (hnext : addCapability? line = some next) : next = pairLine first second := by
  rw [addCapability?_eq (by simp [hw]), hw] at hnext
  exact (Option.some.inj hnext).symm

/-- A declaration keeps its terminator when it takes the capability, unless it is two words. -/
theorem endsIn_of_addCapability? (h : EndsIn mark line) (hlen : (Text.words line).length ≠ 2)
    (hnext : addCapability? line = some next) : EndsIn mark next := by
  by_cases hfew : 2 ≤ (Text.words line).length
  · rw [addCapability?_eq hfew] at hnext
    obtain ⟨entered, hentered, rfl⟩ := Option.map_eq_some_iff.1 hnext
    obtain ⟨front, last, hw⟩ := (List.eq_nil_or_concat' (Text.words line)).resolve_left
      (by intro hnil; simp [hnil] at hfew)
    have hend := h.last_word hw
    have hlast : entered.getLast? = some last := by
      refine getLast?_entered? hentered (by omega) (by simp [hw]) ?_ ?_
      · rintro rfl
        exact absurd hend.1 (by decide)
      · rintro rfl
        exact absurd hend.1 (by decide)
    obtain ⟨init, rfl⟩ := List.getLast?_eq_some_iff.1 hlast
    by_cases hinit : init = []
    · rwa [hinit]
    · rw [Text.join_concat _ hinit]
      simpa using hend.append_space (Text.join " " init)
  · simp only [addCapability?, if_pos (Nat.lt_of_not_le hfew), Option.some.injEq] at hnext
    exact hnext ▸ h

/-- A declaration of two words that took the capability declares no enum: what stands before the
first space would have to end in two ways. -/
theorem declaresEnum_pairLine {first second : Text} (hf : ' ' ∉ first) (hs : ' ' ∉ second)
    (name : Text) : Line.declaresEnum name (pairLine first second) = false := by
  have hgap : ∀ letter, letter ≠ 'e' → letter ≠ ' ' →
      Text.gapped letter (pairLine first second) = true → first.getLast? = some letter := by
    intro letter hletter hspace hg
    have hcapability : ' ' ∉ Mark.capability ∧ Mark.capability.getLast? = some 'e' := by decide
    simpa [pairLine, Text.join, Text.gapped_append, Text.gapped_cons, Text.gapped_of_not_mem hf,
      Text.gapped_of_not_mem hs, Text.gapped_of_not_mem hcapability.1, hcapability.2, Text.gapped,
      hletter.symm, hspace.symm] using hg
  rw [Line.declaresEnum, Bool.eq_false_iff]
  intro hd
  have hinfix := Text.occursIn_iff.1 hd
  have hm : ['m', ' '] <:+: ("enum " : Text) ++ name ++ ": String" :=
    ⟨("enu" : Text), name ++ ": String", by simp⟩
  have hcolon : [':', ' '] <:+: ("enum " : Text) ++ name ++ ": String" :=
    ⟨("enum " : Text) ++ name, "String", by simp⟩
  have hlast := hgap 'm' (by decide) (by decide) (Text.gapped_of_infix (hm.trans hinfix))
  rw [hgap ':' (by decide) (by decide) (Text.gapped_of_infix (hcolon.trans hinfix))] at hlast
  cases hlast

/-- Nor is it an outlet, unless it was one before. -/
theorem outlet_occursIn_of_pairLine {first second : Text} (hw : Text.words line = [first, second])
    (h : Text.occursIn Line.Mark.outlet (pairLine first second) = true) :
    Text.occursIn Line.Mark.outlet line = true := by
  obtain ⟨word, hword, hinfix⟩ :=
    Text.exists_mem_of_infix_join (by decide) (by decide) (Text.occursIn_iff.1 h)
  have hold : ∀ old ∈ Text.words line, Line.Mark.outlet <:+: old →
      Text.occursIn Line.Mark.outlet line = true := fun old hmem hocc =>
    Text.occursIn_iff.2 (hocc.trans (Text.infix_of_mem_words hmem))
  simp only [List.mem_cons, List.not_mem_nil, or_false] at hword
  rcases hword with rfl | rfl | rfl
  · exact hold _ (by simp [hw]) hinfix
  · exact absurd hinfix (by decide)
  · refine hold second (by simp [hw]) (Text.occursIn_iff.1 ?_)
    rw [← Text.occursIn_append_singleton (c := ':') (by decide) (by decide)]
    exact Text.occursIn_iff.2 hinfix

/-! ## The lines after the stage -/

theorem plain_importLine {module : Text} (h : Line.IsWord module) :
    Lines.Plain (Line.importLine module) := by
  refine ⟨Line.Mark.importWord ++ " " ++ module, rfl, fun hl => ?_⟩
  have hmem := List.mem_of_getLast? hl
  have hword : '\r' ∉ Line.Mark.importWord ++ " " := by decide
  exact (List.mem_append.1 hmem).elim hword h.2.1.2

section Uniform

variable (h : Uniform mark lines)
include h

section Declared

variable {index : Nat} {events : List Event} (he : declareAt? lines index = some (edited, events))
include he

/-- Of the lines with the capability declared, one may be a declaration of two words that took it;
the others are ended as before. -/
theorem endsIn_or_pairLine (hline : line ∈ edited) :
    EndsIn mark line ∨ ∃ old first second, lines[index]? = some old ∧
      Text.words old = [first, second] ∧ line = pairLine first second := by
  obtain ⟨old, hold, rfl | ⟨next, hnext, rfl⟩⟩ := declareAt?_eq_some he
  · exact .inl (h line hline)
  · rcases List.mem_or_eq_of_mem_set hline with hline | rfl
    · exact .inl (h line hline)
    · by_cases htwo : (Text.words old).length = 2
      · obtain ⟨first, second, hw⟩ := List.length_eq_two.1 htwo
        exact .inr ⟨old, first, second, hold, hw, eq_pairLine hw hnext⟩
      · exact .inl (endsIn_of_addCapability? (h old (List.mem_of_getElem? hold)) htwo hnext)

/-- Where an outlet is left, some line is terminated: the class or, if the class took the
capability, the outlet, which is another line. -/
theorem exists_terminated {declared : Lines.ClassDeclaration}
    (hc : lines.classDeclaration? = some declared) (ho : edited.outlets ≠ []) :
    ∃ line ∈ edited, terminated line = true := by
  obtain ⟨hlt, hkind, -⟩ := List.findIdx?_eq_some_iff_getElem.1
    (Lines.classDeclaration?_eq_some_iff.1 hc).1
  obtain ⟨outlet, houtlet⟩ := List.exists_mem_of_ne_nil _ ho
  obtain ⟨line, hmem, -⟩ := List.mem_filterMap.1 houtlet
  obtain ⟨hline, houtlet⟩ := List.mem_filter.1 hmem
  rcases endsIn_or_pairLine h he hline with hend | ⟨old, first, second, hold, hw, rfl⟩
  · exact ⟨line, hline, hend.1⟩
  · obtain ⟨_, _, hedited⟩ := declareAt?_eq_some he
    by_cases hclass : declared.index = index
    · -- the class took the capability, and it would have to be an outlet before
      have hclassLine : lines[declared.index] = old := by
        rw [← hclass] at hold
        exact (List.getElem?_eq_some_iff.1 hold).2
      rw [beq_iff_eq, hclassLine, Line.kind_eq_classDeclaration_iff] at hkind
      rw [beq_iff_eq, Line.kind_eq_outlet_iff] at houtlet
      have hocc := outlet_occursIn_of_pairLine hw houtlet.2.2.2
      rw [hkind.2.2.2.1] at hocc
      cases hocc
    · have hkept : lines[declared.index] ∈ edited := by
        rcases hedited with rfl | ⟨next, -, rfl⟩
        · exact List.getElem_mem hlt
        · refine List.mem_of_getElem? (i := declared.index) ?_
          rw [List.getElem?_set_ne (Ne.symm hclass), List.getElem?_eq_getElem hlt]
      exact ⟨_, hkept, (h _ (List.getElem_mem hlt)).1⟩

end Declared

theorem settled_of_declareAt? {index : Nat} {events : List Event}
    (he : declareAt? lines index = some (edited, events)) {declared : Lines.ClassDeclaration}
    (hc : lines.classDeclaration? = some declared) : Settled mark edited where
  agree line hline ht := by
    rcases endsIn_or_pairLine h he hline with hend | ⟨old, first, second, -, -, rfl⟩
    · exact hend.2
    · rw [pairLine_eq, terminated, List.getLast?_concat] at ht
      cases ht
  enum name line hline hd := by
    rcases endsIn_or_pairLine h he hline with hend | ⟨old, first, second, -, hw, rfl⟩
    · exact hend.1
    · have hwords : first ∈ Text.words old ∧ second ∈ Text.words old := by simp [hw]
      rw [declaresEnum_pairLine (Text.not_mem_of_mem_words hwords.1)
        (Text.not_mem_of_mem_words hwords.2)] at hd
      cases hd
  outlets := exists_terminated h he hc

/-- The lines after the stage end in the terminator of those before it. -/
theorem Conformed.settled (hc : Conformed variant lines edited conformed)
    (hv : ∀ module ∈ variant.frameworkModule?, Line.IsWord module) : Settled mark conformed := by
  cases hc with
  | unchanged hc =>
    refine ⟨fun line hline _ => (h line hline).2, fun _ line hline _ => (h line hline).1, ?_⟩
    intro ho
    have hne : lines ≠ [] := by
      rintro rfl
      exact ho rfl
    obtain ⟨line, hline⟩ := List.exists_mem_of_ne_nil _ hne
    exact ⟨line, hline, (h line hline).1⟩
  | declared hc he => exact settled_of_declareAt? h he hc
  | importTarget hc hm hi hp he =>
    rw [((quiet_importLine (hv _ hm)).quietLine _).declaresProtocol_eq_false] at hp
    cases hp
  | @imported declared edited events module index hc hm hi he =>
    have hne : lines ≠ [] := by
      rintro rfl
      cases hc
    rw [h.ending_eq hne]
    exact (settled_of_declareAt? h he hc).inserted
      (Lines.endsIn_withEnding (plain_importLine (hv module hm)) mark)

end Uniform

end Conformance

end OutletWiring

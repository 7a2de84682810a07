import OutletWiring.Generator
import OutletWiring.Proofs.Capability
import OutletWiring.Proofs.Conformance.Declaration
import OutletWiring.Proofs.Run.Steady

/-!
# The conformance stage a second time

The stage finds the class and the declaration to change by reading the lines, so a second run leaves
them as they are only if what the first run wrote is read as before. It is if the declaration has
room for the capability (`run_again_of_room`). It is not for a protocol with a modifier and no list:
there the comma comes to the name, the protocol is not found again, and the class takes the
capability too (`modifier_moves_capability`).
-/

namespace OutletWiring.Conformance

open Lines (ClassDeclaration Ending withEnding)
open Line (Mark.capability Mark.classWord Mark.importWord Mark.protocolWord)

variable {variant : Variant} {lines edited : Lines} {declared : ClassDeclaration}
  {events : List Event}

/-- The line declares the interface protocol with room for the capability, or the class if there is
no such protocol, and no words of it can come to make a mark for which it would be read. -/
inductive Spacious (lines : Lines) (declared : ClassDeclaration) (line : Text) : Prop
  | interface {front rest : List Text} {name : Text}
      (h : Roomy (Text.words line) front Mark.protocolWord name rest)
      (hn : Line.protocolName name = Naming.viewProtocol declared.name)
      (hu : Unmarked [importMark] line) : Spacious lines declared line
  | ofClass {front rest : List Text} {name : Text}
      (hp : lines.protocol? (Naming.viewProtocol declared.name) = none)
      (h : Roomy (Text.words line) front Mark.classWord name rest) (hf : Mark.classWord ∉ front)
      (hu : Unmarked pairMarks line) : Spacious lines declared line

/-- The declaration that has to take the capability has it or has room for it. -/
def Receptive (lines : Lines) (declared : ClassDeclaration) : Prop :=
  ∀ line ∈ lines[target lines declared]?,
    Text.occursIn Mark.capability line = true ∨ Spacious lines declared line

/-! ## The changed line -/

/-- The line is read as before: for the class, for the interface protocol, and for imports. -/
structure ReadAlike (declared : ClassDeclaration) (line next : Text) : Prop where
  isClass : (Line.kind next == .classDeclaration) = (Line.kind line == .classDeclaration)
  className? : Line.kind line = .classDeclaration → Line.className? next = Line.className? line
  interface : Line.declaresProtocol (Naming.viewProtocol declared.name) next =
    Line.declaresProtocol (Naming.viewProtocol declared.name) line
  isImport : (Line.kind next == .moduleImport) = (Line.kind line == .moduleImport)
  holdsImport : Text.occursIn (importMark.1 ++ ' ' :: importMark.2) next =
    Text.occursIn (importMark.1 ++ ' ' :: importMark.2) line
  capability : Text.occursIn Mark.capability next = true

theorem Spacious.readAlike {line next : Text} (h : Spacious lines declared line)
    (hc : lines.classDeclaration? = some declared)
    (hline : lines[target lines declared]? = some line)
    (hnext : addCapability? line = some next) : ReadAlike declared line next := by
  have hread : ∀ {marks : List PairMark} {text : Text}, Unmarked marks text →
      (Line.kind text == .moduleImport) = false := fun hu => by
    simpa using Line.kind_ne_moduleImport hu.isImport_eq_false
  have hheld : ∀ {marks : List PairMark} {text : Text}, importMark ∈ marks → Unmarked marks text →
      Text.occursIn (importMark.1 ++ ' ' :: importMark.2) text = false := fun hm hu =>
    (hu.parted _ hm).occursIn_eq_false (by decide) (List.prefix_refl _)
  cases h with
  | @interface front rest name h hn hu =>
    have hunmarked := h.unmarked (by decide) (by decide) hu hnext
    have hdeclares : Line.declaresProtocol (Naming.viewProtocol declared.name) line = true := by
      rw [Line.declaresProtocol, h.words_eq]
      exact Line.declaresAmong_append hn
    have hkept := h.declaresProtocol hnext
    rw [hn] at hkept
    have hkind := Line.kind_ne_classDeclaration hdeclares
    exact
      { isClass := by simp [hkind, Line.kind_ne_classDeclaration hkept]
        className? := fun hk => absurd hk hkind
        interface := by rw [hkept, hdeclares]
        isImport := by rw [hread hunmarked, hread hu]
        holdsImport := by rw [hheld (by decide) hunmarked, hheld (by decide) hu]
        capability := h.capability (by decide) hnext }
  | @ofClass front rest name hp h hf hu =>
    have hunmarked := h.unmarked (by decide) (List.Subset.refl _) hu hnext
    have hkind : Line.kind line = .classDeclaration := by
      rw [target, hp, Option.getD_none] at hline
      obtain ⟨hlt, hkind, -⟩ := List.findIdx?_eq_some_iff_getElem.1
        (Lines.classDeclaration?_eq_some_iff.1 hc).1
      rw [List.getElem?_eq_getElem hlt, Option.some.injEq] at hline
      rw [← hline]
      simpa using hkind
    have hkept := h.kind hnext hu hkind
    have hsilent : ∀ {text : Text}, Line.kind text = .classDeclaration →
        Line.declaresProtocol (Naming.viewProtocol declared.name) text = false := by
      intro text htext
      rw [Bool.eq_false_iff]
      exact fun hd => Line.kind_ne_classDeclaration hd htext
    exact
      { isClass := by rw [hkept, hkind]
        className? := fun _ => h.className? hnext hf
        interface := by rw [hsilent hkept, hsilent hkind]
        isImport := by rw [hread hunmarked, hread hu]
        holdsImport := by rw [hheld (by decide) hunmarked, hheld (by decide) hu]
        capability := h.capability (by decide) hnext }

/-! ## The changed lines -/

theorem map_set_eq {α : Type} {q : Text → α} {index : Nat} {next : Text}
    (h : ∀ line ∈ lines[index]?, q next = q line) : (lines.set index next).map q = lines.map q := by
  refine List.ext_getElem? fun place => ?_
  rw [List.getElem?_map, List.getElem?_map, List.getElem?_set]
  split_ifs with hplace hlt
  · subst hplace
    have hline := List.getElem?_eq_getElem hlt
    rw [hline, Option.map_some, Option.map_some, h _ hline]
  · subst hplace
    rw [List.getElem?_eq_none (Nat.le_of_not_lt hlt)]
  · rfl

theorem findIdx?_set_eq {q : Text → Bool} {index : Nat} {next : Text}
    (h : ∀ line ∈ lines[index]?, q next = q line) :
    (lines.set index next).findIdx? q = lines.findIdx? q := by
  have hmap : ∀ others : Lines, others.findIdx? q = (others.map q).findIdx? id := fun others => by
    rw [List.findIdx?_map]
    rfl
  rw [hmap, hmap, map_set_eq h]

structure Importing (module : Text) : Prop where
  isWord : Line.IsWord module
  trimmed : Text.trimEnd (Line.importLine module) = importMark.1 ++ ' ' :: importMark.2
  kind (ending : Ending) : Line.kind (withEnding ending (Line.importLine module)) = .moduleImport
  holds (ending : Ending) : Text.occursIn (Text.trimEnd (Line.importLine module))
    (withEnding ending (Line.importLine module)) = true

def Importable (variant : Variant) : Prop :=
  ∀ module ∈ variant.frameworkModule?, Importing module

theorem importable_of_mem_standard (h : variant ∈ Catalogue.standard) : Importable variant := by
  simp only [Catalogue.standard, List.mem_cons, List.not_mem_nil, or_false] at h
  rcases h with rfl | rfl
  · intro module hmodule
    obtain rfl : "AccessibilityKit".toList = module := Option.some.inj hmodule
    exact
      { isWord := by decide
        trimmed := by decide
        kind := fun ending => by cases ending <;> decide
        holds := fun ending => by cases ending <;> decide }
  · intro module hmodule
    cases hmodule

theorem frameworkImport?_set {index classIndex : Nat} {line next : Text} (hv : Importable variant)
    (hline : lines[index]? = some line) (h : ReadAlike declared line next) :
    frameworkImport? variant (lines.set index next) classIndex =
      frameworkImport? variant lines classIndex := by
  unfold frameworkImport?
  cases hm : variant.frameworkModule? with
  | none => rfl
  | some module =>
    have hany : (lines.set index next).any (Text.occursIn (Text.trimEnd (Line.importLine module))) =
        lines.any (Text.occursIn (Text.trimEnd (Line.importLine module))) := by
      have hmap : ∀ (others : Lines) (q : Text → Bool), others.any q = (others.map q).any id :=
        fun others q => by rw [List.any_map]; rfl
      rw [hmap, hmap, map_set_eq fun old hold => ?_]
      rw [hline, Option.mem_some] at hold
      rw [(hv module hm).trimmed, ← hold, h.holdsImport]
    have himport : Lines.firstImport? ((lines.set index next).take classIndex) =
        Lines.firstImport? (lines.take classIndex) := by
      rw [List.take_set]
      refine findIdx?_set_eq fun old hold => ?_
      have hbefore : index < classIndex := by
        by_contra hnot
        rw [Option.mem_def, List.getElem?_take_eq_none (by omega)] at hold
        cases hold
      rw [List.getElem?_take_of_lt hbefore, hline, Option.mem_some] at hold
      rw [← hold, h.isImport]
    simp only [Option.bind_eq_bind, Option.bind_some, hany, himport]

/-- What a first run has changed is found again: the class, the declaration that has the capability,
and the imports. -/
structure FoundAlike (variant : Variant) (declared : ClassDeclaration) (lines edited : Lines) :
    Prop where
  declares : edited.classDeclaration? = some declared
  framework : frameworkImport? variant edited declared.index =
    frameworkImport? variant lines declared.index
  capability : ∃ events, declareAt? edited (target edited declared) = some (edited, events)

theorem declareAt?_of_capability {index : Nat} {line : Text} (hline : lines[index]? = some line)
    (h : Text.occursIn Mark.capability line = true) :
    declareAt? lines index = some (lines, []) := by
  simp [declareAt?, hline, h]

theorem foundAlike_set {line next : Text} (hv : Importable variant)
    (hc : lines.classDeclaration? = some declared)
    (hline : lines[target lines declared]? = some line) (h : ReadAlike declared line next) :
    FoundAlike variant declared lines (lines.set (target lines declared) next) := by
  obtain ⟨hfind, old, hold, hname⟩ := Lines.classDeclaration?_eq_some_iff.1 hc
  have hlt := (List.getElem?_eq_some_iff.1 hline).1
  have htarget : target (lines.set (target lines declared) next) declared =
      target lines declared := by
    unfold target
    congr 1
    refine findIdx?_set_eq fun other hother => ?_
    rw [show lines[(lines.protocol? (Naming.viewProtocol declared.name)).getD declared.index]? =
      some line from hline, Option.mem_some] at hother
    rw [← hother, h.interface]
  refine ⟨Lines.classDeclaration?_eq_some_iff.2 ⟨?_, ?_⟩, frameworkImport?_set hv hline h, [], ?_⟩
  · rw [← hfind]
    refine findIdx?_set_eq fun other hother => ?_
    rw [hline, Option.mem_some] at hother
    rw [← hother, h.isClass]
  · by_cases hplace : target lines declared = declared.index
    · rw [hplace] at hline hlt ⊢
      rw [hold, Option.some.injEq] at hline
      subst hline
      have hkind : Line.kind old = .classDeclaration := by
        obtain ⟨hi, hk, -⟩ := List.findIdx?_eq_some_iff_getElem.1 hfind
        rw [List.getElem?_eq_getElem hi, Option.some.injEq] at hold
        rw [← hold]
        simpa using hk
      exact ⟨next, List.getElem?_set_self hlt, (h.className? hkind).trans hname⟩
    · exact ⟨old, by rw [List.getElem?_set_ne hplace, hold], hname⟩
  · rw [htarget]
    exact declareAt?_of_capability (List.getElem?_set_self hlt) h.capability

theorem foundAlike_of_receptive (hv : Importable variant)
    (hc : lines.classDeclaration? = some declared) (hr : Receptive lines declared)
    (he : declareAt? lines (target lines declared) = some (edited, events)) :
    FoundAlike variant declared lines edited := by
  obtain ⟨line, hline, hedited⟩ := declareAt?_eq_some he
  by_cases hcapability : Text.occursIn Mark.capability line = true
  · rw [declareAt?_of_capability hline hcapability, Option.some.injEq, Prod.mk.injEq] at he
    obtain rfl := he.1
    exact ⟨hc, rfl, [], declareAt?_of_capability hline hcapability⟩
  · have hspacious := (hr line hline).resolve_left hcapability
    rcases hedited with rfl | ⟨next, hnext, rfl⟩
    · exact ⟨hc, rfl, events, he⟩
    · exact foundAlike_set hv hc hline (hspacious.readAlike hc hline hnext)

/-! ## The import line -/

/-- With the import line above the class nothing is left to do. -/
theorem FoundAlike.conforms_insert {module : Text} {index : Nat}
    (h : FoundAlike variant declared lines edited) (hm : variant.frameworkModule? = some module)
    (himport : Importing module) (hlt : index < declared.index) (hi : index ≤ edited.length)
    (ending : Ending) :
    Conforms variant
      (edited.take index ++ withEnding ending (Line.importLine module) :: edited.drop index)
      ⟨declared.name, declared.index + 1⟩ := by
  obtain ⟨hfind, line, hline, hname⟩ := Lines.classDeclaration?_eq_some_iff.1 h.declares
  obtain ⟨events, hevents⟩ := h.capability
  have hclass : moved index declared.index = declared.index + 1 := if_neg (by omega)
  have hsilent : Line.declaresProtocol (Naming.viewProtocol declared.name)
      (withEnding ending (Line.importLine module)) = false :=
    ((quiet_importLine himport.isWord).quietLine ending).declaresProtocol_eq_false
  refine ⟨Lines.classDeclaration?_eq_some_iff.2 ⟨?_, line, ?_, hname⟩, ?_, ?_⟩
  · have hmoved : (edited.findKind? .classDeclaration).map (moved index) =
        some (declared.index + 1) := by rw [hfind, Option.map_some, hclass]
    rcases findIdx?_insert hi (Line.kind · == .classDeclaration) with hfound | ⟨hkind, -⟩
    · exact hfound.trans hmoved
    · rw [himport.kind ending] at hkind
      cases hkind
  · show (_ : Lines)[declared.index + 1]? = some line
    rw [← hclass, getElem?_moved hi, hline]
  · unfold frameworkImport?
    have hany : (edited.take index ++ withEnding ending (Line.importLine module) ::
        edited.drop index).any (Text.occursIn (Text.trimEnd (Line.importLine module))) = true :=
      List.any_eq_true.2 ⟨_, by simp, himport.holds ending⟩
    simp only [hm, Option.bind_eq_bind, Option.bind_some, hany, if_true]
  · refine declareAt?_same hevents ?_
    rcases protocol?_insert hi (Naming.viewProtocol declared.name) with hp | ⟨hp, -⟩
    · rw [target_moved hlt hp, getElem?_moved hi]
    · rw [hsilent] at hp
      cases hp

/-! ## The second run -/

/-- The lines of a run conform if the declaration that had to change had room. -/
theorem conforms_run {subject : Subject} (hv : Importable variant)
    (hc : lines.classDeclaration? = some declared) (hr : Receptive lines declared)
    (h : (run variant lines subject).verdict = .completed) :
    ∃ index, Conforms variant (run variant lines subject).lines ⟨declared.name, index⟩ := by
  rw [run_of_some hc] at h ⊢
  cases hd : declaredIn variant lines declared with
  | none => simp [hd] at h
  | some result =>
    obtain ⟨conforming, events⟩ := result
    show ∃ index, Conforms variant conforming ⟨declared.name, index⟩
    cases hf : frameworkImport? variant lines declared.index with
    | none =>
      rw [declaredIn_of_none hf] at hd
      have halike := foundAlike_of_receptive hv hc hr hd
      exact ⟨declared.index, halike.declares, halike.framework.trans hf, halike.capability⟩
    | some found =>
      obtain ⟨index, line⟩ := found
      obtain ⟨module, hm, rfl, hi⟩ := frameworkImport?_eq_some hf
      obtain ⟨hlt, hlen⟩ := lt_of_firstImport? hi
      obtain ⟨edited, events', he, rfl⟩ | ⟨hline, -⟩ := declaredIn_of_some hlt hlen hf hd
      · have halike := foundAlike_of_receptive hv hc hr he
        have hbound : index ≤ edited.length := by rw [length_of_declareAt? he]; omega
        exact ⟨_, halike.conforms_insert hm (hv module hm) hlt hbound lines.ending⟩
      · rw [((quiet_importLine (hv module hm).isWord).quietLine _).declaresProtocol_eq_false]
          at hline
        cases hline

/-- The stage, run again on its own lines and knowing nothing of the first run, completes, leaves
them as they are and finds the same class, if the declaration to change had the capability or room
for it. -/
theorem run_again_of_room (hv : variant ∈ Catalogue.standard)
    (h : (run variant lines {}).verdict = .completed)
    (hr : ∀ declared ∈ lines.classDeclaration?, Receptive lines declared) :
    (run variant (run variant lines {}).lines {}).verdict = .completed ∧
      (run variant (run variant lines {}).lines {}).lines = (run variant lines {}).lines ∧
      (run variant (run variant lines {}).lines {}).subject = (run variant lines {}).subject := by
  cases hc : lines.classDeclaration? with
  | none =>
    obtain ⟨reason, hrun⟩ := run_of_none variant {} hc
    rw [hrun] at h
    cases h
  | some declared =>
    obtain ⟨index, hconforms⟩ := conforms_run (importable_of_mem_standard hv) hc (hr _ hc) h
    obtain ⟨events, hagain⟩ := hconforms.run_eq
    rw [hagain, run_subject_of_some hc]
    exact ⟨rfl, rfl, rfl⟩

/-- A screen whose interface protocol has a modifier and is constrained to classes, below an
import. -/
def constrainedScreen : Lines :=
  ["import UIKit\r\n", "public protocol LoginView: AnyObject \x7b\r\n", "\x7d\r\n",
    "final class LoginViewController: UIViewController, LoginView \x7b\r\n", "\x7d\r\n"]

theorem receptive_constrainedScreen :
    ∀ declared ∈ constrainedScreen.classDeclaration?, Receptive constrainedScreen declared := by
  intro declared hdeclared
  have hclass : constrainedScreen.classDeclaration? =
      some ⟨"LoginViewController".toList, 3⟩ := by decide +kernel
  rw [hclass, Option.mem_some] at hdeclared
  subst hdeclared
  intro line hline
  have htarget : constrainedScreen[target constrainedScreen ⟨"LoginViewController".toList, 3⟩]? =
      some "public protocol LoginView: AnyObject \x7b\r\n".toList := by decide +kernel
  rw [htarget, Option.mem_some] at hline
  subst hline
  have hroomy : Roomy (Text.words "public protocol LoginView: AnyObject \x7b\r\n".toList)
      ["public".toList] Mark.protocolWord "LoginView:".toList
      ["AnyObject".toList, "\x7b\r\n".toList] := ⟨by decide, by decide, by decide⟩
  exact .inr (.interface hroomy (by decide) ⟨by decide, by decide⟩)

theorem run_again_of_room_constrainedScreen :
    (run .dev constrainedScreen {}).lines =
        ["import AccessibilityKit\r\n", "import UIKit\r\n",
          "public protocol LoginView: AccessibilityIdentifiable \x7b\r\n", "\x7d\r\n",
          "final class LoginViewController: UIViewController, LoginView \x7b\r\n", "\x7d\r\n"] ∧
      (run .dev (run .dev constrainedScreen {}).lines {}).verdict = .completed ∧
      (run .dev (run .dev constrainedScreen {}).lines {}).lines =
        (run .dev constrainedScreen {}).lines ∧
      (run .dev (run .dev constrainedScreen {}).lines {}).subject =
        (run .dev constrainedScreen {}).subject :=
  ⟨by decide +kernel,
    run_again_of_room (by decide) (by decide +kernel) receptive_constrainedScreen⟩

/-- Of a protocol with a modifier and no list, the comma comes to the name, and the protocol is not
found again: the second run puts the capability on the class as well. -/
theorem modifier_moves_capability :
    let first := run .qa ["public protocol LoginView \x7b\n", "\x7d\n",
      "final class LoginViewController: UIViewController, LoginView \x7b\n", "\x7d\n"] {}
    first.verdict = .completed ∧
      first.lines = ["public protocol LoginView, AccessibilityIdentifiable \x7b\n", "\x7d\n",
        "final class LoginViewController: UIViewController, LoginView \x7b\n", "\x7d\n"] ∧
      (run .qa first.lines {}).lines =
        ["public protocol LoginView, AccessibilityIdentifiable \x7b\n", "\x7d\n",
        "final class LoginViewController: UIViewController, LoginView, AccessibilityIdentifiable \x7b\n",
        "\x7d\n"] := by
  decide +kernel

end OutletWiring.Conformance

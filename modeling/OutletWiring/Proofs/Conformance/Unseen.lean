import OutletWiring.Proofs.Conformance.Again
import OutletWiring.Proofs.Conformance.Ending
import OutletWiring.Proofs.Line.Unseen

/-!
# The conformance stage passes an unseen line over

With one unseen line more, the class, the protocol and the imports are found where they were, moved
by one place behind that line. So the stage comes to the same end, and what it leaves has the line
where it was, or one place further if the import of the framework went in above it (`run_inserted`).
-/

namespace OutletWiring

open Conformance (moved)

namespace Lines

variable {lines : Lines} {line : Text} {index place : Nat} (hu : Line.Unseen line)
  (hi : index ≤ lines.length)
include hu hi

theorem findKind?_inserted {kind : Line.Kind} (hk : kind ≠ .outlet) :
    (lines.inserted index line).findKind? kind = (lines.findKind? kind).map (moved index) :=
  findIdx?_inserted hi (by simpa [hu.kind] using hk.symm)

theorem classDeclaration?_inserted :
    (lines.inserted index line).classDeclaration? =
      lines.classDeclaration?.map fun declared => ⟨declared.name, moved index declared.index⟩ := by
  unfold classDeclaration?
  rw [findKind?_inserted hu hi (by decide)]
  cases lines.findKind? .classDeclaration with
  | none => rfl
  | some place =>
    simp only [Option.map_some, Option.bind_eq_bind, Option.bind_some, getElem?_inserted hi]
    cases lines[place]? with
    | none => rfl
    | some found => cases hname : Line.className? found <;> simp [hname]

theorem setter?_inserted :
    (lines.inserted index line).setter? = lines.setter?.map (moved index) :=
  findKind?_inserted hu hi (by decide)

theorem firstImport?_inserted :
    firstImport? ((lines.inserted index line).take (moved index place)) =
      (firstImport? (lines.take place)).map (moved index) :=
  findIdx?_take_inserted hi (by simp [hu.kind])

end Lines

namespace Stage

/-- Two results of a stage: of lines, and of the same lines with one more. The stage ends alike, and
what it leaves differs by the line alone, unless it is stuck. -/
structure Alike (line : Text) (index landing : Nat) (lines : Lines) (result other : Result) :
    Prop where
  subject : other.subject = result.subject
  verdict : other.verdict = result.verdict
  drifts : result.verdict ≠ .stuck → Lines.Drifts index landing lines result.lines
  inserted : result.verdict ≠ .stuck → other.lines = result.lines.inserted landing line

end Stage

namespace Conformance

open Lines (ClassDeclaration Drifts pushed)

variable {variant : Variant} {lines : Lines} {line : Text} {index place : Nat} {subject : Subject}

/-- The capability is declared on the same line, and the unseen line stays where it is. -/
theorem declareAt?_inserted (hi : index ≤ lines.length) :
    (declareAt? (lines.inserted index line) (moved index place)).map Prod.fst =
      (declareAt? lines place).map fun declared => declared.1.inserted index line := by
  have hget : (lines.inserted index line)[moved index place]? = lines[place]? :=
    Lines.getElem?_inserted hi
  cases hline : lines[place]? with
  | none =>
    rw [hline] at hget
    simp [declareAt?, hget, hline]
  | some old =>
    rw [declareAt?_eq (hget.trans hline), declareAt?_eq hline]
    split_ifs
    · rfl
    · cases addCapability? old with
      | none => rfl
      | some next => exact congrArg some (set_moved hi next)

theorem frameworkImport?_inserted (hv : Importable variant) (hu : Line.Unseen line)
    (hi : index ≤ lines.length) :
    frameworkImport? variant (lines.inserted index line) (moved index place) =
      (frameworkImport? variant lines place).map (Prod.map (moved index) id) := by
  unfold frameworkImport?
  cases hm : variant.frameworkModule? with
  | none => rfl
  | some module =>
    have himport : Text.occursIn (Text.trimEnd (Line.importLine module)) line = false := by
      rw [Bool.eq_false_iff]
      intro hocc
      have hkey : Line.Mark.importWord ++ [' '] <:+: importMark.1 ++ ' ' :: importMark.2 :=
        ⟨[], importMark.2, by simp [importMark]⟩
      have := Text.occursIn_iff.2 (hkey.trans ((hv module hm).trimmed ▸ Text.occursIn_iff.1 hocc))
      rw [hu.imports] at this
      cases this
    simp only [Option.bind_eq_bind, Option.bind_some, Lines.any_inserted himport,
      Lines.firstImport?_inserted hu hi]
    split_ifs
    · rfl
    · cases Lines.firstImport? (lines.take place) <;> rfl

def importPlace? (variant : Variant) (lines : Lines) : Option Nat :=
  lines.classDeclaration?.bind fun declared =>
    (frameworkImport? variant lines declared.index).map Prod.fst

/-- Where the line at `index` stands after the stage. -/
def landed (variant : Variant) (lines : Lines) (index : Nat) : Nat :=
  (importPlace? variant lines).elim index fun place => pushed place 1 index

section Import

variable (hv : Importable variant) (hu : Line.Unseen line) (hi : index < lines.length)
  (he : (lines.inserted index line).ending = lines.ending) {declared : ClassDeclaration}
  (hc : lines.classDeclaration? = some declared)
include hc

theorem drifts_landed (variant : Variant) :
    Drifts index (landed variant lines index) lines
      (importFramework variant lines declared.index).1 := by
  unfold landed importPlace?
  rw [hc, Option.bind_some]
  cases hf : frameworkImport? variant lines declared.index with
  | none =>
    rw [importFramework_of_none hf]
    exact .refl index lines
  | some found =>
    rw [importFramework_of_some hf]
    exact .pushed found.1 [found.2] found.1

include hv hu hi he

theorem importFramework_inserted :
    importFramework variant (lines.inserted index line) (moved index declared.index) =
      ((importFramework variant lines declared.index).1.inserted (landed variant lines index) line,
        moved (landed variant lines index) (importFramework variant lines declared.index).2) := by
  have hinserted := @frameworkImport?_inserted _ _ _ _ declared.index hv hu (Nat.le_of_lt hi)
  unfold landed importPlace?
  rw [hc, Option.bind_some]
  cases hf : frameworkImport? variant lines declared.index with
  | none =>
    rw [hf, Option.map_none] at hinserted
    rw [importFramework_of_none hf, importFramework_of_none hinserted]
    rfl
  | some found =>
    obtain ⟨place, text⟩ := found
    obtain ⟨-, -, -, hfirst⟩ := frameworkImport?_eq_some hf
    obtain ⟨hlt, hlen⟩ := lt_of_firstImport? hfirst
    rw [hf, Option.map_some] at hinserted
    rw [importFramework_of_some hf, importFramework_of_some hinserted]
    simp only [Option.map_some, id_eq, Option.elim_some]
    refine Prod.ext (Lines.insertBlock_moved (Nat.le_of_lt hi) (Nat.le_of_lt hlen) he) ?_
    simp only [moved, pushed]
    split_ifs <;> omega

theorem declaredIn_inserted :
    (declaredIn variant (lines.inserted index line)
        ⟨declared.name, moved index declared.index⟩).map Prod.fst =
      (declaredIn variant lines declared).map fun result =>
        result.1.inserted (landed variant lines index) line := by
  have hlanded := Nat.le_of_lt ((drifts_landed hc variant).lt_length hi)
  have hprotocol := Lines.findIdx?_inserted hlanded
    (hu.protocol (Naming.viewProtocol declared.name))
  unfold declaredIn
  simp only [importFramework_inserted hv hu hi he hc]
  rw [← declareAt?_inserted hlanded]
  unfold Lines.protocol?
  rw [hprotocol]
  cases (importFramework variant lines declared.index).1.findIdx?
    (Line.declaresProtocol (Naming.viewProtocol declared.name)) <;> rfl

end Import

/-- The stage comes to the same end with the line, which moves only if the import of the framework
goes in above it. -/
theorem run_inserted (hv : Importable variant) (hu : Line.Unseen line)
    (hi : index < lines.length) (he : (lines.inserted index line).ending = lines.ending)
    (subject : Subject) :
    Stage.Alike line index (landed variant lines index) lines (run variant lines subject)
      (run variant (lines.inserted index line) subject) := by
  have hclass := Lines.classDeclaration?_inserted hu (Nat.le_of_lt hi)
  cases hc : lines.classDeclaration? with
  | none =>
    have hlanded : landed variant lines index = index := by simp [landed, importPlace?, hc]
    have hne : lines.isEmpty = false := by
      cases lines with
      | nil => cases hi
      | cons => rfl
    have hne' : (lines.inserted index line).isEmpty = false := by simp [Lines.inserted]
    rw [hc, Option.map_none] at hclass
    rw [hlanded]
    simp only [run, runM, hne, hne', hc, hclass, Bool.false_eq_true, if_false]
    exact ⟨rfl, rfl, fun _ => .refl index lines, fun _ => rfl⟩
  | some declared =>
    have hdeclared := declaredIn_inserted hv hu hi he hc
    rw [hc, Option.map_some] at hclass
    rw [run_of_some hc, run_of_some hclass]
    cases hd : declaredIn variant lines declared with
    | none =>
      rw [hd, Option.map_none, Option.map_eq_none_iff] at hdeclared
      rw [hdeclared]
      exact ⟨rfl, rfl, fun h => absurd rfl h, fun h => absurd rfl h⟩
    | some result =>
      have hlength : result.1.length = (importFramework variant lines declared.index).1.length :=
        length_of_declareAt? hd
      rw [hd, Option.map_some, Option.map_eq_some_iff] at hdeclared
      obtain ⟨other, hother, hlines⟩ := hdeclared
      rw [hother]
      refine ⟨rfl, rfl, fun _ => ?_, fun _ => hlines⟩
      exact (drifts_landed hc variant).trans (.of_length_le (Nat.le_of_eq hlength.symm))

end Conformance

end OutletWiring

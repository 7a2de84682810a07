import Mathlib.Logic.Relation
import OutletWiring.Generator
import OutletWiring.Proofs.Setter.Coherent

/-!
# Sessions of runs and edits

In a session the setter stage runs again and again under any of the standard variants, and between
the runs outlets are declared and taken out by hand. Every file on the way is coherent, so no outlet
is ever bound twice.
-/

namespace OutletWiring.IdentifierSetter

open Identifiers
open Naming (IsIdentifier)

/-- The outlets of a run in a session: distinct identifiers, none of which names the class itself. -/
def Wirable (outlets : List Outlet) : Prop :=
  (outlets.map Outlet.name).Nodup ∧
    ∀ o ∈ outlets, IsIdentifier o.name ∧ o.name ≠ ("self" : Text)

instance (outlets : List Outlet) : Decidable (Wirable outlets) :=
  inferInstanceAs (Decidable (_ ∧ _))

theorem Wirable.distinct {outlets : List Outlet} (h : Wirable outlets) : Distinct outlets :=
  ⟨h.1, fun o hmem => .of_isIdentifier (h.2 o hmem).1 (h.2 o hmem).2⟩

def outletLine (name type : Text) : Text :=
  "\t@IBOutlet weak var " ++ name ++ ": " ++ type ++ "!\n"

/-- One step of a session over a class: a run of the stage under a standard variant, an outlet
declaration put in anywhere, or one taken out. -/
inductive Step (className : Text) (viewKind : ViewKind) : Lines → Lines → Prop
  | run {lines : Lines} {variant : Variant} {subject : Subject}
      (hv : variant ∈ Catalogue.standard) (hc : subject.className = className)
      (hk : subject.viewKind = viewKind) (hw : Wirable (wiredOutlets variant subject lines)) :
      Step className viewKind lines (run variant lines subject).lines
  | declare {lines after : Lines} {index : Nat} {name type : Text} (hn : IsIdentifier name)
      (ht : IsIdentifier type) (h : lines.insert? index (outletLine name type) = some after) :
      Step className viewKind lines after
  | withdraw {lines after : Lines} {index : Nat} {line : Text} (hk : Line.kind line = .outlet)
      (h : lines.remove? index = some (line, after)) :
      Step className viewKind lines after

theorem Coherent.step {className : Text} {viewKind : ViewKind} (hc : IsIdentifier className)
    {lines after : Lines} (h : Coherent lines) (hstep : Step className viewKind lines after) :
    Coherent after := by
  cases hstep with
  | run _ hname _ hw => exact h.run_lines (hname ▸ hc) hw.distinct
  | @declare _ _ name type hn ht hafter =>
    have hparen : '(' ∉ outletLine name type := by
      have h1 : '(' ∉ name := hn.not_mem (by decide)
      have h2 : '(' ∉ type := ht.not_mem (by decide)
      unfold outletLine
      simp [h1, h2]
    have hbinds : BindsNothing [outletLine name type] := by
      simpa [BindsNothing] using occursIn_binding_of_not_mem hparen
    have hsetter : Lines.setter? [outletLine name type] = none := by
      rw [Lines.setter?_eq_none_iff, List.countP_singleton,
        Text.occursIn_eq_false_of_not_mem (c := '(') (by decide) hparen]
      rfl
    exact (iff_of_perm (Lines.perm_of_insert? hafter) hbinds hsetter).2 h
  | @withdraw _ _ line hk hafter =>
    obtain ⟨hbinds, hsetter⟩ := idle_of_outlets (show ∀ l ∈ [line], Line.kind l = .outlet by simpa)
    exact (iff_of_perm (Lines.perm_of_remove? hafter) hbinds hsetter).1 h

theorem Coherent.of_reachable {className : Text} {viewKind : ViewKind}
    (hc : IsIdentifier className) {start lines : Lines} (h : Coherent start)
    (hreach : Relation.ReflTransGen (Step className viewKind) start lines) : Coherent lines := by
  induction hreach with
  | refl => exact h
  | tail _ hstep ih => exact ih.step hc hstep

/-- Over a whole session that starts with no binding, no outlet is bound twice, and every run that
completes leaves each of the outlets that it wires bound exactly once. Whether there is a setter at
the start does not matter. -/
theorem session_binds_once {className : Text} {viewKind : ViewKind} (hc : IsIdentifier className)
    {start lines : Lines} (hb : BindsNothing start)
    (hreach : Relation.ReflTransGen (Step className viewKind) start lines) :
    (∀ o : Outlet, IsIdentifier o.name → o.name ≠ ("self" : Text) → boundTimes lines o ≤ 1) ∧
      ∀ variant ∈ Catalogue.standard, ∀ subject : Subject, subject.className = className →
        subject.viewKind = viewKind → Wirable (wiredOutlets variant subject lines) →
        (run variant lines subject).verdict = .completed →
        ∀ o ∈ wiredOutlets variant subject lines,
          boundTimes (run variant lines subject).lines o = 1 := by
  have h := (Coherent.of_bindsNothing hb).of_reachable hc hreach
  refine ⟨fun o ho hself => h.once o (.of_isIdentifier ho hself), ?_⟩
  rintro variant - subject rfl - hw hv o hmem
  have hbound := isBound_of_completed hv (fun o ho => (hw.distinct.2 o ho).unbroken) hmem
  have hpos : boundTimes (run variant lines subject).lines o ≠ 0 :=
    mt boundTimes_eq_zero_iff.1 (by simp [hbound])
  have hle := (h.run_lines hc hw.distinct).once o (hw.distinct.2 o hmem)
  omega

/-- A file with a search bar is wired under one variant, a label whose name starts with that of the
bar is declared, and the file is wired under the other. -/
theorem session_binds_once_searchBar :
    let start : Lines := ["class BarView: UIView \x7b\n", outletLine "bar" "UISearchBar", "\x7d\n"]
    let wired := (run .dev start { className := "BarView" }).lines
    let edited := wired.take 2 ++ outletLine "barTitle" "UILabel" :: wired.drop 2
    Relation.ReflTransGen (Step "BarView" .view) start edited ∧
      boundTimes edited ⟨"barTitle", "UILabel"⟩ ≤ 1 ∧
      boundTimes (run .qa edited { className := "BarView" }).lines ⟨"bar", "UISearchBar"⟩ = 1 := by
  intro start wired edited
  have hrun : Step "BarView" .view start wired :=
    .run (by simp [Catalogue.standard]) rfl rfl (by decide)
  have hinsert : wired.insert? 2 (outletLine "barTitle" "UILabel") = some edited := by
    decide
  have hdeclare : Step "BarView" .view wired edited := .declare (by decide) (by decide) hinsert
  have hreach := (Relation.ReflTransGen.single hrun).tail hdeclare
  obtain ⟨honce, hcompleted⟩ := session_binds_once (by decide) (by decide) hreach
  exact ⟨hreach, honce _ (by decide) (by decide),
    hcompleted .qa (by simp [Catalogue.standard]) _ rfl rfl (by decide) (by decide)
      _ (by decide)⟩

end OutletWiring.IdentifierSetter

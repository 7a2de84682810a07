import OutletWiring.Proofs.Run.WellCut
import OutletWiring.Proofs.Setter.Unseen

/-!
# Outlets of layout constraints have no effect

A run is compared with the run on the same lines with the outlet of a layout constraint among them.
Each stage comes to the same end on both and leaves the same lines but for that one, so the whole
runs do (`runAll_cons_alike`), and the reports are equal. The one place left out is right behind the
declaration of the enum that the run extends (`enumFound?`), where the line would part it from its
section comment.
-/

namespace OutletWiring

open Lines (Drifts EndsIn Led Settled Uniform)

theorem Line.endsIn_constraintOutlet (indent name : Text) (mark : Lines.Ending) :
    EndsIn mark (constraintOutlet indent name mark) := by
  refine Lines.endsIn_append ?_ mark
  rw [List.getLast?_append_of_ne_nil _ (by simp)]
  decide

/-- What is made of related values is related. -/
theorem rel_map {α β : Type} {r : α → α → Prop} {q : β → β → Prop} {f g : α → β} {a b : Option α}
    (h : Option.Rel r a b) (hf : ∀ x y, r x y → q (f x) (g y)) :
    Option.Rel q (a.map f) (b.map g) := by
  cases h with
  | none => exact .none
  | some h => exact .some (hf _ _ h)

namespace PageObject

variable {variant : Variant} {lines : Lines} {line : Text} {index : Nat} {subject : Subject}
  {mark : Lines.Ending}

theorem run_inserted (hl : EndsIn mark line) (hi : index < lines.length) (h : Led mark lines) :
    Stage.Alike line index index lines (run variant lines subject)
      (run variant (lines.inserted index line) subject) := by
  unfold run runM
  split_ifs
  · exact ⟨rfl, rfl, fun _ => .refl index lines, fun _ => rfl⟩
  · exact ⟨rfl, rfl, fun _ => .refl index lines, fun _ => rfl⟩
  · exact ⟨rfl, rfl, fun _ => .appendBlock _,
      fun _ => Lines.appendBlock_inserted hi h hl _⟩

end PageObject

namespace Stage

variable {variant : Variant} {lines others : Lines} {line : Text} {index landing : Nat}
  {subject : Subject} {mark : Lines.Ending}

/-- Two outcomes: of lines, and of the same lines with one more. They differ by that line alone. -/
structure Outcome.Alike (line : Text) (index : Nat) (lines : Lines) (outcome other : Outcome) :
    Prop where
  subject : other.subject = outcome.subject
  completed : other.completed = outcome.completed
  declined : other.declined? = outcome.declined?
  inserted : ∃ landing, Drifts index landing lines outcome.lines ∧
    other.lines = outcome.lines.inserted landing line

/-- Stages end alike if the first does and, where it completes, the others do on what it leaves. -/
theorem runAll_cons_alike {stage : Stage} {stages : List Stage}
    (h : Alike line index landing lines (stage.apply variant lines subject)
      (stage.apply variant others subject))
    (hrest : (stage.apply variant lines subject).verdict = .completed →
      Option.Rel (Outcome.Alike line landing (stage.apply variant lines subject).lines)
        (runAll variant (stage.apply variant lines subject).lines
          (stage.apply variant lines subject).subject stages)
        (runAll variant ((stage.apply variant lines subject).lines.inserted landing line)
          (stage.apply variant lines subject).subject stages)) :
    Option.Rel (Outcome.Alike line index lines) (runAll variant lines subject (stage :: stages))
      (runAll variant others subject (stage :: stages)) := by
  obtain ⟨hsubject, hverdict, hdrifts, hinserted⟩ := h
  rw [runAll_cons, runAll_cons]
  simp only [hverdict, hsubject]
  cases hv : (stage.apply variant lines subject).verdict with
  | stuck => exact .none
  | declined reason =>
    have hnot : (stage.apply variant lines subject).verdict ≠ .stuck := by simp [hv]
    exact .some ⟨rfl, rfl, rfl, landing, hdrifts hnot, hinserted hnot⟩
  | completed =>
    have hnot : (stage.apply variant lines subject).verdict ≠ .stuck := by simp [hv]
    simp only [hinserted hnot]
    refine rel_map (hrest hv) fun rest other halike => ?_
    obtain ⟨hsubject', hcompleted, hdeclined, final, hdrift, hlines⟩ := halike
    exact ⟨hsubject', congrArg (stage :: ·) hcompleted, hdeclined, final,
      (hdrifts hnot).trans hdrift, hlines⟩

/-- Where a line after the conformance stage stood before it. -/
def origin (variant : Variant) (lines : Lines) (place : Nat) : Nat :=
  (Conformance.importPlace? variant lines).elim place fun imported =>
    if imported < place then place - 1 else place

/-- Where the enum is declared that a run adds cases to. -/
def enumFound? (variant : Variant) (lines : Lines) : Option Nat :=
  (IdentifierSetter.enumFound? variant (conformed variant lines).lines
    (conformed variant lines).subject).map (origin variant lines)

theorem ne_landed {place : Nat} (h : origin variant lines place + 1 ≠ index) :
    place + 1 ≠ Conformance.landed variant lines index := by
  unfold origin at h
  unfold Conformance.landed
  cases hp : Conformance.importPlace? variant lines with
  | none => simpa [hp] using h
  | some imported =>
    simp only [hp, Option.elim_some, Lines.pushed] at h ⊢
    split_ifs at h ⊢ <;> omega

/-- A full run passes an unseen line over. -/
theorem sequence_inserted (hv : variant ∈ Catalogue.standard) (h : Uniform mark lines)
    (hu : Line.Unseen line) (hl : EndsIn mark line) (hi : index < lines.length)
    (hne : ∀ place ∈ enumFound? variant lines, place + 1 ≠ index) :
    Option.Rel (Outcome.Alike line index lines) (sequence variant standard lines)
      (sequence variant standard (lines.inserted index line)) := by
  have hlines : lines ≠ [] := List.ne_nil_of_length_pos (by omega)
  have hled : Led mark lines := by
    obtain ⟨first, hfirst⟩ := List.exists_mem_of_ne_nil _ hlines
    exact ⟨⟨first, hfirst, (h first hfirst).1⟩, h.ending_eq hlines⟩
  have hfirst := Conformance.run_inserted (Conformance.importable_of_mem_standard hv) hu hi
    (hled.ending_inserted hl index) {}
  refine runAll_cons_alike hfirst fun hcompleted => ?_
  have hnot : (conformed variant lines).verdict ≠ .stuck := ne_of_eq_of_ne hcompleted (by decide)
  obtain ⟨edited, hconformed⟩ := Conformance.conformed_run hnot
  -- one line may have lost its terminator, but none that decides how the next blocks end
  have hsettled : Settled mark (conformed variant lines).lines :=
    hconformed.settled h (Catalogue.worded_of_mem_standard hv).1
  have hlanded := (hfirst.drifts hnot).lt_length hi
  have henum : ∀ place ∈ IdentifierSetter.enumFound? variant (conformed variant lines).lines
      (conformed variant lines).subject, place + 1 ≠ Conformance.landed variant lines index :=
    fun place hplace => ne_landed (hne _ (Option.mem_map_of_mem _ hplace))
  obtain ⟨⟨landing, hsecond⟩, hwritten⟩ := IdentifierSetter.run_inserted hu hl hlanded hsettled
    (Conformance.not_mem_className variant lines) henum
  refine runAll_cons_alike hsecond fun hcompleted' => ?_
  have hlanding := (hsecond.drifts (ne_of_eq_of_ne hcompleted' (by decide))).lt_length hlanded
  refine runAll_cons_alike (PageObject.run_inserted hl hlanding (hwritten hcompleted')) fun _ => ?_
  exact .some ⟨rfl, rfl, rfl, _, .refl _ _, rfl⟩

end Stage

namespace Variant

variable {variant : Variant} {lines others : Lines} {indent name : Text} {index : Nat}
  {mark : Lines.Ending}

theorem report_eq_of_alike {line : Text} {outcome other : Stage.Outcome}
    (h : outcome.Alike line index lines other) (hi : index ≤ lines.length) :
    variant.report (lines.inserted index line) other = variant.report lines outcome := by
  obtain ⟨hsubject, hcompleted, hdeclined, landing, hdrift, hlines⟩ := h
  have hchanged : (other.lines != lines.inserted index line) = (outcome.lines != lines) := by
    rw [hlines, Bool.eq_iff_iff, bne_iff_ne, bne_iff_ne]
    exact not_congr (hdrift.inserted_eq_iff hi)
  simp only [report, hsubject, hcompleted, hdeclined, hchanged]

/-- The outlet of a layout constraint has no effect on a run, at any place but right behind the enum
that the run extends: the run is stuck on both files or on neither, gives the same report, and the
lines that it leaves are the same once the outlet is taken out. -/
theorem run_ignores_constraintOutlet (hv : variant ∈ Catalogue.standard) (h : Uniform mark lines)
    (hindent : Line.IsIndent indent) (hname : Naming.IsIdentifier name) (hi : index < lines.length)
    (hne : ∀ place ∈ Stage.enumFound? variant lines, place + 1 ≠ index)
    (ho : lines.insert? index (Line.constraintOutlet indent name mark) = some others) :
    Option.Rel
      (fun generated other => other.report = generated.report ∧
        ∃ place, other.lines.remove? place =
          some (Line.constraintOutlet indent name mark, generated.lines))
      (variant.run lines) (variant.run others) := by
  obtain ⟨-, rfl⟩ := Lines.insert?_eq_some_iff.1 ho
  have hsequence := Stage.sequence_inserted hv h (Line.unseen_constraintOutlet hindent hname)
    (Line.endsIn_constraintOutlet indent name mark) hi hne
  refine rel_map hsequence fun outcome other halike => ?_
  obtain ⟨landing, hdrift, hlines⟩ := halike.inserted
  refine ⟨report_eq_of_alike halike (Nat.le_of_lt hi), landing, ?_⟩
  simp only [hlines]
  exact Lines.remove?_inserted (Nat.le_of_lt (hdrift.lt_length hi))

/-- A controller that is wired already, with an interface protocol, an import and an enum, and one
outlet more than it binds. -/
def loginBefore : Lines :=
  ["import UIKit\r\n", "protocol LoginView: AnyObject \x7b\r\n", "\x7d\r\n",
    "class LoginViewController: UIViewController \x7b\r\n",
    "\t@IBOutlet weak var name: UILabel!\r\n", "\t@IBOutlet weak var next: UIButton!\r\n",
    "\tfunc setAccessibilityIdentifiers() \x7b\r\n", "\t\tmakeViewTestable(name, using: .name)\r\n",
    "\t\x7d\r\n", "\x7d\r\n", "enum LoginViewControllerElements: String, UIElement \x7b\r\n",
    "\t\t// MARK: - LoginViewController\r\n", "\t\tcase name\r\n", "\x7d\r\n"]

/-- The outlet stands between the section comment of the enum and its first case, where the new case
goes in. -/
theorem run_ignores_constraintOutlet_loginBefore :
    Stage.enumFound? .dev loginBefore = some 10 ∧
      ∃ others ∈ loginBefore.insert? 12 (Line.constraintOutlet "  \t" "height" .returnNewline),
        Option.Rel
          (fun generated other => other.report = generated.report ∧
            ∃ place, other.lines.remove? place =
              some (Line.constraintOutlet "  \t" "height" .returnNewline, generated.lines))
          (run .dev loginBefore) (run .dev others) ∧
        (run .dev loginBefore).any (·.report.outlets = ["next".toList]) = true := by
  have hsample : Stage.enumFound? .dev loginBefore = some 10 ∧
      (run .dev loginBefore).any (·.report.outlets = ["next".toList]) = true := by
    decide +kernel
  obtain ⟨hfound, hnext⟩ := hsample
  have hi : 12 < loginBefore.length := by decide
  refine ⟨hfound, _, rfl, ?_, hnext⟩
  have huniform : Uniform .returnNewline loginBefore := by decide +kernel
  refine run_ignores_constraintOutlet (by decide) huniform (by decide) (by decide) hi ?_ rfl
  intro place hplace
  rw [hfound, Option.mem_some] at hplace
  omega

end Variant

end OutletWiring

import OutletWiring.Lines.Basic

/-!
# Laying out text

A draft collects the lines of a block that is being written. A block is described by the steps that
lay it out; the lines of the block are what the steps make of an empty draft. Where every step lays
out whole lines, the block is the lines of its steps one after the other
(`compose_eq_flatMap_rows`).
-/

namespace OutletWiring

/-- Finished lines, each with its newline, and the text of the line being written. -/
structure Draft where
  finished : Lines := []
  pending : Text := []
  deriving DecidableEq

namespace Draft

def push (draft : Draft) (text : Text) : Draft :=
  { draft with pending := draft.pending ++ text }

def newline (draft : Draft) : Draft :=
  ⟨draft.finished ++ [draft.pending ++ ['\n']], []⟩

def indent (draft : Draft) (level : Nat) : Draft :=
  draft.push (List.replicate level '\t')

def line (draft : Draft) (level : Nat) (text : Text) : Draft :=
  ((draft.indent level).push text).newline

/-- The entries of a bracketed list, one a line, with a comma after each but the last. -/
def listed (opening continuation closing : Text) : List Text → List Text
  | [] => []
  | [entry] => [opening ++ entry ++ closing]
  | entry :: entries =>
    (opening ++ entry ++ ",") :: listed continuation continuation closing entries

def lines (draft : Draft) (level : Nat) (texts : List Text) : Draft :=
  texts.foldl (·.line level ·) draft

/-- The lines of a finished draft; a line being written is finished if it is not empty. -/
def finish (draft : Draft) : Lines :=
  if draft.pending.isEmpty then draft.finished else draft.newline.finished

inductive Step where
  | push (text : Text)
  | newline
  | indent (level : Nat)
  | line (level : Nat) (text : Text)
  | blank
  | list (level : Nat) (opening : Text) (entries : List Text) (continuation closing : Text)

def run (draft : Draft) : Step → Draft
  | .push text => draft.push text
  | .newline => draft.newline
  | .indent level => draft.indent level
  | .line level text => draft.line level text
  | .blank => draft.newline
  | .list level opening entries continuation closing =>
    draft.lines level (listed opening continuation closing entries)

def runAll (draft : Draft) (steps : List Step) : Draft :=
  steps.foldl run draft

def compose (steps : List Step) : Lines :=
  (runAll {} steps).finish

/-- A text at an indentation level, as a line. -/
def row (level : Nat) (text : Text) : Text :=
  List.replicate level '\t' ++ text ++ ['\n']

theorem line_of_pending_nil (done : Lines) (level : Nat) (text : Text) :
    line ⟨done, []⟩ level text = ⟨done ++ [row level text], []⟩ := by
  simp [line, indent, push, newline, row]

theorem lines_of_pending_nil (done : Lines) (level : Nat) (texts : List Text) :
    lines ⟨done, []⟩ level texts = ⟨done ++ texts.map (row level), []⟩ := by
  induction texts generalizing done with
  | nil => simp [lines]
  | cons text texts ih => simp_all [lines, line_of_pending_nil]

namespace Step

def whole : Step → Bool
  | line .. | blank | list .. => true
  | _ => false

/-- The lines of a step that lays out whole lines. -/
def rows : Step → Lines
  | line level text => [row level text]
  | blank => [row 0 []]
  | list level opening entries continuation closing =>
    (listed opening continuation closing entries).map (row level)
  | _ => []

end Step

theorem run_of_whole (done : Lines) {step : Step} (h : step.whole = true) :
    run ⟨done, []⟩ step = ⟨done ++ step.rows, []⟩ := by
  cases step with
  | line level text => exact line_of_pending_nil done level text
  | blank => simp [run, newline, Step.rows, row]
  | list level opening entries continuation closing =>
    exact lines_of_pending_nil done level _
  | _ => simp [Step.whole] at h

theorem runAll_of_whole (done : Lines) {steps : List Step} (h : ∀ step ∈ steps, step.whole = true) :
    runAll ⟨done, []⟩ steps = ⟨done ++ steps.flatMap Step.rows, []⟩ := by
  induction steps generalizing done with
  | nil => simp [runAll]
  | cons step steps ih =>
    have hstep := run_of_whole done (h step (by simp))
    have hrest := ih (done ++ step.rows) fun s hs => h s (by simp [hs])
    simp_all [runAll]

theorem compose_eq_flatMap_rows {steps : List Step} (h : ∀ step ∈ steps, step.whole = true) :
    compose steps = steps.flatMap Step.rows := by
  have := runAll_of_whole [] h
  simp_all [compose, finish]

end Draft

end OutletWiring

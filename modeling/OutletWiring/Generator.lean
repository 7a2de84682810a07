import OutletWiring.Stage.Sequence

/-!
# Generators

A full run of a variant over the lines of one file, its report, and the catalogue of variants from
which a run is chosen by selector.
-/

namespace OutletWiring

structure Report where
  selector : Text
  className? : Option Text
  viewKind? : Option ViewKind
  alreadyGenerated : Bool
  outlets : List Text
  completed : List Stage
  declined? : Option Stage.Declined
  changed : Bool
  deriving DecidableEq

namespace Report

/-- Every stage ran to its end. -/
def isComplete (report : Report) : Bool :=
  report.declined?.isNone

end Report

structure Generated where
  lines : Lines
  report : Report
  events : List Event
  deriving DecidableEq

namespace Variant

/-- The report of a run that started from `before`. -/
def report (variant : Variant) (before : Lines) (outcome : Stage.Outcome) : Report where
  selector := variant.selector
  className? := if outcome.subject.hasClass then some outcome.subject.className else none
  viewKind? := if outcome.subject.hasClass then some outcome.subject.viewKind else none
  alreadyGenerated := outcome.subject.alreadyGenerated
  outlets := outcome.subject.outlets.map Outlet.name
  completed := outcome.completed
  declined? := outcome.declined?
  changed := outcome.lines != before

/-- Run all stages of a variant; nothing if a stage is stuck. -/
def run (variant : Variant) (lines : Lines) : Option Generated :=
  (Stage.sequence variant Stage.standard lines).map fun outcome =>
    let report := variant.report lines outcome
    ⟨outcome.lines, report, outcome.events ++
      [.runFinished variant.selector outcome.subject.className report.changed]⟩

end Variant

abbrev Catalogue := List Variant

namespace Catalogue

def standard : Catalogue := [Variant.dev, Variant.qa]

def resolve? (catalogue : Catalogue) (selector : Text) : Option Variant :=
  catalogue.find? (·.selector == selector)

def selectors (catalogue : Catalogue) : List Text :=
  catalogue.map Variant.selector

end Catalogue

inductive Failure where
  | unknownSelector
  | stuck
  deriving DecidableEq

def Catalogue.dispatch (catalogue : Catalogue) (selector : Text) (lines : Lines) :
    Except Failure Generated :=
  match catalogue.resolve? selector with
  | none => .error .unknownSelector
  | some variant =>
    match variant.run lines with
    | none => .error .stuck
    | some generated => .ok generated

/-- Run the standard variant with the selector over the text of a source file. -/
def generate (source selector : Text) : Except Failure (Text × Report) :=
  (Catalogue.standard.dispatch selector (Lines.ofText source)).map fun generated =>
    (generated.lines.toText, generated.report)

end OutletWiring

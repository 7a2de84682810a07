import OutletWiring.Stage.Conformance
import OutletWiring.Stage.IdentifierSetter
import OutletWiring.Stage.PageObject

/-!
# Stages in sequence

Stages run one after the other on the same lines and subject, up to the first that declines. What
the stages before it wrote is kept.
-/

namespace OutletWiring

namespace Stage

def applyM {m : Type → Type} [Monad m] [Reach m] (stage : Stage) (variant : Variant)
    (lines : Lines) (subject : Subject) : m Result :=
  match stage with
  | conformance => Conformance.runM variant lines subject
  | identifierSetter => IdentifierSetter.runM variant lines subject
  | pageObject => PageObject.runM variant lines subject

def apply (stage : Stage) (variant : Variant) (lines : Lines) (subject : Subject) : Result :=
  Id.run (stage.applyM variant lines subject)

def standard : List Stage := [conformance, identifierSetter, pageObject]

structure Declined where
  stage : Stage
  reason : Reason
  deriving DecidableEq

structure Outcome where
  lines : Lines
  subject : Subject
  completed : List Stage
  declined? : Option Declined
  events : List Event
  deriving DecidableEq

/-- Run the stages in turn; no outcome if one is stuck. -/
def runAllM {m : Type → Type} [Monad m] [Reach m] (variant : Variant) (lines : Lines)
    (subject : Subject) : List Stage → m (Option Outcome)
  | [] => return some ⟨lines, subject, [], none, []⟩
  | stage :: stages => do
    let result ← stage.applyM variant lines subject
    match result.verdict with
    | .completed =>
      let rest ← runAllM variant result.lines result.subject stages
      return rest.map fun rest =>
        { rest with
          completed := stage :: rest.completed
          events := result.events ++ .stageCompleted stage variant.selector :: rest.events }
    | .declined reason =>
      return some ⟨result.lines, result.subject, [], some ⟨stage, reason⟩,
        result.events ++ [.stageDeclined stage variant.selector reason]⟩
    | .stuck => return none

def runAll (variant : Variant) (lines : Lines) (subject : Subject) (stages : List Stage) :
    Option Outcome :=
  Id.run (runAllM variant lines subject stages)

theorem runAll_nil (variant : Variant) (lines : Lines) (subject : Subject) :
    runAll variant lines subject [] = some ⟨lines, subject, [], none, []⟩ :=
  rfl

theorem runAll_cons (variant : Variant) (lines : Lines) (subject : Subject) (stage : Stage)
    (stages : List Stage) :
    runAll variant lines subject (stage :: stages) =
      let result := stage.apply variant lines subject
      match result.verdict with
      | .completed =>
        (runAll variant result.lines result.subject stages).map fun rest =>
          { rest with
            completed := stage :: rest.completed
            events := result.events ++ .stageCompleted stage variant.selector :: rest.events }
      | .declined reason =>
        some ⟨result.lines, result.subject, [], some ⟨stage, reason⟩,
          result.events ++ [.stageDeclined stage variant.selector reason]⟩
      | .stuck => none :=
  rfl

/-- Run stages on lines of which nothing is known. -/
def sequence (variant : Variant) (stages : List Stage) (lines : Lines) : Option Outcome :=
  runAll variant lines {} stages

end Stage

end OutletWiring

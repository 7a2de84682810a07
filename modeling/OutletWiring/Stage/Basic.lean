import OutletWiring.Lines.Basic
import OutletWiring.Subject

/-!
# Stages of a run

A run goes through stages. A stage changes the lines and adds to what is known of the subject, or
it declines and leaves the lines as they were. What a run does is told as events.
-/

namespace OutletWiring

/-- The stages, in the order of a full run. -/
inductive Stage where
  | conformance
  | identifierSetter
  | pageObject
  deriving DecidableEq

namespace Stage

def word : Stage → Text
  | conformance => "conformance"
  | identifierSetter => "identifier_setter"
  | pageObject => "page_object"

end Stage

inductive Reason where
  | emptyBuffer
  | noClassDeclaration
  | noOutlets
  deriving DecidableEq

namespace Reason

def word : Reason → Text
  | emptyBuffer => "empty_buffer"
  | noClassDeclaration => "no_class_declaration"
  | noOutlets => "no_outlets"

def message : Reason → Text
  | emptyBuffer => "buffer is empty"
  | noClassDeclaration => "no class declaration found"
  | noOutlets => "no outlets to wire"

end Reason

inductive Event where
  | capabilityAdded (index : Nat)
  | alreadyBound (outlet : Text)
  | bound (outlet : Text)
  | stageCompleted (stage : Stage) (selector : Text)
  | stageDeclined (stage : Stage) (selector : Text) (reason : Reason)
  /-- A run over one file ended; the class name is empty if no class was found. -/
  | runFinished (selector className : Text) (changed : Bool)
  deriving DecidableEq

namespace Stage

inductive Verdict where
  | completed
  | declined (reason : Reason)
  /-- The declaration has too few words left to take the capability. -/
  | stuck
  deriving DecidableEq

/-- The lines and the subject after a stage, how it ended, and what happened in it. A stage that
did not complete keeps what it had found out about the subject until then. -/
structure Result where
  lines : Lines
  subject : Subject
  verdict : Verdict
  events : List Event := []
  deriving DecidableEq

end Stage

end OutletWiring

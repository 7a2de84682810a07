import OutletWiring.Naming
import OutletWiring.Outlet
import OutletWiring.ViewKind

/-! What one run has found out about the class that it wires, stage by stage. -/

namespace OutletWiring

structure Subject where
  /-- The name of the class; empty as long as none is known. -/
  className : Text := []
  viewKind : ViewKind := .view
  outlets : List Outlet := []
  /-- The file had a setter of the identifiers before this run. -/
  alreadyGenerated : Bool := false
  enumName : Text := []
  deriving DecidableEq

namespace Subject

def hasClass (subject : Subject) : Bool :=
  !subject.className.isEmpty

def accessorStem (subject : Subject) : Text :=
  Naming.accessorStem subject.className

def screenStem (subject : Subject) : Text :=
  Naming.screenStem subject.className

def cellIdentifier (subject : Subject) : Text :=
  Naming.cellIdentifier subject.className

/-- A cell gets an identifier of its own when it is wired for the first time. -/
def identifiesCell (subject : Subject) : Bool :=
  subject.viewKind == .cell && !subject.alreadyGenerated

/-- The cases of the identifier enum: those of the outlets in order, then that of the cell. -/
def cases (subject : Subject) : List Text :=
  subject.outlets.flatMap Outlet.cases ++
    if subject.identifiesCell then [subject.cellIdentifier] else []

end Subject

end OutletWiring

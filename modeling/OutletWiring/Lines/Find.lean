import OutletWiring.Line.Declaration
import OutletWiring.Lines.Basic

/-! The place of a declaration is the index of the first line that makes it. -/

namespace OutletWiring.Lines

def findKind? (kind : Line.Kind) (lines : Lines) : Option Nat :=
  lines.findIdx? (Line.kind · == kind)

structure ClassDeclaration where
  name : Text
  index : Nat
  deriving DecidableEq

/-- If no name can be read off the first class declaration there is no class, whatever follows. -/
def classDeclaration? (lines : Lines) : Option ClassDeclaration := do
  let index ← lines.findKind? .classDeclaration
  let line ← lines[index]?
  let name ← Line.className? line
  return ⟨name, index⟩

def setter? (lines : Lines) : Option Nat :=
  lines.findKind? .setterSignature

def firstImport? (lines : Lines) : Option Nat :=
  lines.findKind? .moduleImport

def protocol? (name : Text) (lines : Lines) : Option Nat :=
  lines.findIdx? (Line.declaresProtocol name)

def enum? (name : Text) (lines : Lines) : Option Nat :=
  lines.findIdx? (Line.declaresEnum name)

/-- The enum named by the first typealias that names one. -/
def typealiasTarget? (lines : Lines) : Option Text :=
  lines.findSome? Line.typealiasTarget?

/-- The outlets that the lines declare, in their order and with repetitions. -/
def outlets (lines : Lines) : List Outlet :=
  (lines.filter (Line.kind · == .outlet)).filterMap Line.outlet?

end OutletWiring.Lines

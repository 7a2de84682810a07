import OutletWiring.Draft
import OutletWiring.Line.Kind
import OutletWiring.Subject
import OutletWiring.Variant

/-! How a page object names the element of an outlet and looks it up by its identifier. -/

namespace OutletWiring.Page

inductive Scope where
  | app
  | cell (accessor : Text)

def Scope.root : Scope → Text
  | app => "app"
  | cell accessor => accessor ++ "(at: index)"

/-- The identifier of a case of the subject's enum. -/
def identifier (subject : Subject) (name : Text) : Text :=
  Line.Mark.elements ++ subject.enumName ++ "." ++ name ++ ".rawValue"

/-- The expression that finds the element of an outlet. -/
def lookup (variant : Variant) (subject : Subject) (scope : Scope) (outlet : Outlet) : Text :=
  match outlet.kind variant.prominentButton? with
  | .prominentButton =>
    scope.root ++ ".buttons.element(matching: .button, identifier: " ++
      identifier subject outlet.name ++ ")"
  | kind => scope.root ++ "." ++ kind.query ++ "[" ++ identifier subject outlet.name ++ "]"

/-- The accessor of an outlet: the stem of the class, then the name of the outlet. -/
def accessor (subject : Subject) (outlet : Outlet) : Text :=
  subject.accessorStem ++ Text.upperFirst outlet.name

def accessors (subject : Subject) : List Text :=
  subject.outlets.map (accessor subject)

def isTappable (variant : Variant) (outlet : Outlet) : Bool :=
  (outlet.kind variant.prominentButton?).tappable

def tappable (variant : Variant) (subject : Subject) : List Outlet :=
  subject.outlets.filter (isTappable variant)

/-- The blocks one after the other, with a blank line between neighbours. -/
def separated : List (List Draft.Step) → List Draft.Step
  | [] => []
  | [block] => block
  | block :: blocks => block ++ .blank :: separated blocks

end OutletWiring.Page

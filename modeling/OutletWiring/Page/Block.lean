import OutletWiring.Line.Declaration
import OutletWiring.Page.Cell
import OutletWiring.Page.Screen
import OutletWiring.Page.View

/-! The page object of a subject by its kind, and the block in which it is added to a file. -/

namespace OutletWiring.Page

/-- The modules that a page object imports besides the test framework. -/
def modules (variant : Variant) : ViewKind → List Text
  | .view => variant.viewModules
  | .viewController => []
  | .cell => []

def fresh (variant : Variant) (subject : Subject) : Lines :=
  match subject.viewKind with
  | .view => View.fresh variant subject
  | .viewController => Screen.fresh variant subject
  | .cell => Cell.fresh variant subject

def extension (variant : Variant) (subject : Subject) : Lines :=
  match subject.viewKind with
  | .view => View.extension variant subject
  | .viewController => Screen.extension variant subject
  | .cell => Cell.extension variant subject

/-- What stands before a page object: a blank line, and the imports of a new one. -/
def header (variant : Variant) (subject : Subject) : Lines :=
  Draft.compose (
    .blank ::
    if subject.alreadyGenerated then []
    else
      [.line 0 "import XCTest"] ++
      ((modules variant subject.viewKind).map fun module => .line 0 ("import " ++ module)) ++
      [.blank])

/-- The block that is added to a file for the outlets wired in this run. -/
def block (variant : Variant) (subject : Subject) : Lines :=
  header variant subject ++
    if subject.alreadyGenerated then extension variant subject else fresh variant subject

end OutletWiring.Page

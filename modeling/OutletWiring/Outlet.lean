import OutletWiring.Text.Basic

/-!
# Outlets and the elements they stand for

An outlet is a named reference to an element of a view. Its declared type decides how a test finds
the element and how the outlet is bound to its identifier.
-/

namespace OutletWiring

/-- The kind of element that a test query resolves an outlet to. -/
inductive ElementKind where
  | button
  | image
  | textField
  | textView
  | staticText
  | collection
  | table
  | scrollView
  | switch
  /-- A branded button, found by element type and identifier. -/
  | prominentButton
  | other
  deriving DecidableEq

namespace ElementKind

def standard : List (Text × ElementKind) := [
  ("UIButton", button),
  ("UIImageView", image),
  ("UITextField", textField),
  ("UITextView", textView),
  ("UILabel", staticText),
  ("UICollectionView", collection),
  ("UITableView", table),
  ("UIScrollView", scrollView),
  ("UISwitch", switch)]

/-- The kind of a declared type, where `prominent?` names the type of branded buttons. -/
def ofType (prominent? : Option Text) (type : Text) : ElementKind :=
  match standard.lookup type with
  | some kind => kind
  | none => if prominent? = some type then prominentButton else other

/-- The constructor of the element in a page that holds its elements itself. -/
def constructorName : ElementKind → Text
  | button | prominentButton => "button"
  | image => "image"
  | textField => "textField"
  | textView => "textView"
  | staticText => "staticText"
  | collection => "collection"
  | table => "table"
  | scrollView => "scrollView"
  | switch => "switches"
  | other => "otherElement"

def query : ElementKind → Text
  | button | prominentButton => "buttons"
  | image => "images"
  | textField => "textFields"
  | textView => "textViews"
  | staticText => "staticTexts"
  | collection => "collectionViews"
  | table => "tables"
  | scrollView => "scrollViews"
  | switch => "switches"
  | other => "otherElements"

def tappable : ElementKind → Bool
  | button | prominentButton => true
  | _ => false

end ElementKind

structure Outlet where
  name : Text
  type : Text
  deriving DecidableEq

namespace Outlet

/-- The type of outlets that are never wired. -/
def layoutConstraint : Text := "NSLayoutConstraint"

/-- The type of the outlet that stands for the root view of a controller. -/
def rootView : Text := "MainView"

def isSearchBar (outlet : Outlet) : Bool :=
  outlet.type == "UISearchBar"

def isRootView (outlet : Outlet) : Bool :=
  outlet.type == rootView

def kind (prominent? : Option Text) (outlet : Outlet) : ElementKind :=
  ElementKind.ofType prominent? outlet.type

/-- The expression that is bound to the identifier of the outlet. -/
def target (outlet : Outlet) : Text :=
  if outlet.isRootView then ("self.view" : Text) else outlet.name

def textFieldCase (outlet : Outlet) : Text :=
  outlet.name ++ "TextField"

/-- The identifiers of the outlet: its own, then that of its text field if it is a search bar. -/
def cases (outlet : Outlet) : List Text :=
  if outlet.isSearchBar then [outlet.name, outlet.textFieldCase] else [outlet.name]

end Outlet

end OutletWiring

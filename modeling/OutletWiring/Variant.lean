import OutletWiring.Naming

/-!
# Generator variants

A variant is chosen by its selector. It decides how the identifier enum is named, which outlets are
wired, and what the page objects look like.
-/

namespace OutletWiring

/-- How the identifier enum of a class that is wired already is named. -/
inductive EnumNaming where
  /-- As the typealias in the file says. -/
  | typealiased
  /-- As for a class that is wired for the first time. -/
  | derived
  deriving DecidableEq

inductive PageStyle where
  /-- A controller gets one page class; a cell gets a protocol with default implementations. -/
  | inline
  /-- A controller gets a screen class and extensions; a cell gets a protocol and a class. -/
  | screenSplit
  deriving DecidableEq

namespace PageStyle

def viewBase : PageStyle → Text
  | inline => "Page2"
  | screenSplit => "Page"

def cellBase : PageStyle → Text
  | inline => "Page1"
  | screenSplit => "BaseScreen"

end PageStyle

structure Variant where
  selector : Text
  enumNaming : EnumNaming
  pageStyle : PageStyle
  dropsConstraintNames : Bool
  wiresRootView : Bool
  prominentButton? : Option Text
  frameworkModule? : Option Text
  viewModules : List Text
  deriving DecidableEq

namespace Variant

def dev : Variant where
  selector := "fordev"
  enumNaming := .typealiased
  pageStyle := .inline
  dropsConstraintNames := false
  wiresRootView := false
  prominentButton? := none
  frameworkModule? := some "AccessibilityKit"
  viewModules := []

def qa : Variant where
  selector := "forqa"
  enumNaming := .derived
  pageStyle := .screenSplit
  dropsConstraintNames := true
  wiresRootView := true
  prominentButton? := some "DolapButton"
  frameworkModule? := none
  viewModules := ["AccessibilityKit", "UITestBaseKit"]

def freshEnumName (className : Text) : Text :=
  Naming.screenStem className ++ "AccessibilityIdentifier"

/-- The enum of a class that is wired already; `typealias?` is what the file names it. -/
def existingEnumName (variant : Variant) (className : Text) (typealias? : Option Text) : Text :=
  match variant.enumNaming with
  | .typealiased => typealias?.getD (className ++ "Elements")
  | .derived => freshEnumName className

end Variant

end OutletWiring

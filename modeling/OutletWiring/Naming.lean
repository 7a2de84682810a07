import OutletWiring.Text.Case

/-!
# Names derived from a class name

Every identifier that is written, and the name of the protocol that is looked for, comes from the
name of the class being wired by one of the rules below.
-/

namespace OutletWiring.Naming

/-- The name without leading upper case characters as long as the first two are upper case. -/
def dropCapitals : Text → Text
  | first :: second :: rest =>
    if Letter.isUppercase first && Letter.isUppercase second then dropCapitals (second :: rest)
    else first :: second :: rest
  | name => name

/-- The name without a module mark of capitals: `XYZLoginView` becomes `LoginView`. -/
def withoutModuleMark (name : Text) : Text :=
  if (name.take 3).any Letter.isLowercase then name else dropCapitals name

/-- The first part of the accessors of a page object. -/
def accessorStem (className : Text) : Text :=
  Text.lowerFirst (withoutModuleMark className)

/-- The identifier of a cell itself: of the capitals in front only the last one stays. -/
def cellIdentifier (className : Text) : Text :=
  match (className.takeWhile Letter.isUppercase).getLast? with
  | some capital => Letter.lower capital ++ className.dropWhile Letter.isUppercase
  | none => className

/-- The stem of page and enum names: the class name without `ViewController`. -/
def screenStem (className : Text) : Text :=
  Text.erase "ViewController" className

/-- The name of the protocol that the view of a controller is expected to implement. -/
def viewProtocol (className : Text) : Text :=
  Text.erase "Controller" className

def rootViewIdentifier (className : Text) : Text :=
  Text.lowerFirst (viewProtocol className)

end OutletWiring.Naming

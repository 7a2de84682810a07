import OutletWiring.Text.Blank

/-!
# Kinds of source lines

A source file is never parsed. Each fact about it is read off single lines, by the marks below,
which have to stand in the line character for character.
-/

namespace OutletWiring.Line

namespace Mark

def outlet : Text := "@IBOutlet"

def classWord : Text := "class"

def protocolWord : Text := "protocol"

def importWord : Text := "import"

def capability : Text := "AccessibilityIdentifiable"

/-- The constraint of a protocol to classes, last in its conformance list. -/
def classOnly : Text := "AnyObject"

/-- The constraint of a protocol to classes, with more in the list after it. -/
def classOnlyListed : Text := "AnyObject,"

def setter : Text := "func setAccessibilityIdentifiers()"

def binding : Text := "makeViewTestable("

def elements : Text := "UIElements."

def typealias : Text := "typealias UIElementType = UIElements."

end Mark

inductive Kind where
  | setterSignature
  | binding
  | typealias
  | outlet
  | moduleImport
  | protocolDeclaration
  | classDeclaration
  | other
  deriving DecidableEq

/-- The line is an import: after blanks, the keyword and a space. -/
def isImport (line : Text) : Bool :=
  match Text.afterPrefix? Mark.importWord (Text.trimStart line) with
  | some (c :: _) => c == ' '
  | _ => false

/-- What the tool itself writes is recognised before what a declaration looks like. -/
def kind (line : Text) : Kind :=
  if Text.occursIn Mark.setter line then .setterSignature
  else if Text.occursIn Mark.binding line then .binding
  else if Text.occursIn Mark.typealias line then .typealias
  -- before a class, since the name of an outlet may hold `class`
  else if Text.occursIn Mark.outlet line then .outlet
  else if isImport line then .moduleImport
  else if (Text.words line).contains Mark.protocolWord then .protocolDeclaration
  else if Text.occursIn Mark.classWord line && line.contains ':' then .classDeclaration
  else .other

end OutletWiring.Line

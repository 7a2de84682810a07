import OutletWiring.Draft
import OutletWiring.Line.Declaration
import OutletWiring.Subject

/-!
# Identifiers in the source file

The lines that declare the identifiers of a class and bind its outlets to them: the enum with one
case for each identifier, and the extension with the setter that binds each outlet.
-/

namespace OutletWiring.Identifiers

open Line (Mark.binding Mark.setter Mark.typealias)
open Draft (Step compose)

def caseSteps (subject : Subject) : List Step :=
  subject.cases.map fun name => .line 2 ("case " ++ name)

/-- The cases of the enum, as lines to put into its declaration. -/
def caseLines (subject : Subject) : Lines :=
  compose (caseSteps subject)

/-- The extension that declares the enum. -/
def enumBlock (subject : Subject) : Lines :=
  compose (
    [.blank,
      .line 0 "public extension UIElements \x7b",
      .line 1 ("enum " ++ subject.enumName ++ ": String, UIElement \x7b"),
      .line 2 ("// MARK: - " ++ subject.className)] ++
    caseSteps subject ++
    [.line 1 "\x7d",
      .line 0 "\x7d"])

/-- The binding of an outlet; the text field of a search bar comes right after the bar. -/
def bindingSteps (outlet : Outlet) : List Step :=
  .line 2 (Mark.binding ++ outlet.target ++ ", using: ." ++ outlet.name ++ ")") ::
    if outlet.isSearchBar then
      [.line 2 (Mark.binding ++ outlet.name ++ ".textfield, using: ." ++ outlet.textFieldCase ++ ")")]
    else []

def bindingLines (outlet : Outlet) : Lines :=
  compose (bindingSteps outlet)

def cellSetterSteps (subject : Subject) : List Step :=
  if subject.identifiesCell then
    [.blank,
      .line 1 "func setAccessibilityIdentifiers(at index: Int) \x7b",
      .line 2 (Mark.binding ++ "self, using: ." ++ subject.cellIdentifier ++ ", index: index)"),
      .line 1 "\x7d"]
  else []

/-- The extension that names the enum and holds the setter. -/
def setterBlock (subject : Subject) : Lines :=
  compose (
    [.blank,
      .line 0 "// MARK: - UITestable",
      .line 0 ("extension " ++ subject.className ++ ": UITestablePage \x7b"),
      .line 1 (Mark.typealias ++ subject.enumName),
      .blank,
      .line 1 (Mark.setter ++ " \x7b")] ++
    subject.outlets.flatMap bindingSteps ++
    [.line 1 "\x7d"] ++
    cellSetterSteps subject ++
    [.line 0 "\x7d"])

end OutletWiring.Identifiers

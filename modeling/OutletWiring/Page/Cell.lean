import OutletWiring.Page.Element

/-!
# The page object of a cell

Every accessor takes the row of the cell. The accessor of the cell itself is written only when the
cell is wired for the first time, together with its identifier.
-/

namespace OutletWiring.Page.Cell

open Draft (Step compose)

def elementSteps (variant : Variant) (subject : Subject) (outlet : Outlet) : List Step :=
  [.line 1 ("func " ++ accessor subject outlet ++ "(at index: Int = 0) -> XCUIElement \x7b"),
    .line 2 (lookup variant subject (.cell subject.accessorStem) outlet),
    .line 1 "\x7d"]

def tapSteps (name element : Text) : List Step :=
  [.blank,
    .line 1 "@discardableResult",
    .line 1 ("func tap" ++ name ++ "(at index: Int) -> Self \x7b"),
    .line 2 ("expect(element: " ++ element ++ "(at: index), status: .exist).tap()"),
    .line 2 "return self",
    .line 1 "\x7d"]

/-- The tap actions of the outlets that have one, named for the outlet alone. -/
def outletTapSteps (variant : Variant) (subject : Subject) : List Step :=
  (tappable variant subject).flatMap fun outlet =>
    tapSteps (Text.upperFirst outlet.name) (accessor subject outlet)

def protocolOpening (style : PageStyle) (className : Text) : Text :=
  match style with
  | .inline => "public protocol " ++ className ++ "Elements where Self: " ++ style.cellBase ++ " \x7b"
  | .screenSplit => "protocol " ++ className ++ "ElementsProtocol \x7b"

def implementationOpening (style : PageStyle) (className : Text) : Text :=
  match style with
  | .inline => "public extension " ++ className ++ "Elements \x7b"
  | .screenSplit =>
    "final class " ++ className ++ "Elements: " ++ style.cellBase ++ ", " ++ className ++
      "ElementsProtocol \x7b"

def extensionOpening (style : PageStyle) (className : Text) : Text :=
  match style with
  | .inline => "public extension " ++ className ++ "Elements \x7b"
  | .screenSplit => "extension " ++ className ++ "Elements \x7b"

/-- The steps, if the cell gets an identifier of its own in this run. -/
def whenIdentified (subject : Subject) (steps : List Step) : List Step :=
  if subject.identifiesCell then steps else []

/-- What the protocol requires of each element. -/
def requirementSteps (subject : Subject) : List Step :=
  (accessors subject).map fun name => .line 1 ("func " ++ name ++ "(at index: Int) -> XCUIElement")

def cellRequirementSteps (subject : Subject) : List Step :=
  whenIdentified subject
    [.line 1 ("func " ++ subject.accessorStem ++ "(at index: Int) -> XCUIElement")]

def protocolSteps (variant : Variant) (subject : Subject) : List Step :=
  [.line 0 (protocolOpening variant.pageStyle subject.className)] ++
  cellRequirementSteps subject ++
  requirementSteps subject ++
  [.line 1 ("func " ++ subject.accessorStem ++
      "Elements(at index: Int, status: UIStatus) -> [XCUIElement: UIStatus]"),
    .line 1 ("func check" ++ Text.upperFirst subject.accessorStem ++
      "(at index: Int, status: UIStatus) -> Self"),
    .line 0 "\x7d"]

def cellSteps (subject : Subject) : List Step :=
  whenIdentified subject
    [.line 1 ("func " ++ subject.accessorStem ++ "(at index: Int) -> XCUIElement \x7b"),
      .line 2 ("app.cells[String(format: " ++ identifier subject subject.cellIdentifier ++
        " + \"_%d\", index)].firstMatch"),
      .line 1 "\x7d",
      .blank]

/-- The function that lists the elements of a row. -/
def aggregateSteps (subject : Subject) : List Step :=
  [.line 1 "@discardableResult",
    .line 1 ("func " ++ subject.accessorStem ++
      "Elements(at index: Int = 0, status: UIStatus = .exist) -> [XCUIElement: UIStatus] \x7b"),
    .list 2 "[" ((accessors subject).map (· ++ "(at: index): status")) " " "]",
    .line 1 "\x7d",
    .blank]

def checkSteps (subject : Subject) : List Step :=
  [.line 1 "@discardableResult",
    .line 1 ("func check" ++ Text.upperFirst subject.accessorStem ++
      "(at index: Int = 0, status: UIStatus = .exist) -> Self \x7b"),
    .line 2 ("waitForElements(elements: " ++ subject.accessorStem ++
      "Elements(at: index, status: status))"),
    .line 2 "return self",
    .line 1 "\x7d"]

def cellTapSteps (subject : Subject) : List Step :=
  whenIdentified subject
    (tapSteps (Text.upperFirst subject.accessorStem) subject.accessorStem)

def implementationSteps (variant : Variant) (subject : Subject) : List Step :=
  [.line 0 (implementationOpening variant.pageStyle subject.className)] ++
  cellSteps subject ++
  (subject.outlets.flatMap fun outlet => elementSteps variant subject outlet ++ [.blank]) ++
  aggregateSteps subject ++
  checkSteps subject ++
  cellTapSteps subject ++
  outletTapSteps variant subject ++
  [.line 0 "\x7d"]

def fresh (variant : Variant) (subject : Subject) : Lines :=
  compose (protocolSteps variant subject ++ .blank :: implementationSteps variant subject)

/-- The members for outlets that are wired later. -/
def extension (variant : Variant) (subject : Subject) : Lines :=
  compose (
    [.line 0 (extensionOpening variant.pageStyle subject.className)] ++
    separated (subject.outlets.map (elementSteps variant subject)) ++
    outletTapSteps variant subject ++
    [.line 0 "\x7d"])

end OutletWiring.Page.Cell

import OutletWiring.Page.Element

/-! A protocol of elements with a default implementation, which the page of a test mixes in. -/

namespace OutletWiring.Page.View

open Draft (Step compose)

def elementSteps (variant : Variant) (subject : Subject) : List Step :=
  subject.outlets.flatMap fun outlet =>
    [.line 1 ("var " ++ accessor subject outlet ++ ": XCUIElement \x7b"),
      .line 2 (lookup variant subject .app outlet),
      .line 1 "\x7d"]

def tapSteps (variant : Variant) (subject : Subject) : List Step :=
  (tappable variant subject).flatMap fun outlet =>
    [.blank,
      .line 1 "@discardableResult",
      .line 1 ("public func tap" ++ Text.upperFirst (accessor subject outlet) ++ "() -> Self \x7b"),
      .line 2 ("expect(element: " ++ accessor subject outlet ++ ", status: .exist).tap()"),
      .line 2 "return self",
      .line 1 "\x7d"]

def requirementSteps (subject : Subject) : List Step :=
  (accessors subject).map fun name => .line 1 ("var " ++ name ++ ": XCUIElement \x7b get \x7d")

def protocolOpening (variant : Variant) (className : Text) : Text :=
  "public protocol " ++ className ++ "Elements where Self: " ++ variant.pageStyle.viewBase ++ " \x7b"

def extensionOpening (className : Text) : Text :=
  "public extension " ++ className ++ "Elements \x7b"

def protocolSteps (variant : Variant) (subject : Subject) : List Step :=
  [.line 0 (protocolOpening variant subject.className)] ++
  requirementSteps subject ++
  [.blank,
    .line 1 ("func " ++ subject.accessorStem ++
      "Elements(status: UIStatus) -> [XCUIElement: UIStatus]"),
    .line 1 ("func check" ++ Text.upperFirst subject.accessorStem ++ "(status: UIStatus) -> Self"),
    .line 0 "\x7d"]

def aggregateSteps (subject : Subject) : List Step :=
  [.blank,
    .line 1 "@discardableResult",
    .line 1 ("func " ++ subject.accessorStem ++
      "Elements(status: UIStatus = .exist) -> [XCUIElement: UIStatus] \x7b"),
    .list 2 "[" ((accessors subject).map (· ++ ": status")) " " "]",
    .line 1 "\x7d"]

def checkSteps (subject : Subject) : List Step :=
  [.blank,
    .line 1 "@discardableResult",
    .line 1 ("func check" ++ Text.upperFirst subject.accessorStem ++
      "(status: UIStatus = .exist) -> Self \x7b"),
    .line 2 ("waitForElements(elements: " ++ subject.accessorStem ++ "Elements(status: status))"),
    .line 2 "return self",
    .line 1 "\x7d"]

/-- The default implementation of the protocol. -/
def implementationSteps (variant : Variant) (subject : Subject) : List Step :=
  [.line 0 (extensionOpening subject.className)] ++
  elementSteps variant subject ++
  aggregateSteps subject ++
  checkSteps subject ++
  tapSteps variant subject ++
  [.line 0 "\x7d"]

def fresh (variant : Variant) (subject : Subject) : Lines :=
  compose (protocolSteps variant subject ++ .blank :: implementationSteps variant subject)

/-- The members for outlets that are wired later; the check of all elements stays as it is. -/
def extension (variant : Variant) (subject : Subject) : Lines :=
  compose (
    [.line 0 (extensionOpening subject.className)] ++
    elementSteps variant subject ++
    tapSteps variant subject ++
    [.line 0 "\x7d"])

end OutletWiring.Page.View

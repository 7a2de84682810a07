import OutletWiring.Page.Element

/-!
# The page object of a view controller

In the inline style one class holds the elements and the actions. In the split style a screen class
holds the elements, and extensions of it hold assertions and actions.
-/

namespace OutletWiring.Page.Screen

open Draft (Step compose)

/-- The call that waits for the elements of a page, up to its first element. -/
def waitOpening : Text := "waitForPage(elements: [["

def waitClosing : Text := "]])"

/-- The call that waits for the elements of a page, its elements aligned under the first. -/
def waitStep (subject : Subject) : Step :=
  .list 2 waitOpening (subject.outlets.map (·.name ++ ": .exist"))
    (List.replicate waitOpening.length ' ') waitClosing

/-- An element as a computed property, since an extension holds no stored ones. -/
def propertySteps (declaration value : Text) : List Step :=
  [.line 1 (declaration ++ ": XCUIElement \x7b"),
    .line 2 value,
    .line 1 "\x7d"]

def tapSteps (visibility : Text) (outlet : Outlet) : List Step :=
  [.line 1 "@discardableResult",
    .line 1 (visibility ++ "func tap" ++ Text.upperFirst outlet.name ++ "() -> Self \x7b"),
    .line 2 ("expect(element: " ++ outlet.name ++ ", status: .exist).tap()"),
    .line 2 "return self",
    .line 1 "\x7d"]

/-- The tap actions of an inline page, each after a blank line. -/
def inlineTapSteps (variant : Variant) (subject : Subject) : List Step :=
  (tappable variant subject).flatMap fun outlet => .blank :: tapSteps "public " outlet

/-- The tap actions of a split screen, with blank lines between them. -/
def splitTapSteps (variant : Variant) (subject : Subject) : List Step :=
  separated ((tappable variant subject).map (tapSteps []))

def inlineElement (variant : Variant) (outlet : Outlet) : Text :=
  (outlet.kind variant.prominentButton?).constructorName ++ "(." ++ outlet.name ++ ")"

def screenName (subject : Subject) : Text :=
  subject.screenStem ++ "Screen"

def inlinePage (variant : Variant) (subject : Subject) : Lines :=
  compose (
    [.line 0 ("// MARK: - " ++ subject.className),
      .line 0 ("final class " ++ subject.screenStem ++ "Page: BaseScreen \x7b")] ++
    (subject.outlets.map fun outlet =>
      .line 1 ("lazy var " ++ outlet.name ++ " = " ++ inlineElement variant outlet)) ++
    [.blank,
      .line 1 "@discardableResult",
      .line 1 "func checkElements() -> Self \x7b",
      waitStep subject,
      .line 2 "return self",
      .line 1 "\x7d"] ++
    inlineTapSteps variant subject ++
    [.line 0 "\x7d"])

/-- The screen class of a controller that is wired for the first time, with its extensions. -/
def splitScreen (variant : Variant) (subject : Subject) : Lines :=
  let screen := screenName subject
  compose (
    [.line 0 ("// MARK: - " ++ screen),
      .line 0 ("final class " ++ screen ++ ": BaseScreen \x7b")] ++
    (subject.outlets.map fun outlet =>
      .line 1 ("private lazy var " ++ outlet.name ++ " = " ++ lookup variant subject .app outlet)) ++
    [.blank,
      .line 1 "@discardableResult",
      .line 1 ("func check" ++ screen ++ "() -> Self \x7b"),
      waitStep subject,
      .line 2 "return self",
      .line 1 "\x7d",
      .line 0 "\x7d",
      .blank,
      .line 0 "// MARK: - Assertion",
      .line 0 ("extension " ++ screen ++ " \x7b"),
      .line 0 "\x7d",
      .blank,
      .line 0 "// MARK: - Action",
      .line 0 ("extension " ++ screen ++ " \x7b")] ++
    splitTapSteps variant subject ++
    [.line 0 "\x7d"])

def inlineExtension (variant : Variant) (subject : Subject) : Lines :=
  compose (
    [.line 0 ("extension " ++ subject.screenStem ++ "Page \x7b")] ++
    (subject.outlets.flatMap fun outlet =>
      propertySteps ("var " ++ outlet.name) (inlineElement variant outlet)) ++
    inlineTapSteps variant subject ++
    [.line 0 "\x7d"])

/-- The extension of a split screen with its actions, if it has any. -/
def splitActionSteps (variant : Variant) (subject : Subject) : List Step :=
  if (tappable variant subject).isEmpty then []
  else
    [.blank,
      .line 0 "// MARK: - Action",
      .line 0 ("extension " ++ screenName subject ++ " \x7b")] ++
    splitTapSteps variant subject ++
    [.line 0 "\x7d"]

def splitExtension (variant : Variant) (subject : Subject) : Lines :=
  compose (
    [.line 0 ("extension " ++ screenName subject ++ " \x7b")] ++
    (subject.outlets.flatMap fun outlet =>
      propertySteps ("private var " ++ outlet.name) (lookup variant subject .app outlet)) ++
    [.line 0 "\x7d"] ++
    splitActionSteps variant subject)

def fresh (variant : Variant) (subject : Subject) : Lines :=
  match variant.pageStyle with
  | .inline => inlinePage variant subject
  | .screenSplit => splitScreen variant subject

def extension (variant : Variant) (subject : Subject) : Lines :=
  match variant.pageStyle with
  | .inline => inlineExtension variant subject
  | .screenSplit => splitExtension variant subject

end OutletWiring.Page.Screen

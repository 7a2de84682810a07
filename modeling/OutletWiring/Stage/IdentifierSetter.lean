import OutletWiring.Identifiers
import OutletWiring.Lines.Find
import OutletWiring.Stage.Basic
import OutletWiring.Variant

/-!
# The identifier setter stage

A class without a setter gets one that binds every outlet, and the identifier enum. In a class that
has one, only the outlets without a binding are bound; the others leave the run, so that no later
stage writes them again.
-/

namespace OutletWiring.IdentifierSetter

/-- The outlets declared, with the root view where it is wired, less those dropped by name. -/
def wiredOutlets (variant : Variant) (subject : Subject) (lines : Lines) : List Outlet :=
  let declared := lines.outlets
  let extended :=
    if variant.wiresRootView && subject.viewKind == .viewController && !declared.isEmpty then
      declared ++ [⟨Naming.rootViewIdentifier subject.className, Outlet.rootView⟩]
    else declared
  if variant.dropsConstraintNames then
    extended.filter fun outlet => !Text.occursIn "Constraint" outlet.name
  else extended

def isBound (lines : Lines) (outlet : Outlet) : Bool :=
  lines.any (Text.occursIn (Line.bindingProbe outlet))

structure Bound where
  lines : Lines
  outlets : List Outlet
  events : List Event

/-- Bind the outlets that no line binds, one after the other, in front of the line at `cursor`. -/
def bindMissingM {m : Type → Type} [Monad m] [Reach m] (lines : Lines) (cursor : Nat) :
    List Outlet → m Bound
  | [] => return ⟨lines, [], []⟩
  | outlet :: outlets => do
    if isBound lines outlet then
      let rest ← bindMissingM lines cursor outlets
      return { rest with events := .alreadyBound outlet.name :: rest.events }
    else
      let binding := Identifiers.bindingLines outlet
      let inserted ← lines.insertBlockM cursor binding
      let rest ← bindMissingM inserted (cursor + binding.length) outlets
      return { rest with
        outlets := outlet :: rest.outlets, events := .bound outlet.name :: rest.events }

def bindMissing (lines : Lines) (cursor : Nat) (outlets : List Outlet) : Bound :=
  Id.run (bindMissingM lines cursor outlets)

@[simp] theorem run_bindMissingM (lines : Lines) (cursor : Nat) (outlets : List Outlet) :
    Id.run (bindMissingM lines cursor outlets) = bindMissing lines cursor outlets :=
  rfl

theorem bindMissing_nil (lines : Lines) (cursor : Nat) :
    bindMissing lines cursor [] = ⟨lines, [], []⟩ :=
  rfl

theorem bindMissing_cons (lines : Lines) (cursor : Nat) (outlet : Outlet) (outlets : List Outlet) :
    bindMissing lines cursor (outlet :: outlets) =
      if isBound lines outlet then
        let rest := bindMissing lines cursor outlets
        { rest with events := .alreadyBound outlet.name :: rest.events }
      else
        let binding := Identifiers.bindingLines outlet
        let rest := bindMissing (lines.insertBlock cursor binding) (cursor + binding.length) outlets
        { rest with
          outlets := outlet :: rest.outlets, events := .bound outlet.name :: rest.events } :=
  rfl

def isSectionComment (line : Text) : Bool :=
  ("// MARK:" : Text).isPrefixOf (Text.trimStart line)

/-- Behind the declaration at `index`, and behind a section comment that follows it. -/
def casesIndex (lines : Lines) (index : Nat) : Nat :=
  if lines[index + 1]?.any isSectionComment then index + 2 else index + 1

section Monad

variable {m : Type → Type} [Monad m] [Reach m]

/-- The cases go into the enum of the subject, or with a new one to the end of the file. -/
def addCasesM (subject : Subject) (lines : Lines) : m Lines :=
  match lines.enum? subject.enumName with
  | none => lines.appendBlockM (Identifiers.enumBlock subject)
  | some index => lines.insertBlockM (casesIndex lines index) (Identifiers.caseLines subject)

/-- Write the setter and the enum of a class that has neither. -/
def writeFreshM (subject : Subject) (lines : Lines) : m Stage.Result := do
  let fresh := { subject with
    alreadyGenerated := false, enumName := Variant.freshEnumName subject.className }
  let bound ← lines.appendBlockM (Identifiers.setterBlock fresh)
  let written ← bound.appendBlockM (Identifiers.enumBlock fresh)
  return ⟨written, fresh, .completed, []⟩

/-- Add what is missing in the setter at `index` and in the enum. -/
def extendExistingM (variant : Variant) (subject : Subject) (lines : Lines) (index : Nat) :
    m Stage.Result := do
  let bound ← bindMissingM lines (index + 1) subject.outlets
  let extended := { subject with
    alreadyGenerated := true
    enumName := variant.existingEnumName subject.className lines.typealiasTarget?
    outlets := bound.outlets }
  let written ← (if bound.outlets.isEmpty then pure bound.lines else addCasesM extended bound.lines)
  return ⟨written, extended, .completed, bound.events⟩

def runM (variant : Variant) (lines : Lines) (subject : Subject) : m Stage.Result :=
  if !subject.hasClass then return ⟨lines, subject, .declined .noClassDeclaration, []⟩
  else
    let wired := { subject with outlets := wiredOutlets variant subject lines }
    if wired.outlets.isEmpty then return ⟨lines, wired, .declined .noOutlets, []⟩
    else match lines.setter? with
      | none => writeFreshM wired lines
      | some index => extendExistingM variant wired lines index

end Monad

def addCases (subject : Subject) (lines : Lines) : Lines :=
  Id.run (addCasesM subject lines)

@[simp] theorem run_addCasesM (subject : Subject) (lines : Lines) :
    Id.run (addCasesM subject lines) = addCases subject lines :=
  rfl

def writeFresh (subject : Subject) (lines : Lines) : Stage.Result :=
  Id.run (writeFreshM subject lines)

def extendExisting (variant : Variant) (subject : Subject) (lines : Lines) (index : Nat) :
    Stage.Result :=
  Id.run (extendExistingM variant subject lines index)

@[simp] theorem run_writeFreshM (subject : Subject) (lines : Lines) :
    Id.run (writeFreshM subject lines) = writeFresh subject lines :=
  rfl

@[simp] theorem run_extendExistingM (variant : Variant) (subject : Subject) (lines : Lines)
    (index : Nat) :
    Id.run (extendExistingM variant subject lines index) =
      extendExisting variant subject lines index :=
  rfl

def run (variant : Variant) (lines : Lines) (subject : Subject) : Stage.Result :=
  Id.run (runM variant lines subject)

end OutletWiring.IdentifierSetter

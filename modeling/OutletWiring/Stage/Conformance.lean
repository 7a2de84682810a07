import OutletWiring.Lines.Find
import OutletWiring.Stage.Basic
import OutletWiring.Variant

/-!
# The conformance stage

The class, or the protocol that its view implements, is made to declare the capability. In variants
that need it, the source file also gets the import of a framework.
-/

namespace OutletWiring.Conformance

open Line (Mark.capability Mark.classOnly Mark.classOnlyListed)

/-- The words with a colon after the second, which opens a conformance list. -/
def openList : List Text → List Text
  | first :: second :: rest => first :: (second ++ ":") :: rest
  | words => words

/-- The words with a comma after the last but one, which continues a conformance list. -/
def continueList? : List Text → Option (List Text)
  | [] => none
  | [_] => none
  | [word, last] => some [word ++ ",", last]
  | word :: rest => (continueList? rest).map (word :: ·)

/-- The words of a declaration with its conformance list made ready for one more entry. -/
def readyList? (words : List Text) : Option (List Text) :=
  if words.length ≤ 3 then some (openList words)
  -- a constraint to classes is taken out, as the capability implies it
  else if words.contains Mark.classOnly then some (words.filter (· != Mark.classOnly))
  else if words.contains Mark.classOnlyListed then
    continueList? (words.filter (· != Mark.classOnlyListed))
  else continueList? words

def enter? (words : List Text) : Option (List Text) :=
  words.getLast?.map fun last => words.dropLast ++ [Mark.capability, last]

/-- The declaration with the capability before its last word; nothing if too few words are left when
a constraint to classes is taken out. -/
def addCapability? (line : Text) : Option Text :=
  let words := Text.words line
  if words.length < 2 then some line
  else ((readyList? words).bind enter?).map (Text.join " ")

/-- Before the first import above the class, unless some line has the import already. -/
def frameworkImport? (variant : Variant) (lines : Lines) (classIndex : Nat) :
    Option (Nat × Text) := do
  let importLine := Line.importLine (← variant.frameworkModule?)
  if lines.any (Text.occursIn (Text.trimEnd importLine)) then none
  else
    let index ← Lines.firstImport? (lines.take classIndex)
    return (index, importLine)

section Monad

variable {m : Type → Type} [Monad m] [Reach m]

/-- The lines with the import of the variant's framework, and where the class stands in them. -/
def importFrameworkM (variant : Variant) (lines : Lines) (classIndex : Nat) : m (Lines × Nat) := do
  reach classIndex lines.length
  match frameworkImport? variant lines classIndex with
  | some (index, importLine) =>
    let imported ← lines.insertBlockM index [importLine]
    return (imported, classIndex + 1)
  | none => return (lines, classIndex)

end Monad

def importFramework (variant : Variant) (lines : Lines) (classIndex : Nat) : Lines × Nat :=
  Id.run (importFrameworkM variant lines classIndex)

@[simp] theorem run_importFrameworkM (variant : Variant) (lines : Lines) (classIndex : Nat) :
    Id.run (importFrameworkM variant lines classIndex) = importFramework variant lines classIndex :=
  rfl

def declareAt? (lines : Lines) (index : Nat) : Option (Lines × List Event) := do
  let line ← lines[index]?
  if Text.occursIn Mark.capability line then return (lines, [])
  else
    let conforming ← addCapability? line
    return (lines.set index conforming, [.capabilityAdded index])

def runM {m : Type → Type} [Monad m] [Reach m] (variant : Variant) (lines : Lines)
    (subject : Subject) : m Stage.Result := do
  if lines.isEmpty then return ⟨lines, subject, .declined .emptyBuffer, []⟩
  else
    (lines.findKind? .classDeclaration).forM lines.reachLine
    match lines.classDeclaration? with
    | none => return ⟨lines, subject, .declined .noClassDeclaration, []⟩
    | some declared =>
      let found := { subject with
        className := declared.name, viewKind := ViewKind.ofClassName declared.name }
      let (imported, classIndex) ← importFrameworkM variant lines declared.index
      let target := (imported.protocol? (Naming.viewProtocol declared.name)).getD classIndex
      imported.reachLine target
      match declareAt? imported target with
      | some (conforming, events) => return ⟨conforming, found, .completed, events⟩
      | none => return ⟨lines, found, .stuck, []⟩

def run (variant : Variant) (lines : Lines) (subject : Subject) : Stage.Result :=
  Id.run (runM variant lines subject)

end OutletWiring.Conformance

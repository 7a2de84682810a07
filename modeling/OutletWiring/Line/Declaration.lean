import OutletWiring.Line.Kind
import OutletWiring.Outlet

/-!
# What a line declares

The class, protocol, enum, typealias or outlet that a single line declares, the binding that it
holds, and the line that imports a module.
-/

namespace OutletWiring.Line

/-- The word after the first word `class`, without its colons. -/
def className? (line : Text) : Option Text :=
  match (Text.words line).dropWhile (· != Mark.classWord) with
  | _ :: word :: _ =>
    let name := word.filter (· != ':')
    if name.isEmpty then none else some name
  | _ => none

/-- The word after `protocol` without the blanks, then the colons and braces, at its end. -/
def protocolName (word : Text) : Text :=
  Text.dropEndWhile (fun c => c == ':' || c == '{') (Text.trimEnd word)

def declaresAmong (name : Text) : List Text → Bool
  | first :: second :: rest =>
    (first == Mark.protocolWord && protocolName second == name) ||
      declaresAmong name (second :: rest)
  | _ => false

/-- The line declares the protocol `name` itself, and not one whose name only starts so. -/
def declaresProtocol (name line : Text) : Bool :=
  declaresAmong name (Text.words line)

def declaresEnum (name line : Text) : Bool :=
  Text.occursIn ("enum " ++ name ++ ": String") line

/-- The enum that the line names as the type of a class's identifiers. -/
def typealiasTarget? (line : Text) : Option Text :=
  if Text.occursIn Mark.typealias line then
    let target := Text.trim (Text.afterLast Mark.elements line)
    if target.isEmpty then none else some target
  else none

/-- The type in the last word of an outlet declaration: all but its final `!` or `?`. -/
def declaredType? (word : Text) : Option Text :=
  if word.dropLast.isEmpty then none else some word.dropLast

/-- The name in a word that ends in a colon. -/
def declaredName? (word : Text) : Option Text :=
  if word.getLast? = some ':' then some word.dropLast else none

/-- The outlet that a line declares: the name is the first word that ends in a colon, the type is
the last word without its last character. Layout constraints are no outlets. -/
def outlet? (line : Text) : Option Outlet :=
  let words := Text.words (Text.trimEnd line)
  match words.findSome? declaredName?, words.getLast?.bind declaredType? with
  | some name, some type =>
    if name.isEmpty || type == Outlet.layoutConstraint then none else some ⟨name, type⟩
  | _, _ => none

/-- The text that a line holds if it binds the outlet. -/
def bindingProbe (outlet : Outlet) : Text :=
  if outlet.isRootView then Mark.binding ++ "self.view, using: ." ++ outlet.name ++ ")"
  else Mark.binding ++ outlet.name ++ ","

def importLine (module : Text) : Text :=
  Mark.importWord ++ " " ++ module ++ "\n"

end OutletWiring.Line

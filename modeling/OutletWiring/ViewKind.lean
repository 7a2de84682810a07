import OutletWiring.Text.Basic

/-!
# Kinds of views

The kind of the class being wired, read off the end of its name, decides which page object is
written for it.
-/

namespace OutletWiring

inductive ViewKind where
  | view
  | viewController
  | cell
  deriving DecidableEq

namespace ViewKind

instance : Inhabited ViewKind := ⟨view⟩

def ofClassName (className : Text) : ViewKind :=
  -- `ItemCellViewController` is a cell
  if Text.occursIn "Cell" (Text.lastChars 5 className) ||
      Text.occursIn "Cell" (Text.lastChars 5 (Text.withoutSuffix "ViewController" className)) then
    cell
  else if Text.occursIn "ViewController" (Text.lastChars 15 className) then viewController
  else view

def word : ViewKind → Text
  | view => "view"
  | viewController => "view_controller"
  | cell => "cell"

end ViewKind

end OutletWiring

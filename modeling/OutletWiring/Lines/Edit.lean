import OutletWiring.Lines.Basic

/-! The edits that a host makes between two runs. -/

namespace OutletWiring.Lines

/-- The lines with one more line before the one at `index`; nothing if there is no such place. -/
def insert? (lines : Lines) (index : Nat) (line : Text) : Option Lines :=
  if index ≤ lines.length then some (lines.take index ++ line :: lines.drop index) else none

/-- The line at `index` and the lines without it. -/
def remove? (lines : Lines) (index : Nat) : Option (Text × Lines) :=
  lines[index]?.map fun line => (line, lines.take index ++ lines.drop (index + 1))

/-- The lines of the text in which the first occurrence of `mark` is replaced. -/
def substitute (lines : Lines) (mark replacement : Text) : Lines :=
  ofText (Text.replaceFirst mark replacement lines.toText)

def reparse (lines : Lines) : Lines :=
  ofText lines.toText

end OutletWiring.Lines

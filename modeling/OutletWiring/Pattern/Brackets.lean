import OutletWiring.Pattern.Atom

/-!
# Brackets in a pattern

Brackets hold a class of characters: single ones, ranges, named classes and further brackets, side
by side or joined by `&&`, `--` and `~~`. Reading them gives their height, which is the greatest
number of parts inside one another.
-/

namespace OutletWiring.Pattern

/-- The height of parts side by side; a single part stands for itself. -/
def heightBeside : List Nat → Nat
  | [] => 0
  | [height] => height
  | heights => heights.foldl max 0 + 1

structure Brackets where
  /-- The heights of what stands side by side, last first. -/
  items : List Nat := []
  /-- The height of what stands before the last joining sign. -/
  joined? : Option Nat := none
  /-- Only dashes were read. -/
  fresh : Bool := true

namespace Brackets

def add (brackets : Brackets) (height : Nat) : Brackets :=
  { brackets with items := height :: brackets.items, fresh := false }

def height (brackets : Brackets) : Nat :=
  let last := heightBeside brackets.items
  match brackets.joined? with
  | none => last
  | some joined => max joined last + 1

/-- The brackets after a joining sign. -/
def join (brackets : Brackets) : Brackets where
  joined? := some brackets.height
  fresh := false

def classNames : List Text :=
  ["alnum", "alpha", "ascii", "blank", "cntrl", "digit", "graph", "lower", "print", "punct",
    "space", "upper", "word", "xdigit"]

/-- What follows a named class and whether it is negated, in a text after its first bracket. -/
def afterClass? (text : Text) : Option (Bool × Text) := do
  let inner ← Text.afterPrefix? ":" text
  let negated := inner.head? == some '^'
  let start := if negated then inner.tail else inner
  let name := start.takeWhile (· != ':')
  let rest ← Text.afterPrefix? ":]" (start.drop name.length)
  if classNames.contains name then some (negated, rest) else none

def classFits (mode : Mode) (negated : Bool) : Bool :=
  if mode.unicode then !mode.anyCase else !negated

/-- The text after an opening bracket and, maybe, a sign that negates it. -/
def afterOpening? (mode : Mode) (text : Text) : Option Text :=
  match mode.skip text with
  | '^' :: rest => if mode.unicode then some rest else none
  | rest => some rest

/-- An atom between brackets, where only a backslash has a meaning. -/
def readAtom? (mode : Mode) : Text → Option (Atom × Text)
  | [] => none
  | '\\' :: rest => Atom.readEscape? mode rest
  | c :: rest => some (.character c false, rest)

/-- Skip an atom or a range; a dash before a bracket or another dash makes no range. -/
def afterItem? (mode : Mode) (text : Text) : Option Text := do
  let (first, rest) ← readAtom? mode text
  if !first.fitsInBrackets mode then none
  else match mode.skip rest with
    | '-' :: after =>
      let beyond := mode.skip after
      if beyond.head? == some ']' || beyond.head? == some '-' then some ('-' :: after)
      else do
        let (last, rest) ← readAtom? mode beyond
        match first, last with
        | .character low _, .character high _ =>
          if low ≤ high && last.fitsInBrackets mode then some rest else none
        | _, _ => none
    | rest => some rest

/-- Read on in open brackets to the end of the outermost: its height, and the text after it. -/
def readFrom? (mode : Mode) : Nat → List Brackets → Brackets → Text → Option (Nat × Text)
  | 0, _, _, _ => none
  | fuel + 1, outer, brackets, text =>
    match mode.skip text with
    | [] => none
    | c :: rest =>
      let literal := brackets.fresh && (c == '-' || (c == ']' && brackets.items.isEmpty))
      let sign := c == '&' || c == '-' || c == '~'
      if literal then
        if (Atom.character c false).fitsInBrackets mode then
          readFrom? mode fuel outer { brackets.add 0 with fresh := c == '-' } rest
        else none
      else if c = '[' then
        match afterClass? rest with
        | some (negated, after) =>
          if classFits mode negated then readFrom? mode fuel outer (brackets.add 0) after else none
        | none => do readFrom? mode fuel (brackets :: outer) {} (← afterOpening? mode rest)
      else if c = ']' then
        match outer with
        | [] => some (brackets.height + 1, rest)
        | parent :: outer => readFrom? mode fuel outer (parent.add (brackets.height + 1)) rest
      else if sign && rest.head? == some c then readFrom? mode fuel outer brackets.join rest.tail
      else do readFrom? mode fuel outer (brackets.add 0) (← afterItem? mode (c :: rest))

def read? (mode : Mode) (text : Text) : Option (Nat × Text) := do
  readFrom? mode (text.length + 1) [] {} (← afterOpening? mode text)

end Brackets

end OutletWiring.Pattern

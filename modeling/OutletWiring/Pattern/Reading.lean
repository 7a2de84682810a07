import OutletWiring.Pattern.Brackets
import OutletWiring.Text.Alphanumeric

/-!
# Readable patterns

A pattern is read from left to right, with the groups that are open. Its text has no closing brace,
so a count in braces is never closed, and an opening brace makes a pattern unreadable. Parts may
stand inside one another up to a limit.
-/

namespace OutletWiring.Pattern

/-- The part of a group that is read already, by heights. -/
structure Sequence where
  /-- What stands side by side, last first; `none` for switches, which cannot be repeated. -/
  items : List (Option Nat) := []
  branches : List Nat := []

namespace Sequence

def itemsHeight (sequence : Sequence) : Nat :=
  heightBeside (sequence.items.map (·.getD 0))

def height (sequence : Sequence) : Nat :=
  heightBeside (sequence.itemsHeight :: sequence.branches)

def add (sequence : Sequence) (item : Option Nat) : Sequence :=
  { sequence with items := item :: sequence.items }

/-- The sequence before the next alternative. -/
def branch (sequence : Sequence) : Sequence where
  branches := sequence.itemsHeight :: sequence.branches

def repeatLast? (sequence : Sequence) : Option Sequence :=
  match sequence.items with
  | some height :: items => some { sequence with items := some (height + 1) :: items }
  | _ => none

end Sequence

structure Reading where
  mode : Mode := {}
  sequence : Sequence := {}
  /-- The groups around, innermost first, with the mode that comes back after them. -/
  outer : List (Mode × Sequence) := []
  names : List Text := []

namespace Reading

def add (reading : Reading) (item : Option Nat) : Reading :=
  { reading with sequence := reading.sequence.add item }

def openGroup (reading : Reading) (mode : Mode) : Reading :=
  { reading with
    mode := mode
    sequence := {}
    outer := (reading.mode, reading.sequence) :: reading.outer }

def closeGroup? (reading : Reading) : Option Reading :=
  match reading.outer with
  | [] => none
  | (mode, sequence) :: outer =>
    some { reading with
      mode := mode
      sequence := sequence.add (some (reading.sequence.height + 1))
      outer := outer }

/-- A letter or underscore, and then these, numbers, points and brackets. -/
def isName : Text → Bool
  | [] => false
  | c :: cs =>
    (c == '_' || Text.isAlphabetic c) &&
      cs.all fun c => "_.[]".toList.contains c || Text.isAlphanumeric c

/-- The reading in a group with a new name, and the text after the name. -/
def openNamed? (reading : Reading) (text : Text) : Option (Reading × Text) :=
  let name := text.takeWhile (· != '>')
  match text.drop name.length with
  | [] => none
  | _ :: rest =>
    if isName name && !reading.names.contains name then
      some ({ reading.openGroup reading.mode with names := name :: reading.names }, rest)
    else none

/-- The reading after switches, or in a group that they hold for. -/
def setSwitches? (reading : Reading) (text : Text) : Option (Reading × Text) :=
  let switches := text.takeWhile fun c => c != ':' && c != ')'
  let mode := reading.mode.switch switches
  if !wellSwitched switches then none
  else match text.drop switches.length with
    | ':' :: rest => some (reading.openGroup mode, rest)
    | ')' :: rest =>
      if switches.isEmpty then none else some ({ reading.add none with mode := mode }, rest)
    | _ => none

def openParenthesis? (reading : Reading) (text : Text) : Option (Reading × Text) :=
  match reading.mode.skip text with
  | '?' :: 'P' :: '<' :: rest => reading.openNamed? rest
  | '?' :: '<' :: rest => reading.openNamed? rest
  | '?' :: rest => reading.setSwitches? rest
  | rest => some (reading.openGroup reading.mode, rest)

/-- The reading after a sign of repetition, which may be followed by one that makes it lazy. -/
def repeatLast? (reading : Reading) (text : Text) : Option (Reading × Text) := do
  let sequence ← reading.sequence.repeatLast?
  some ({ reading with sequence := sequence }, (Text.afterPrefix? "?" text).getD text)

/-- The reading after one more part, which starts with a character. -/
def step? (reading : Reading) (c : Char) (rest : Text) : Option (Reading × Text) :=
  if c = '(' then reading.openParenthesis? rest
  else if c = ')' then reading.closeGroup?.map (·, rest)
  else if c = '|' then some ({ reading with sequence := reading.sequence.branch }, rest)
  else if c = '[' then do
    let (height, rest) ← Brackets.read? reading.mode rest
    some (reading.add (some height), rest)
  else if c = '?' || c = '*' || c = '+' then reading.repeatLast? rest
  else if c = '\x7b' then none
  else do
    let (atom, rest) ← Atom.read? reading.mode c rest
    if atom.fits reading.mode then some (reading.add (some 0), rest) else none

/-- The height of a pattern that is read on to its end. -/
def finish? : Nat → Reading → Text → Option Nat
  | 0, _, _ => none
  | fuel + 1, reading, text =>
    match reading.mode.skip text with
    | [] => if reading.outer.isEmpty then some reading.sequence.height else none
    | c :: rest => do
      let (next, rest) ← reading.step? c rest
      finish? fuel next rest

end Reading

/-- How many parts of a pattern may stand inside one another. -/
def heightLimit : Nat := 250

def isReadable (text : Text) : Bool :=
  (Reading.finish? (text.length + 1) {} text).any (· ≤ heightLimit)

end OutletWiring.Pattern

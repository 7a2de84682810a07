import OutletWiring.Text.Blank

/-!
# The smallest parts of a pattern

A pattern is a regular expression. Of Unicode it knows the code points, but neither their classes
nor their letter case; those are known of ASCII alone, in parts that are read without Unicode. As a
pattern is for text, such parts must not match half a character.
-/

namespace OutletWiring.Pattern

structure Mode where
  /-- A letter stands for both of its cases. -/
  anyCase : Bool := false
  /-- Characters are code points; otherwise they are bytes. -/
  unicode : Bool := true
  /-- Blanks are skipped, and so is what follows `#` on a line. -/
  spaced : Bool := false

/-- The text from its first character on that is neither a blank nor in a comment. -/
def skipBlanks (inComment : Bool) : Text → Text
  | [] => []
  | c :: cs =>
    if inComment then skipBlanks (c != '\n') cs
    else if Text.isBlank c then skipBlanks false cs
    else if c = '#' then skipBlanks true cs
    else c :: cs

namespace Mode

def skip (mode : Mode) (text : Text) : Text :=
  if mode.spaced then skipBlanks false text else text

/-- The state of a switch after those that are turned on and, from a dash on, off. -/
def switched (switches : Text) (switch : Char) (before : Bool) : Bool :=
  if (switches.takeWhile (· != '-')).contains switch then true
  else if switches.contains switch then false
  else before

def switch (mode : Mode) (switches : Text) : Mode where
  anyCase := switched switches 'i' mode.anyCase
  unicode := switched switches 'u' mode.unicode
  spaced := switched switches 'x' mode.spaced

end Mode

/-- The switches are known, each is given once, and a dash has one after it. -/
def wellSwitched (switches : Text) : Bool :=
  switches.all ("imsUuRx-".toList.contains ·) && decide switches.Nodup &&
    switches.getLast? != some '-'

inductive Atom where
  /-- A character that stands for itself; `coded` if it is given by two hexadecimal digits. -/
  | character (c : Char) (coded : Bool)
  | any
  | edge
  | wordEdge
  /-- A digit, a blank or a part of a word, or all but those. -/
  | shorthand (negated : Bool)

namespace Atom

def fits (mode : Mode) : Atom → Bool
  | character c coded => if mode.unicode then !mode.anyCase else !coded || c.toNat < 0x80
  | any => mode.unicode
  | edge => true
  | wordEdge => !mode.unicode
  | shorthand negated => !mode.unicode && !negated

def fitsInBrackets (mode : Mode) : Atom → Bool
  | character c _ => if mode.unicode then !mode.anyCase else c.toNat < 0x80
  | shorthand negated => !mode.unicode && !negated
  | _ => false

def hexValue? (c : Char) : Option Nat :=
  if c.isDigit then some (c.toNat - '0'.toNat)
  else if 'a' ≤ c.toLower && c.toLower ≤ 'f' then some (c.toLower.toNat - 'a'.toNat + 10)
  else none

/-- The value of so many hexadecimal digits after those of `value`, and the text after them. -/
def readHex? (mode : Mode) : Nat → Nat → Text → Option (Nat × Text)
  | 0, value, text => some (value, text)
  | count + 1, value, text =>
    match mode.skip text with
    | [] => none
    | c :: rest => do readHex? mode count (16 * value + (← hexValue? c)) rest

def readCode? (mode : Mode) (count : Nat) (text : Text) : Option (Atom × Text) := do
  let (code, rest) ← readHex? mode count 0 text
  if code.isValidChar then some (character (Char.ofNat code) (count == 2), rest) else none

/-- All of ASCII but letters, digits and angle brackets may stand after a backslash. -/
def isEscapable (c : Char) : Bool :=
  c.toNat < 0x80 && !c.isAlphanum && c != '<' && c != '>'

/-- The control character that a letter stands for after a backslash. -/
def control? (c : Char) : Option Char :=
  [('a', '\x07'), ('t', '\t'), ('n', '\n'), ('v', '\x0b'), ('f', '\x0c'), ('r', '\r')].lookup c

/-- The atom after a backslash. Code points in braces are not read, nor are properties. -/
def readEscape? (mode : Mode) : Text → Option (Atom × Text)
  | [] => none
  | c :: rest =>
    if isEscapable c then some (character c false, rest)
    else if let some control := control? c then some (character control false, rest)
    else if c = 'x' then readCode? mode 2 rest
    else if c = 'u' then readCode? mode 4 rest
    else if c = 'U' then readCode? mode 8 rest
    else if "dsw".toList.contains c then some (shorthand false, rest)
    else if "DSW".toList.contains c then some (shorthand true, rest)
    else if "Az".toList.contains c then some (edge, rest)
    else if "bB<>".toList.contains c then some (wordEdge, rest)
    else none

def read? (mode : Mode) (c : Char) (rest : Text) : Option (Atom × Text) :=
  if c = '\\' then readEscape? mode rest
  else if c = '.' then some (any, rest)
  else if c = '^' || c = '$' then some (edge, rest)
  else some (character c false, rest)

end Atom

end OutletWiring.Pattern

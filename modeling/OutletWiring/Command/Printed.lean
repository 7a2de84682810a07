import OutletWiring.Lines.Basic

/-! Errors and what else goes to standard error while a command is carried out, and its wording. -/

namespace OutletWiring.Command

inductive Error where
  | unknownSelector (selector : Text) (known : List Text)
  | notSwift (path : Text)
  | notFound (path : Text)
  | noSwiftFiles (path : Text)
  | unreadable (path reason : Text)
  | unwritable (path reason : Text)
  | unreadableInput (reason : Text)
  | stuck
  deriving DecidableEq

namespace Error

/-- The error in plain words; a command that is stuck just stops. -/
def message? : Error → Option Text
  | unknownSelector selector known =>
    some ("unknown selector '" ++ selector ++ "' (expected one of: " ++ Text.join ", " known ++ ")")
  | notSwift path => some (path ++ " is not a .swift file")
  | notFound path => some (path ++ " does not exist")
  | noSwiftFiles path => some ("no .swift files found in " ++ path)
  | unreadable path reason => some ("failed to read " ++ path ++ ": " ++ reason)
  | unwritable path reason => some ("failed to write " ++ path ++ ": " ++ reason)
  | unreadableInput reason => some ("failed to read stdin: " ++ reason)
  | stuck => none

def exit : Error → Nat
  | stuck => 101
  | _ => 1

end Error

inductive Printed where
  | log (text : Text)
  | processed (shown : Text) (changed check : Bool)
  /-- So many of all files changed, or would change. -/
  | summary (changed total : Nat) (check : Bool)
  | error (message : Text)
  | usage
  deriving DecidableEq

namespace Printed

def ofError (error : Error) : List Printed :=
  error.message?.toList.map .error

def usageText : Text :=
  "usage: axgen [-v] selectors | generate [PATH] [--stdin] [-s SELECTOR] [--json] [--check]"

def share (changed total : Nat) : Text :=
  Nat.toDigits 10 changed ++ " of " ++ Nat.toDigits 10 total ++
    if total = 1 then (" file" : Text) else " files"

def styled (terminal : Bool) (style text : Text) : Text :=
  if terminal then "\x1b[" ++ style ++ "m" ++ text ++ "\x1b[0m" else text

/-- The lines to print, where `elapsed` stands for the time taken. Entries of the log keep the form
that they have without a terminal. -/
def lines (terminal : Bool) (elapsed : Text) : Printed → List Text
  | log text => [text]
  | processed shown true false => ["  " ++ styled terminal "32" "✓" ++ " " ++ shown]
  | processed shown true true =>
    ["  " ++ styled terminal "33" "✗" ++ " " ++ shown ++ " (out of date)"]
  | processed shown false _ => ["  " ++ styled terminal "2" ("· " ++ shown ++ " (unchanged)")]
  | summary changed total check =>
    let message : Text :=
      if check then share changed total ++ " out of date (" ++ elapsed ++ ")"
      else "Generated " ++ share changed total ++ " in " ++ elapsed
    [[], styled terminal "1" ("✨ " ++ message)]
  | error message => ["Error: " ++ message]
  | usage => [usageText]

def text (terminal : Bool) (elapsed : Text) (printed : List Printed) : Text :=
  (printed.flatMap (lines terminal elapsed)).flatMap (· ++ "\n")

/-- The lines of what is printed, cut also at the terminators within a text. -/
def textLines (terminal : Bool) (elapsed : Text) (printed : List Printed) : List Text :=
  (Lines.ofText (text terminal elapsed printed)).map Lines.withoutEnding

end Printed

/-- The number `n / scale`, where `scale` is one with `places` noughts. -/
def decimal (scale places n : Nat) : Text :=
  Nat.toDigits 10 (n / scale) ++ "." ++ (Nat.toDigits 10 (n % scale)).leftpad places '0'

def elapsedText (micros : Nat) : Text :=
  if micros < 1000 then Nat.toDigits 10 micros ++ "μs"
  else if micros < 1000000 then decimal 10 1 ((micros + 50) / 100) ++ "ms"
  else decimal 100 2 ((micros + 5000) / 10000) ++ "s"

end OutletWiring.Command

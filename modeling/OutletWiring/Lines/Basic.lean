import OutletWiring.Text.Basic

/-!
# The lines of a source file

A file is handled as the sequence of its lines. Each line keeps its terminator, `\n` or `\r\n`, and
only the last line of a file may lack one. Written blocks are put in with the terminators that the
file already uses.

Whatever gets to a line by its place says so to the monad it runs in, which may stop it there.
-/

namespace OutletWiring

/-- A monad that is told the places which a run gets to. -/
class Reach (m : Type → Type) where
  /-- Get to a place in so many lines, at most behind the last. -/
  reach (place length : Nat) : m Unit

export Reach (reach)

instance : Reach Id where
  reach _ _ := pure ()

abbrev Lines := List Text

namespace Lines

def ofText : Text → Lines
  | [] => []
  | c :: cs =>
    if c = '\n' then [c] :: ofText cs
    else match ofText cs with
      | [] => [[c]]
      | line :: lines => (c :: line) :: lines

def terminated (line : Text) : Bool :=
  line.getLast? == some '\n'

/-- The text of the lines. Every line but the last is terminated if it is not already. -/
def toText : Lines → Text
  | [] => []
  | [line] => line
  | line :: lines => (if terminated line then line else line ++ ['\n']) ++ toText lines

inductive Ending where
  | newline
  | returnNewline
  deriving DecidableEq

def Ending.text : Ending → Text
  | newline => ['\n']
  | returnNewline => ['\r', '\n']

/-- The terminator of the first terminated line; a newline if there is none. -/
def ending (lines : Lines) : Ending :=
  match lines.find? terminated with
  | some line => if Ending.returnNewline.text.isSuffixOf line then .returnNewline else .newline
  | none => .newline

/-- The line with a plain newline at its end turned into the given terminator. -/
def withEnding (ending : Ending) (line : Text) : Text :=
  match ending with
  | .newline => line
  | .returnNewline =>
    if terminated line && !(Ending.returnNewline.text.isSuffixOf line) then
      line.dropLast ++ Ending.returnNewline.text
    else line

def withoutEnding (line : Text) : Text :=
  if terminated line then Text.withoutSuffix "\r" line.dropLast else line

/-- The lines with a block put in before the line at `index`, in the terminators of the file. -/
def insertBlock (lines : Lines) (index : Nat) (block : Lines) : Lines :=
  lines.take index ++ block.map (withEnding lines.ending) ++ lines.drop index

/-- The lines with the last one terminated by `ending` if it has no newline. -/
def terminateLast (ending : Ending) : Lines → Lines
  | [] => []
  | [line] => if terminated line then [line] else [line ++ ending.text]
  | line :: lines => line :: terminateLast ending lines

section Monad

variable {m : Type → Type} [Monad m] [Reach m]

def reachLine (lines : Lines) (index : Nat) : m Unit :=
  reach (index + 1) lines.length

def insertBlockM (lines : Lines) (index : Nat) (block : Lines) : m Lines := do
  reach index lines.length
  return lines.insertBlock index block

/-- The lines with a block put in after the last one, which is terminated first. -/
def appendBlockM (lines : Lines) (block : Lines) : m Lines :=
  let closed := terminateLast lines.ending lines
  closed.insertBlockM closed.length block

end Monad

def appendBlock (lines : Lines) (block : Lines) : Lines :=
  Id.run (lines.appendBlockM block)

@[simp] theorem run_insertBlockM (lines : Lines) (index : Nat) (block : Lines) :
    Id.run (lines.insertBlockM index block) = lines.insertBlock index block :=
  rfl

@[simp] theorem run_appendBlockM (lines block : Lines) :
    Id.run (lines.appendBlockM block) = lines.appendBlock block :=
  rfl

end Lines

end OutletWiring

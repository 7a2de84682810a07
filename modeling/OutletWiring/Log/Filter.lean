import OutletWiring.Log.Entry
import OutletWiring.Pattern.Reading
import OutletWiring.Text.Numeral

/-!
# Log filters

A filter is a list of directives. A directive lets entries pass down to a level; it speaks of every
target or of those that start with a text, and of every entry or of those that have a field. About
an entry the most specific directive decides that covers it.
-/

namespace OutletWiring.Log

/-- How far down entries pass. -/
inductive Limit where
  | off
  | downTo (level : Level)
  deriving DecidableEq

namespace Limit

def admits : Limit → Level → Bool
  | off, _ => false
  | downTo lowest, level => level.rank ≤ lowest.rank

/-- The limit at a place; nothing passes at zero, and every entry at five. -/
def ofRank? : Nat → Option Limit
  | 0 => some off
  | 1 => some (downTo .error)
  | 2 => some (downTo .warn)
  | 3 => some (downTo .info)
  | 4 => some (downTo .debug)
  | 5 => some (downTo .trace)
  | _ => none

def ofName? (name : Text) : Option Limit :=
  [(("off" : Text), off), ("error", downTo .error), ("warn", downTo .warn),
    ("info", downTo .info), ("debug", downTo .debug), ("trace", downTo .trace)].lookup name

/-- The limit that a word gives by its place or, in any letter case, by its name. -/
def ofWord? (word : Text) : Option Limit :=
  match Text.wholeNumber? word with
  | some rank => ofRank? rank
  | none => ofName? (word.map Char.toLower)

end Limit

structure Directive where
  target? : Option Text := none
  fields : List Text := []
  /-- Covers only entries made within a span of work, and no entry is. -/
  spanned : Bool := false
  limit : Limit := .downTo .trace

namespace Directive

def covers (directive : Directive) (entry : Entry) : Bool :=
  !directive.spanned && directive.target?.all (·.isPrefixOf entry.target) &&
    directive.fields.all entry.hasField

/-- By the length of the target, where none is least, the number of fields, and the fields. -/
def order (a b : Directive) : Ordering :=
  (compare (a.target?.map List.length) (b.target?.map List.length)).then
    ((compare a.fields.length b.fields.length).then (compare a.fields b.fields))

def isStart (c : Char) : Bool :=
  Text.isAlphanumeric c || ['-', ':', '_', '['].contains c

/-- The directive with the limit of a word, where an empty word lets every entry pass. -/
def withLimit? (directive : Directive) (word : Text) : Option Directive :=
  if word.isEmpty then some directive
  else (Limit.ofWord? word).map fun limit => { directive with limit := limit }

/-- The directive for entries with a field. A value after `=` is a number or a pattern, and only
fields of a span have values to look at. -/
def withField? (directive : Directive) (field : Text) : Option Directive :=
  match Text.split '=' field with
  | name :: value :: _ =>
    if Text.isNumber value || Pattern.isReadable value then
      some { directive with fields := [name], spanned := true }
    else none
  | _ => if field.isEmpty then none else some { directive with fields := [field] }

/-- The directive at the end of a text, where `rest` is left from the byte `start` on. -/
def atEnd? (directive : Directive) (text : Text) (start : Nat) : Text → Option Directive
  | [] => some directive
  | '=' :: _ => do directive.withLimit? (← text.dropBytes? (start + 1))
  | _ => none

/-- The directive with what stands in brackets: the name of a span, a field in braces, or both.
`inner` is left from the byte `start` on, after the first bracket. -/
def withScope? (directive : Directive) (text : Text) (start : Nat) (inner : Text) :
    Option Directive := do
  let name := inner.takeWhile fun c => c != ']' && c != '\x7b'
  let nameEnd := start + Text.byteSize name
  match inner.drop name.length with
  | ']' :: rest => atEnd? { directive with spanned := true } text (nameEnd + 1) rest
  | '\x7b' :: more =>
    let field := more.takeWhile (· != '\x7d')
    let fieldEnd := nameEnd + 1 + Text.byteSize field
    match more.drop field.length with
    | '\x7d' :: ']' :: rest =>
      let named := { directive with spanned := !name.isEmpty }
      let fieldText ← Text.takeBytes? (Text.byteSize field) (← text.dropBytes? (nameEnd + 1))
      atEnd? (← named.withField? fieldText) text (fieldEnd + 2) rest
    | _ => none
  | _ => none

/-- A limit for every target; or a target, a restriction in brackets, or both, with or without a
limit after `=`. -/
def ofText? (text : Text) : Option Directive := do
  -- Marks are sought without the blanks around the text, but what stands between them is cut from
  -- the text with its blanks: one at the end belongs to the limit, and one at the start shifts
  -- every part.
  let body := text.trim
  let before := body.takeWhile fun c => c != '=' && c != '['
  let size := Text.byteSize before
  if !body.head?.any isStart then none
  else match body.drop before.length with
    | [] =>
      match Limit.ofWord? text with
      | some limit => some { limit := limit }
      | none => some { target? := some text }
    | '[' :: inner =>
      let target ← text.takeBytes? size
      let target? := if target.isEmpty then none else some target
      withScope? { target? := target? } text (size + 1) inner
    | rest => do atEnd? { target? := some (← text.takeBytes? size) } text size rest

end Directive

/-- Directives, later ones in place of earlier ones that are equal in order. -/
abbrev Filter := List Directive

namespace Filter

def quiet : Filter := [{ limit := .downTo .warn }]

def verbose : Filter :=
  [{ limit := .downTo .warn }, { target? := some library, limit := .downTo .debug }]

def ofText? (text : Text) : Option Filter :=
  ((Text.split ',' text).filter (! ·.isEmpty)).mapM Directive.ofText?

/-- The greatest directive in order that covers the entry, and of equals the later one. -/
def deciding? (filter : Filter) (entry : Entry) : Option Directive :=
  (filter.filter (·.covers entry)).foldl (fun best? directive =>
    match best? with
    | some best => if (best.order directive).isLE then some directive else some best
    | none => some directive) none

def shows (filter : Filter) (entry : Entry) : Bool :=
  (filter.deciding? entry).any (·.limit.admits entry.level)

end Filter

end OutletWiring.Log

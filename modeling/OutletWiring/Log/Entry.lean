import OutletWiring.Json
import OutletWiring.Stage.Basic
import OutletWiring.Text.Case

/-! What happens is logged as entries with a level, a target and fields, in one of two formats. -/

namespace OutletWiring.Log

inductive Level where
  | error
  | warn
  | info
  | debug
  | trace
  deriving DecidableEq

namespace Level

def rank : Level → Nat
  | error => 1
  | warn => 2
  | info => 3
  | debug => 4
  | trace => 5

def label : Level → Text
  | error => "ERROR"
  | warn => "WARN"
  | info => "INFO"
  | debug => "DEBUG"
  | trace => "TRACE"

end Level

inductive Value where
  | text (text : Text)
  | quoted (text : Text)
  | number (value : Nat)
  | flag (value : Bool)

namespace Value

def json : Value → Json
  | text shown => .string shown
  | quoted shown => .string shown
  | number value => .number value
  | flag value => .bool value

def plain : Value → Text
  | text shown => shown
  | quoted shown => Json.quoted shown
  | number value => (Json.number value).compact
  | flag value => (Json.bool value).compact

end Value

structure Entry where
  target : Text
  level : Level
  message : Text
  fields : List (Text × Value)

inductive Format where
  | json
  | pretty
  deriving DecidableEq

namespace Format

/-- The format of a name in any letter case. -/
def ofName? (name : Text) : Option Format :=
  if Text.lower name = "json" then some json
  else if Text.lower name = "pretty" then some pretty
  else none

def label : Format → Text
  | json => "Json"
  | pretty => "Pretty"

end Format

def library : Text := "accessibility_generator"

def command : Text := "axgen"

def started (format : Format) : Entry :=
  ⟨library ++ "::logging", .debug, "logging initialised", [("format", .text format.label)]⟩

def processed (path : Text) (changed : Bool) : Entry :=
  ⟨command, .debug, "processed", [("path", .text path), ("changed", .flag changed)]⟩

def ofEvent : Event → Entry
  | .capabilityAdded index =>
    ⟨library ++ "::transform::conformance", .trace, "added capability", [("line", .number index)]⟩
  | .alreadyBound outlet =>
    ⟨library ++ "::transform::setter", .trace, "already bound", [("outlet", .text outlet)]⟩
  | .bound outlet =>
    ⟨library ++ "::transform::setter", .trace, "bound", [("outlet", .text outlet)]⟩
  | .stageCompleted stage selector =>
    ⟨library ++ "::transform", .debug, "stage completed",
      [("stage", .text stage.word), ("selector", .quoted selector)]⟩
  | .stageDeclined stage selector reason =>
    ⟨library ++ "::transform", .debug, "stage aborted",
      [("stage", .text stage.word), ("selector", .quoted selector),
        ("reason", .text reason.message)]⟩
  | .runFinished selector className changed =>
    ⟨library ++ "::registry", .debug, "generator finished",
      [("selector", .quoted selector), ("class", .text className), ("changed", .flag changed)]⟩

namespace Entry

/-- The entry has a field of the name; its message is one. -/
def hasField (entry : Entry) (name : Text) : Bool :=
  name == ("message" : Text) || entry.fields.any (·.1 == name)

def plain (entry : Entry) : Text :=
  Text.join " " (entry.level.label :: entry.message ::
    entry.fields.map fun (key, value) => key ++ "=" ++ value.plain)

/-- The entry as JSON, with sorted fields. -/
def json (entry : Entry) : Json :=
  let fields : List (Text × Json) := ("message", .string entry.message) ::
    entry.fields.map fun (key, value) => (key, value.json)
  .object [
    ("fields", .object (fields.mergeSort fun a b => (compare a.1 b.1).isLE)),
    ("level", .string entry.level.label),
    ("target", .string entry.target)]

def render (entry : Entry) : Format → Text
  | .json => entry.json.compact
  | .pretty => entry.plain

end Entry

end OutletWiring.Log

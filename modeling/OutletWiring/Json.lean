import OutletWiring.Text.Basic

/-!
# JSON output

Reports and log lines are written as JSON. An object keeps its fields in the order given. Strings
escape the quote, the backslash and the characters below U+0020, and nothing else.
-/

namespace OutletWiring

inductive Json where
  | null
  | bool (value : Bool)
  | number (value : Nat)
  | string (text : Text)
  | array (items : List Json)
  | object (fields : List (Text × Json))

namespace Json

def ofOption (encode : α → Json) : Option α → Json
  | some value => encode value
  | none => null

def escaped (c : Char) : Text :=
  if c = '"' then "\\\""
  else if c = '\\' then "\\\\"
  else if c = '\x08' then "\\b"
  else if c = '\t' then "\\t"
  else if c = '\n' then "\\n"
  else if c = '\x0c' then "\\f"
  else if c = '\r' then "\\r"
  else if c.toNat < 0x20 then
    "\\u00" ++ [Nat.digitChar (c.toNat / 16), Nat.digitChar (c.toNat % 16)]
  else [c]

def quoted (text : Text) : Text :=
  "\"" ++ text.flatMap escaped ++ "\""

mutual

/-- The value on one line, without blanks. -/
def compact : Json → Text
  | null => "null"
  | bool value => if value then "true" else "false"
  | number value => Nat.toDigits 10 value
  | string text => quoted text
  | array items => "[" ++ Text.join "," (compactItems items) ++ "]"
  | object fields => "\x7b" ++ Text.join "," (compactFields fields) ++ "\x7d"

def compactItems : List Json → List Text
  | [] => []
  | item :: items => item.compact :: compactItems items

def compactFields : List (Text × Json) → List Text
  | [] => []
  | (key, value) :: fields => (quoted key ++ ":" ++ value.compact) :: compactFields fields

end

/-- Entries between brackets, each on a line of its own two blanks deeper than the brackets. -/
def bracketed (opening closing : Text) (depth : Nat) (entries : List Text) : Text :=
  if entries.isEmpty then opening ++ closing
  else
    let lineStart := '\n' :: List.replicate (2 * (depth + 1)) ' '
    opening ++ lineStart ++ Text.join ("," ++ lineStart) entries ++
      '\n' :: List.replicate (2 * depth) ' ' ++ closing

mutual

/-- The value spread over lines, inside `depth` brackets. -/
def indented (depth : Nat) : Json → Text
  | array items => bracketed "[" "]" depth (indentedItems (depth + 1) items)
  | object fields => bracketed "\x7b" "\x7d" depth (indentedFields (depth + 1) fields)
  | value => value.compact

def indentedItems (depth : Nat) : List Json → List Text
  | [] => []
  | item :: items => item.indented depth :: indentedItems depth items

def indentedFields (depth : Nat) : List (Text × Json) → List Text
  | [] => []
  | (key, value) :: fields =>
    (quoted key ++ ": " ++ value.indented depth) :: indentedFields depth fields

end

end Json

end OutletWiring

import OutletWiring.Generator
import OutletWiring.Json

/-! Standard output holds texts as they are, and reports as JSON. -/

namespace OutletWiring

def Report.fields (report : Report) : List (Text × Json) := [
  ("selector", .string report.selector),
  ("class_name", .ofOption .string report.className?),
  ("view_kind", .ofOption (.string ·.word) report.viewKind?),
  ("already_generated", .bool report.alreadyGenerated),
  ("outlets", .array (report.outlets.map .string)),
  ("completed", .array (report.completed.map (.string ·.word))),
  ("aborted", .ofOption (fun declined => .object [
    ("stage", .string declined.stage.word),
    ("reason", .string declined.reason.word)]) report.declined?),
  ("changed", .bool report.changed)]

namespace Command

inductive Output where
  | nothing
  | text (text : Text)
  | generated (text : Text) (report : Report)
  | reports (reports : List (Text × Report))
  deriving DecidableEq

namespace Output

def reportsJson (reports : List (Text × Report)) : Json :=
  .array (reports.map fun (shown, report) => .object (("path", .string shown) :: report.fields))

def render : Output → Text
  | .nothing => []
  | .text shown => shown
  | .generated shown report =>
    (Json.object [("source", .string shown), ("report", .object report.fields)]).compact ++ "\n"
  | .reports listed => (reportsJson listed).indented 0 ++ "\n"

end Output

end Command

end OutletWiring

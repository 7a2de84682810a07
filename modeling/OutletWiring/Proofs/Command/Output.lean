import OutletWiring.Command.Output
import OutletWiring.Proofs.Json

/-!
# Reading reports

Reports that are given out as JSON can be read back, one for each file, with nothing lost.
-/

namespace OutletWiring

namespace Json

variable {α : Type}

def text? : Json → Option Text
  | string text => some text
  | _ => none

theorem text?_string (text : Text) : (string text).text? = some text := rfl

def flag? : Json → Option Bool
  | bool value => some value
  | _ => none

def nullable? (decode : Json → Option α) : Json → Option (Option α)
  | null => some none
  | json => (decode json).map some

def list? (decode : Json → Option α) : Json → Option (List α)
  | array items => items.mapM decode
  | _ => none

/-- The one of some values whose word stands in the string. -/
def oneOf? (values : List α) (word : α → Text) (json : Json) : Option α := do
  let text ← json.text?
  values.find? (word · == text)

theorem nullable?_ofOption {decode : Json → Option α} {encode : α → Json}
    (hencode : ∀ value, encode value ≠ null) (hdecode : ∀ value, decode (encode value) = some value)
    (value? : Option α) : nullable? decode (ofOption encode value?) = some value? := by
  cases value? with
  | none => rfl
  | some value =>
    rw [ofOption, nullable?]
    · rw [hdecode]
      rfl
    · exact hencode value

theorem list?_map {decode : Json → Option α} {encode : α → Json}
    (hdecode : ∀ value, decode (encode value) = some value) (values : List α) :
    list? decode (array (values.map encode)) = some values := by
  have hcomp : decode ∘ encode = fun value => pure value := funext hdecode
  rw [list?, List.mapM_map, hcomp, List.mapM_pure, List.map_id']
  rfl

end Json

def Stage.Declined.ofJson? : Json → Option Stage.Declined
  | .object [(first, stage), (second, reason)] =>
    if first = "stage" ∧ second = "reason" then do
      return {
        stage := ← stage.oneOf? Stage.standard Stage.word
        reason := ← reason.oneOf? [.emptyBuffer, .noClassDeclaration, .noOutlets] Reason.word }
    else none
  | _ => none

namespace Report

def keys : List Text :=
  ["selector", "class_name", "view_kind", "already_generated", "outlets", "completed", "aborted",
    "changed"]

/-- The report with the given fields, which have to be all and in their order. -/
def ofFields? (fields : List (Text × Json)) : Option Report :=
  if fields.map Prod.fst = keys then
    match fields.map Prod.snd with
    | [selector, className, viewKind, alreadyGenerated, outlets, completed, declined, changed] => do
      return {
        selector := ← selector.text?
        className? := ← className.nullable? Json.text?
        viewKind? :=
          ← viewKind.nullable? (Json.oneOf? [.view, .viewController, .cell] ViewKind.word)
        alreadyGenerated := ← alreadyGenerated.flag?
        outlets := ← outlets.list? Json.text?
        completed := ← completed.list? (Json.oneOf? Stage.standard Stage.word)
        declined? := ← declined.nullable? Stage.Declined.ofJson?
        changed := ← changed.flag? }
    | _ => none
  else none

theorem oneOf?_viewKind (kind : ViewKind) :
    Json.oneOf? [.view, .viewController, .cell] ViewKind.word (.string kind.word) = some kind := by
  cases kind <;> decide

theorem oneOf?_stage (stage : Stage) :
    Json.oneOf? Stage.standard Stage.word (.string stage.word) = some stage := by
  cases stage <;> decide

theorem oneOf?_reason (reason : Reason) :
    Json.oneOf? [.emptyBuffer, .noClassDeclaration, .noOutlets] Reason.word
      (.string reason.word) = some reason := by
  cases reason <;> decide

theorem ofFields?_fields (report : Report) : ofFields? report.fields = some report := by
  have hclass : Json.nullable? Json.text? (.ofOption .string report.className?) =
      some report.className? := Json.nullable?_ofOption (by simp) Json.text?_string _
  have hkind : Json.nullable? (Json.oneOf? [.view, .viewController, .cell] ViewKind.word)
      (.ofOption (.string ·.word) report.viewKind?) = some report.viewKind? :=
    Json.nullable?_ofOption (by simp) oneOf?_viewKind _
  have houtlets : Json.list? Json.text? (.array (report.outlets.map .string)) =
      some report.outlets := Json.list?_map Json.text?_string _
  have hcompleted : Json.list? (Json.oneOf? Stage.standard Stage.word)
      (.array (report.completed.map (.string ·.word))) = some report.completed :=
    Json.list?_map oneOf?_stage _
  have hdeclined : Json.nullable? Stage.Declined.ofJson? (.ofOption (fun declined => .object [
      ("stage", .string declined.stage.word), ("reason", .string declined.reason.word)])
      report.declined?) = some report.declined? := by
    refine Json.nullable?_ofOption (by simp) (fun declined => ?_) _
    rw [Stage.Declined.ofJson?, if_pos ⟨rfl, rfl⟩, oneOf?_stage, oneOf?_reason]
    rfl
  have hkeys : report.fields.map Prod.fst = keys := rfl
  rw [ofFields?, if_pos hkeys]
  simp only [fields, List.map_cons, List.map_nil, hclass, hkind, houtlets, hcompleted, hdeclined]
  rfl

end Report

namespace Command.Output

def reportOfJson? : Json → Option (Text × Report)
  | .object ((key, shown) :: fields) =>
    if key = "path" then do return (← shown.text?, ← Report.ofFields? fields) else none
  | _ => none

/-- The reports in a text, each with the path as it is shown. -/
def reportsOfText? (text : Text) : Option (List (Text × Report)) := do
  (← Json.ofText? text).list? reportOfJson?

theorem reportsOfText?_render (listed : List (Text × Report)) :
    reportsOfText? (render (.reports listed)) = some listed := by
  have hread : Json.ofText? ((reportsJson listed).indented 0 ++ "\n") = some (reportsJson listed) :=
    Json.ofText?_indented _ (by decide)
  rw [reportsOfText?, render, hread]
  refine Json.list?_map (fun file => ?_) _
  rw [reportOfJson?, if_pos rfl, Json.text?_string, Report.ofFields?_fields]
  rfl

end Command.Output

end OutletWiring

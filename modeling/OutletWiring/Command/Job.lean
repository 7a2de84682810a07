import OutletWiring.Command.Output
import OutletWiring.Command.Printed
import OutletWiring.FileTree
import OutletWiring.Log.Settings

/-!
# Running a variant over files

A job is one variant run over what stands at a path, or over standard input. Files are read, changed
and written in turn, up to the first that fails; what was written before stays.
-/

namespace OutletWiring

namespace Command

/-- What a command asks of the machine on which it runs. Whatever can fail gives a reason. -/
structure Host (m : Type → Type) where
  input : m (Except Text Text)
  locate : Text → m Located
  read : Path → m (Except Text Text)
  write : Path → Text → m (Except Text Unit)

structure Result where
  exit : Nat
  stdout : Output := .nothing
  stderr : List Printed := []
  deriving DecidableEq

def Result.failed (error : Error) : Result where
  exit := error.exit
  stderr := Printed.ofError error

structure Source where
  path : Path
  shown : Text

/-- What became of some files, up to the first that failed. -/
structure Progress where
  stderr : List Printed := []
  reports : List (Text × Report) := []
  error? : Option Error := none

/-- The name is that of a Swift file: something, then `.swift`. -/
def isSwift (name : Text) : Bool :=
  (".swift" : Text).isSuffixOf name && name.length > (".swift" : Text).length

def swiftFiles (order : Path → Path → Bool) (files : List Path) : List Path :=
  (files.filter fun path => path.getLast?.any isSwift).mergeSort order

/-- A path below a directory, shown after the directory as it was given. -/
def shownBelow (argument : Text) (path : Path) : Text :=
  (if argument.getLast? = some '/' then argument else argument ++ "/") ++ Text.join "/" path

/-- The file below the directory `base` to which the argument leads. -/
def Source.below (argument : Text) (base path : Path) : Source :=
  ⟨base ++ path, shownBelow argument path⟩

structure Job where
  variant : Variant
  check : Bool
  json : Bool
  order : Path → Path → Bool
  log : Log.Settings

namespace Job

variable {m : Type → Type} [Monad m]

/-- Process a text; nothing if the run is stuck. -/
def process (job : Job) (text : Text) : Option Generated :=
  job.variant.run (Lines.ofText text)

def logged (job : Job) (entries : List Log.Entry) : List Printed :=
  (job.log.render entries).map .log

def exit (job : Job) (changed : Bool) : Nat :=
  if job.check && changed then 1 else 0

/-- What is logged of a file before it is written. -/
def history (job : Job) (source : Source) (generated : Generated) : List Printed :=
  job.logged (generated.events.map Log.ofEvent ++
    [Log.processed source.shown generated.report.changed])

def progress (job : Job) (source : Source) (generated : Generated) : Except Text Unit → Progress
  | .ok _ => {
      stderr := job.history source generated ++
        [.processed source.shown generated.report.changed job.check]
      reports := [(source.shown, generated.report)] }
  | .error reason => {
      stderr := job.history source generated
      error? := some (.unwritable source.shown reason) }

/-- Process a file. Only a file that changes is written. -/
def processFile (job : Job) (host : Host m) (source : Source) : m Progress := do
  match ← host.read source.path with
  | .error reason => return { error? := some (.unreadable source.shown reason) }
  | .ok text =>
    match job.process text with
    | none => return { error? := some .stuck }
    | some generated =>
      if generated.report.changed && !job.check then
        return job.progress source generated (← host.write source.path generated.lines.toText)
      else return job.progress source generated (.ok ())

/-- Process files in turn, up to the first that fails. -/
def processAll (job : Job) (host : Host m) : List Source → m Progress
  | [] => return {}
  | source :: sources => do
    let first ← job.processFile host source
    if first.error?.isSome then return first
    else
      let rest ← job.processAll host sources
      return {
        stderr := first.stderr ++ rest.stderr
        reports := first.reports ++ rest.reports
        error? := rest.error? }

def finish (job : Job) (progress : Progress) : Result :=
  match progress.error? with
  | some error => { exit := error.exit, stderr := progress.stderr ++ Printed.ofError error }
  | none =>
    let changed := progress.reports.countP (·.2.changed)
    { exit := job.exit (0 < changed)
      stdout := if job.json then .reports progress.reports else .nothing
      stderr := progress.stderr ++ [.summary changed progress.reports.length job.check] }

def runPath (job : Job) (host : Host m) (argument : Text) : m Result := do
  match ← host.locate argument with
  | .missing => return .failed (.notFound argument)
  | .file path =>
    if path.getLast?.any isSwift then
      return job.finish (← job.processAll host [⟨path, argument⟩])
    else return .failed (.notSwift argument)
  | .directory base files =>
    let sources := (swiftFiles job.order files).map (Source.below argument base)
    if sources.isEmpty then return .failed (.noSwiftFiles argument)
    else return job.finish (← job.processAll host sources)

def output (job : Job) (generated : Generated) : Output :=
  if job.json then .generated generated.lines.toText generated.report
  else if job.check then .nothing
  else .text generated.lines.toText

def runInput (job : Job) (host : Host m) : m Result := do
  match ← host.input with
  | .error reason => return .failed (.unreadableInput reason)
  | .ok text =>
    match job.process text with
    | none => return .failed .stuck
    | some generated =>
      return {
        exit := job.exit generated.report.changed
        stdout := job.output generated
        stderr := job.logged (generated.events.map Log.ofEvent) }

end Job

end Command

/-- A machine with the files of a tree, which changes with each write, and standard input. -/
def FileTree.host (input : Content) : Command.Host (StateM FileTree) where
  input := return input.read
  locate argument := return (← get).locate argument
  read path := return (← get).read path
  write path text := modifyGet (·.write path text)

end OutletWiring

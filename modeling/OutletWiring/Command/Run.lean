import OutletWiring.Command.Arguments
import OutletWiring.Command.Job

/-! The arguments and the environment decide what is run, on the standard catalogue of variants. -/

namespace OutletWiring.Command

structure Environment where
  selector? : Option Text := none
  logFormat? : Option Text := none
  logFilter? : Option Text := none
  /-- How a walk orders the files of a directory. -/
  order : Path → Path → Bool := Path.byName

/-- The selector of a run: that of the options, else of the environment, else of developers. -/
def chosenSelector (environment : Environment) (options : Options) : Text :=
  (options.selector?.or environment.selector?).getD Variant.dev.selector

variable {m : Type → Type} [Monad m]

def generate (environment : Environment) (log : Log.Settings) (options : Options)
    (host : Host m) : m Result :=
  let selector := chosenSelector environment options
  match Catalogue.standard.resolve? selector with
  | none => return .failed (.unknownSelector selector Catalogue.standard.selectors)
  | some variant =>
    let job : Job := ⟨variant, options.check, options.json, environment.order, log⟩
    match options.fromInput, options.path? with
    | true, _ => job.runInput host
    | false, some path => job.runPath host path
    | false, none => return { exit := 0 }

def listSelectors : Result where
  exit := 0
  stdout := .text (Catalogue.standard.selectors.flatMap (· ++ "\n"))

def serve (environment : Environment) (request : Request) (host : Host m) : m Result := do
  let log := Log.Settings.make environment.logFormat? environment.logFilter? request.verbose
  let result ← match request.subcommand with
    | .selectors => pure listSelectors
    | .generate options => generate environment log options host
  return { result with stderr := (log.render [Log.started log.format]).map .log ++ result.stderr }

def run (environment : Environment) (arguments : List Text) (host : Host m) : m Result :=
  match Request.ofArguments arguments with
  | .ok request => serve environment request host
  | .error .help => return { exit := 0, stdout := .text (Printed.usageText ++ "\n") }
  | .error .misuse => return { exit := 2, stderr := [.usage] }

def serveOn (environment : Environment) (request : Request) (input : Content) (tree : FileTree) :
    Result × FileTree :=
  (serve environment request (FileTree.host input)).run tree

def runOn (environment : Environment) (arguments : List Text) (input : Content)
    (tree : FileTree) : Result × FileTree :=
  (run environment arguments (FileTree.host input)).run tree

end OutletWiring.Command

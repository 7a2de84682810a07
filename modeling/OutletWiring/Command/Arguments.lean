import OutletWiring.Text.Basic

/-!
# Arguments of the command

`selectors` lists the variants; `generate` runs one over a path or over standard input. Flags stand
anywhere after the word they belong to, long ones alone and short ones also together, and an option
takes the rest of its argument or the next argument as its value.
-/

namespace OutletWiring.Command

structure Options where
  path? : Option Text
  /-- Read standard input and write standard output; a path is not looked at. -/
  fromInput : Bool
  selector? : Option Text
  json : Bool
  /-- Write nothing, and tell by the exit code whether anything would change. -/
  check : Bool
  deriving DecidableEq

inductive Subcommand where
  | selectors
  | generate (options : Options)
  deriving DecidableEq

structure Request where
  verbose : Bool
  subcommand : Subcommand
  deriving DecidableEq

/-- Why a command line is not carried out. -/
inductive Refusal where
  | help
  | misuse
  deriving DecidableEq

inductive Scope where
  | top
  | selectors
  | generate
  deriving DecidableEq

inductive Flag where
  | verbose
  | stdin
  | json
  | check
  deriving DecidableEq

namespace Flag

def ofName? (name : Text) : Option Flag :=
  [(("verbose" : Text), verbose), ("stdin", stdin), ("json", json), ("check", check)].lookup name

def understoodIn (scope : Scope) : Flag → Bool
  | verbose => true
  | _ => scope == .generate

end Flag

/-- How the next argument is read. -/
inductive Mode where
  | free
  | awaitingValue
  | pathsOnly
  deriving DecidableEq

structure Reading where
  flags : List Flag := []
  selector? : Option Text := none
  path? : Option Text := none
  mode : Mode := .free

namespace Reading

/-- Read a flag, which may be given once. -/
def addFlag (reading : Reading) (scope : Scope) (flag : Flag) : Except Refusal Reading :=
  if flag.understoodIn scope && !reading.flags.contains flag then
    .ok { reading with flags := flag :: reading.flags }
  else .error .misuse

def addSelector (reading : Reading) (value : Text) : Except Refusal Reading :=
  if reading.selector?.isNone then
    .ok { reading with selector? := some value, mode := .free }
  else .error .misuse

/-- Read a path, which only `generate` takes, once, and not empty. -/
def addPath (reading : Reading) (scope : Scope) (path : Text) : Except Refusal Reading :=
  if scope == .generate && reading.path?.isNone && !path.isEmpty then
    .ok { reading with path? := some path }
  else .error .misuse

/-- Read a long flag or option, without its dashes. -/
def addLong (reading : Reading) (scope : Scope) (argument : Text) : Except Refusal Reading :=
  let name := argument.takeWhile (· != '=')
  let value? := (argument.dropWhile (· != '=')).tail?
  if name = "selector" && scope == .generate then
    match value? with
    | some value => reading.addSelector value
    | none => .ok { reading with mode := .awaitingValue }
  else
    match Flag.ofName? name, value? with
    | some flag, none => reading.addFlag scope flag
    | none, none => .error (if name = "help" then .help else .misuse)
    | _, some _ => .error .misuse

/-- Read short flags, without their dash; a selector takes what is left as its value. -/
def addShorts (scope : Scope) : Reading → Text → Except Refusal Reading
  | reading, [] => .ok reading
  | reading, letter :: rest =>
    if letter = 'v' then do addShorts scope (← reading.addFlag scope .verbose) rest
    else if letter = 's' && scope == .generate then
      match rest with
      | [] => .ok { reading with mode := .awaitingValue }
      | '=' :: value => reading.addSelector value
      | value => reading.addSelector value
    else .error (if letter = 'h' then .help else .misuse)

def add (scope : Scope) (reading : Reading) (argument : Text) : Except Refusal Reading :=
  match reading.mode, argument with
  | .pathsOnly, path => reading.addPath scope path
  | .awaitingValue, ['-'] => reading.addSelector argument
  | .awaitingValue, '-' :: _ => .error .misuse
  | .awaitingValue, value => reading.addSelector value
  | .free, ['-'] => reading.addPath scope argument
  | .free, ['-', '-'] => .ok { reading with mode := .pathsOnly }
  | .free, '-' :: '-' :: long => reading.addLong scope long
  | .free, '-' :: shorts => addShorts scope reading shorts
  | .free, path => reading.addPath scope path

/-- Read all arguments; an option at the end must have its value. -/
def ofArguments (scope : Scope) (arguments : List Text) : Except Refusal Reading := do
  let reading ← arguments.foldlM (add scope) {}
  if reading.mode = .awaitingValue then .error .misuse else .ok reading

end Reading

namespace Request

/-- The request of the arguments after `generate`; a path is needed unless input is read. -/
def generate (verbose : Bool) (arguments : List Text) : Except Refusal Request := do
  let reading ← Reading.ofArguments .generate arguments
  let fromInput := reading.flags.contains .stdin
  if reading.path?.isNone && !fromInput then .error .misuse
  else
    .ok ⟨verbose || reading.flags.contains .verbose, .generate {
      path? := reading.path?
      fromInput := fromInput
      selector? := reading.selector?
      json := reading.flags.contains .json
      check := reading.flags.contains .check }⟩

def selectors (verbose : Bool) (arguments : List Text) : Except Refusal Request := do
  let reading ← Reading.ofArguments .selectors arguments
  .ok ⟨verbose || reading.flags.contains .verbose, .selectors⟩

/-- Help is given on the command as a whole, or on one word that starts a request. -/
def help : List Text → Refusal
  | [] => .help
  | [topic] =>
    if topic = "generate" || topic = "selectors" || topic = "help" then .help else .misuse
  | _ => .misuse

def after (reading : Reading) : List Text → Except Refusal Request
  | [] => .error .misuse
  | argument :: arguments =>
    let verbose := reading.flags.contains .verbose
    if argument = "generate" then generate verbose arguments
    else if argument = "selectors" then selectors verbose arguments
    else if argument = "help" then .error (help arguments)
    else do
      let next ← reading.add .top argument
      if next.mode = .free then after next arguments else .error .misuse

def ofArguments (arguments : List Text) : Except Refusal Request :=
  after {} arguments

end Request

end OutletWiring.Command

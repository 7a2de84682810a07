import OutletWiring.Command.Run

/-!
# The command line

The machine that the process runs on, and the process: it carries out its arguments and prints the
result.
-/

namespace OutletWiring.Command

/-- The value of an action, or why it failed. -/
def attempt (action : IO α) : IO (Except Text α) := do
  try return .ok (← action)
  catch failure => return .error (toString failure).toList

/-- The regular files below a directory; one that cannot be listed has none. -/
partial def filesBelow (directory : String) : IO (List Path) := do
  let .ok entries ← attempt do (← IO.FS.realPath directory).readDir | return []
  let mut files := []
  for entry in entries do
    let name := entry.fileName.toList
    match ← attempt do return (← entry.path.symlinkMetadata).type with
    | .ok .dir =>
      files := files ++ (← filesBelow (directory ++ "/" ++ entry.fileName)).map (name :: ·)
    | .ok .file => files := files ++ [[name]]
    | _ => pure ()
  return files

partial def readAll (stream : IO.FS.Stream) (read : ByteArray) : IO ByteArray := do
  let chunk ← stream.read 65536
  if chunk.isEmpty then return read else readAll stream (read ++ chunk)

def decoded : Except Text ByteArray → Except Text Text
  | .ok bytes => (Content.ofBytes bytes).read
  | .error reason => .error reason

def location (path : Path) : String :=
  String.ofList (Text.join "/" path)

def machine : Host IO where
  input := decoded <$> attempt do readAll (← IO.getStdin) .empty
  locate argument := do
    let path := Text.split '/' argument
    match ← attempt do return (← (← IO.FS.realPath (location path)).metadata).type with
    | .ok .file => return .file path
    | .ok .dir => return .directory path (← filesBelow (location path))
    | _ => return .missing
  read path := decoded <$> attempt (IO.FS.readBinFile (location path))
  write path text := attempt (IO.FS.writeFile (location path) (String.ofList text))

def environmentValue? (name : String) : IO (Option Text) := do
  return (← IO.getEnv name).map String.toList

def execute (arguments : List Text) : IO UInt32 := do
  let start ← IO.monoNanosNow
  let environment : Environment := {
    selector? := ← environmentValue? "AXGEN_SELECTOR"
    logFormat? := ← environmentValue? "AXGEN_LOG_FORMAT"
    logFilter? := ← environmentValue? "RUST_LOG" }
  let result ← run environment arguments machine
  IO.print (String.ofList result.stdout.render)
  let elapsed := elapsedText (((← IO.monoNanosNow) - start) / 1000)
  let terminal ← (← IO.getStderr).isTty
  IO.eprint (String.ofList (Printed.text terminal elapsed result.stderr))
  return UInt32.ofNat result.exit

end OutletWiring.Command

def main (arguments : List String) : IO UInt32 :=
  OutletWiring.Command.execute (arguments.map String.toList)

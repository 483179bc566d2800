import RequestSchema.Cli.Access
import Std.Time.Format

set_option autoImplicit false

/-!
# The program

Gathers what a run depends on, and carries out what it comes to: its texts, the files it wrote and
its exit code. There is no network listener here: a server is announced and not started.
-/

namespace RequestSchema

/-- The file at a place, or a stand-in for the content of a folder. Names that are no text are not
    looked up. -/
def fileAt (spot : Spot) : IO Files :=
  match spot.names, spot.pathFrom [] with
  | _ :: _, .plain path =>
    try
      let content ← IO.FS.readBinFile path
      pure [(spot, content.toList)]
    catch
      | .inappropriateType _ 21 _ => pure [(spot.inside, [])]
      | _ => pure []
  | _, _ => pure []

def filesAt (spots : List Spot) : IO Files := do
  let found ← spots.mapM fileAt
  pure found.flatten

/-- Fixed-size parts of the input until one is empty. -/
partial def readToEnd (stream : IO.FS.Stream) (seen : ByteArray) : IO ByteArray := do
  let part ← stream.read 65536
  if part.isEmpty then pure seen else readToEnd stream (seen ++ part)

def variableOf (bytes : List UInt8) : Option (Text × Text) := do
  let (name, value) := splitLong (Utf8.decodeName bytes)
  pure (name, ← value)

/-- The environment of this process; empty where it cannot be read. -/
def environment : IO (List (Text × Text)) := do
  try
    let content ← IO.FS.readBinFile "/proc/self/environ"
    pure ((content.toList.splitOn 0).filterMap variableOf)
  catch _ => pure []

def stampNow : IO Text := do
  let now ← Std.Time.Timestamp.now
  let stamp : String :=
    (Std.Time.DateTime.ofTimestamp now .UTC).format "uuuu-MM-dd'T'HH:mm:ss.SSSSSS'Z'"
  pure stamp

def gather (arguments : List String) : IO Invocation := do
  let directory ← IO.currentDir
  let run : Invocation :=
    ⟨arguments.map .plain, [], ← environment, [], [toString directory], ← stampNow,
      usualComplaint, usualRoom⟩
  let run := { run with files := ← filesAt run.spots }
  let run := { run with files := ← filesAt run.spots }
  if run.readsInput then
    let input ← readToEnd (← IO.getStdin) .empty
    pure { run with input := input.toList }
  else pure run

def announce (service : Service) : IO Unit :=
  IO.eprintln
    ("No network listener: POST http://" ++ service.host ++ ":" ++ toString service.port ++
      service.route ++ " is not served." : Text).characters

def carryOut (before : Files) (outcome : Outcome) : IO UInt32 := do
  for (spot, content) in before.changes outcome.files do
    if let .plain path := spot.pathFrom [] then IO.FS.writeBinFile path content.toByteArray
  IO.eprint outcome.stderr.characters
  IO.print outcome.stdout.characters
  outcome.service.forM announce
  pure outcome.exit.toUInt32

end RequestSchema

def main (arguments : List String) : IO UInt32 := do
  let run ← RequestSchema.gather arguments
  RequestSchema.carryOut run.files run.outcome

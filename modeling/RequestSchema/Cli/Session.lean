import RequestSchema.Cli.Arguments
import RequestSchema.Files
import RequestSchema.Conversion.Fault
import RequestSchema.Encoding.Utf8
import RequestSchema.Http.Route
import RequestSchema.Json.Printer
import RequestSchema.Log.Level
import RequestSchema.Log.Line
import RequestSchema.Settings.Loading

set_option autoImplicit false

/-!
# Sessions

What a run of the program starts from, what it leaves behind, and the log it writes on the way: its
settings are loaded and its log is opened before a command starts.
-/

namespace RequestSchema

/-- Everything that a run depends on: its arguments and input, the environment, the files, the names
    that lead to the working folder, the time that its log shows, what the log says of a line that
    its file does not take, and the widest indentation for which there is memory. -/
structure Invocation where
  arguments : List Text
  input : List UInt8
  environment : List (Text × Text)
  files : Files
  directory : List Text
  stamp : Text
  complaint : Text → Text
  room : Nat

/-- The first line of what the log says of a line that its file does not take. The others name
    places in the code of the log. -/
def usualComplaint (_ : Text) : Text := "--- Logging error ---\n"

/-- As many blanks as fit into a few gigabytes. -/
def usualRoom : Nat := 0x100000000

/-- A server that is to be started, with its route as it is shown. -/
structure Service where
  host : Text
  port : Int
  route : Text

/-- Why a run ends without a message. -/
inductive Crash where
  | fault (fault : Fault)
  | logLevel (problem : LevelProblem)
  | file (problem : FileProblem)
  | route (problem : RouteProblem)
  | unwritten (problem : WriteProblem)

structure Outcome where
  exit : Nat
  stdout : Text
  stderr : Text
  crash : Option Crash
  service : Option Service
  files : Files

namespace Outcome

def failure (exit : Nat) (stderr : Text) (files : Files) : Outcome :=
  ⟨exit, "", stderr, none, none, files⟩

def crashed (crash : Crash) (stderr : Text) (files : Files) : Outcome :=
  ⟨1, "", stderr, some crash, none, files⟩

/-- What comes of a wrong use. A path that is none ends a run without a message. -/
def misuse (scope : Scope) (problem : UsageProblem) (files : Files) : Outcome :=
  match problem with
  | .unusablePath => .crashed (.file .unusable) "" files
  | problem => .failure 2 (problem.report scope) files

def success (stdout stderr : Text) (files : Files) : Outcome :=
  ⟨0, stdout, stderr, none, none, files⟩

/-- The end of a run by arguments that its settings hold. A question for help is answered on the
    standard output; after an error the usage stands among the errors. -/
def quit (code : Nat) (files : Files) : Outcome :=
  if code = 0 then .success settingsUsage "" files else .failure code settingsUsage files

end Outcome

/-! ## Settings -/

def Invocation.surroundings (run : Invocation) : Surroundings := ⟨run.environment, run.files⟩

def SettingsProblem.text (p : SettingsProblem) : Text :=
  Text.intercalate "." p.location ++ "\n  [type=" ++ p.problem.text ++ "]"

def SettingsFault.message : SettingsFault → Text
  | undecodable error => error.message
  | notJson error => error.message
  | groupNotJson group source =>
    "error parsing value for field \"" ++ group.key ++ "\" from source \"" ++ source.text ++ "\""
  | lookup problem => problem.message
  | unreadable problem => "[Errno " ++ toString problem.number ++ "] " ++ problem.text
  | invalid problems =>
    let summary : Text := toString problems.length ++ " validation errors"
    Text.intercalate "\n" (summary :: problems.map SettingsProblem.text)

/-! ## The log -/

/-- An open log: its format, the least rank it shows, and the file it goes to besides the errors. -/
structure OpenLog where
  format : LogFormat
  threshold : Nat
  file : Option Spot

def formatOf (name : Text) : LogFormat :=
  if lowered name == "console" then .console else .json

/-- The files with the log file among them, from the moment it is opened. -/
def openLogFile (path : Text) (spot : Spot) (files : Files) : Except FileProblem Files :=
  match files.obstacleAt? spot path with
  | some problem => .error problem
  | none => .ok (if (files.lookup spot).isSome then files else files.put spot [])

/-- Opens the log: its file first, and the level after it. The file is there even if the level is
    wrong. -/
def openLog (settings : LoggingSettings) (files : Files) : Except Crash OpenLog × Files :=
  let finish (file : Option Spot) (files : Files) : Except Crash OpenLog × Files :=
    match levelRank settings.level with
    | .ok threshold => (.ok ⟨formatOf settings.format, threshold, file⟩, files)
    | .error problem => (.error (.logLevel problem), files)
  match settings.file with
  | none => finish none files
  | some path =>
    let spot := Spot.ofPath path
    match openLogFile path spot files with
    | .error problem => (.error (.file problem), files)
    | .ok files => finish (some spot) files

namespace OpenLog

/-- The lines of the entries that the log shows. -/
def lines (log : OpenLog) (stamp : Text) (entries : List LogEntry) : List Text :=
  (logsFrom log.threshold entries).map fun entry => entry.line log.format stamp ++ "\n"

/-- The files after the log's file took up a text. -/
def store (log : OpenLog) (text : Text) (files : Files) : Files :=
  match log.file with
  | none => files
  | some spot => files.put spot ((files.lookup spot).getD [] ++ Utf8.encode text)

end OpenLog

end RequestSchema

import RequestSchema.Cli.Session
import RequestSchema.Conversion.Report
import RequestSchema.Http.Endpoint
import RequestSchema.Json.Printer

set_option autoImplicit false

/-!
# Running the program

A run reads the arguments in front of the command, loads the settings, opens the log and then runs
the command. Whatever goes wrong ends it, with nothing on the standard output.
-/

namespace RequestSchema

/-! ## In front of the command -/

/-- The options in front of the command. -/
structure ProgramOptions where
  configFile : Option (List UInt8)
  logLevel : Option Text
  logFormat : Option Text

def configFileContent (files : Files) (path : Text) : Except UsageProblem (List UInt8) :=
  let hint := OptionName.configFile.hint
  if !Files.isUsable path then .error .unusablePath
  else
    match files.find (Spot.ofPath path) with
    | .file content => .ok content
    | .folder => .error (.invalidValue hint ("File " ++ quotedPath path ++ " is a directory."))
    | _ => .error (.invalidValue hint ("File " ++ quotedPath path ++ " does not exist."))

def configFileVariable : Text := "APIDOC_SCHEMA_CONFIG_FILE"

/-- Takes an option's value into the options. -/
def ProgramOptions.take (files : Files) (given : List Given) (options : ProgramOptions)
    (option : OptionName) : Except UsageProblem ProgramOptions :=
  match option, valueOf option given with
  | .configFile, some path =>
    (configFileContent files path).map fun content => { options with configFile := some content }
  | .logLevel, some text =>
    (choiceArgument option levelChoices text).map fun word => { options with logLevel := some word }
  | .logFormat, some text =>
    (choiceArgument option formatChoices text).map fun word =>
      { options with logFormat := some word }
  | _, _ => .ok options

/-- The file of settings that the environment names, unless an option does. -/
def ProgramOptions.complete (run : Invocation) (options : ProgramOptions) :
    Except UsageProblem ProgramOptions :=
  match options.configFile, run.environment.lookup configFileVariable with
  | none, some path =>
    if path.isEmpty then .ok options
    else (configFileContent run.files path).map fun content =>
      { options with configFile := some content }
  | _, _ => .ok options

def ProgramOptions.ofGiven (run : Invocation) (given : List Given) :
    Except UsageProblem ProgramOptions :=
  ((optionsIn given).foldlM (ProgramOptions.take run.files given) ⟨none, none, none⟩).bind
    (ProgramOptions.complete run)

def ProgramOptions.load (run : Invocation) (options : ProgramOptions) :
    Except SettingsFault Settings :=
  match options.configFile with
  | some content => Settings.loadFile run.surroundings content
  | none => Settings.load run.surroundings

def orText (chosen : Option Text) (text : Text) : Text := chosen.getD text

/-- The settings with the options over them. -/
def ProgramOptions.over (options : ProgramOptions) (settings : Settings) : Settings :=
  { settings with
    logging := { settings.logging with
      level := orText (options.logLevel.map uppered) settings.logging.level
      format := orText options.logFormat settings.logging.format } }

/-- A run whose settings are loaded and whose log is open. -/
structure Session where
  run : Invocation
  settings : Settings
  log : OpenLog
  files : Files

namespace Session

/-- What the log shows of a line. A file takes no line with surrogates, which the log then tells. -/
def shownLine (session : Session) (line : Text) : Text :=
  if session.log.file.isSome && line.hasSurrogates then
    withEscapes line ++ session.run.complaint line
  else withEscapes line

/-- What the log shows of some entries. -/
def logText (session : Session) (entries : List LogEntry) : Text :=
  Text.join ((session.log.lines session.run.stamp entries).map session.shownLine)

/-- The files after some entries were logged. -/
def logged (session : Session) (entries : List LogEntry) : Files :=
  let lines := session.log.lines session.run.stamp entries
  let text := Text.join (lines.filter fun line => !line.hasSurrogates)
  if text.isEmpty then session.files else session.log.store text session.files

def usageError (session : Session) (command : Command) (problem : UsageProblem) : Outcome :=
  .misuse (.command command) problem session.files

end Session

/-! ## Converting -/

/-- The options of a conversion. -/
structure ConvertOptions where
  output : Option Spot
  strict : Option Bool
  indent : Int
  input : List UInt8

def outputSpot (files : Files) (path : Text) : Except UsageProblem Spot :=
  let spot := Spot.ofPath path
  if !Files.isUsable path then .error .unusablePath
  else
    match files.find spot with
    | .folder =>
      .error (.invalidValue OptionName.outputFile.hint
        ("File " ++ quotedPath path ++ " is a directory."))
    | _ => .ok spot

def ConvertOptions.take (files : Files) (given : List Given) (options : ConvertOptions)
    (option : OptionName) : Except UsageProblem ConvertOptions :=
  match option, valueOf option given with
  | .outputFile, some path =>
    (outputSpot files path).map fun spot => { options with output := some spot }
  | .indent, some text =>
    (intArgument option text).map fun indent => { options with indent := indent }
  | _, _ => .ok options

def inputHint : Text := "'[INPUT_FILE]'"

/-- The content of the input: a file, or the standard input. -/
def inputContent (run : Invocation) (files : Files) (path : Text) :
    Except UsageProblem (List UInt8) :=
  if path == "-" then .ok run.input
  else
    (files.read path).mapError fun problem =>
      if problem = .unusable then .unusablePath
      else .invalidValue inputHint ("'" ++ Utf8.shownName path ++ "': " ++ problem.text)

/-- The last of the options that turn strictness on and off. -/
def strictOf (given : List Given) : Option Bool :=
  given.reverse.findSome? fun g =>
    match g.option with
    | .strict => some true
    | .noStrict => some false
    | _ => none

def defaultIndent : Int := 2

def noExtra (texts : List Text) : Except UsageProblem Unit :=
  if texts.isEmpty then .ok () else .error (.extraArguments texts)

def ConvertOptions.ofArguments (session : Session) (arguments : Arguments) :
    Except UsageProblem ConvertOptions := do
  let options ← (optionsIn arguments.given).foldlM
    (ConvertOptions.take session.files arguments.given)
    ⟨none, strictOf arguments.given, defaultIndent, []⟩
  let input ← inputContent session.run session.files (arguments.others.headD "-")
  noExtra (arguments.others.drop 1)
  pure { options with input := input }

/-- The message for a fault, if it is one of the converter's verdicts. -/
def Fault.report? : Fault → Option Text
  | invalidType value problem location =>
    some ("Malformed type reference: " ++ invalidTypeMessage value problem location)
  | invalidDocument problem => some ("Conversion failed: " ++ problem.text)
  | unresolvedTypes warnings => some ("Conversion failed: " ++ unresolvedMessage warnings)
  | _ => none

/-- Input as lines of text, read as JSON. -/
def readInput (bytes : List UInt8) : Except BodyFault Json :=
  match decodeLines bytes with
  | .error error => .error (.undecodable error)
  | .ok text => (Json.parse text).mapError .notJson

def warningLines (warnings : List Warning) : Text :=
  Text.join (warnings.map fun w => messageLine ("warning: " ++ w.message))

/-- Writes the result where it should go. -/
def deliver (directory : List Text) (text stderr : Text) (output : Option Spot)
    (files : Files) : Outcome :=
  match output with
  | none => .success text stderr files
  | some spot =>
    let path := spot.pathFrom directory
    match files.obstacleAt? spot path with
    | none =>
      .success "" (stderr ++ messageLine ("JSON Schema written to " ++ path))
        (files.put spot (Utf8.encode text))
    | some problem =>
      let reason :=
        "[Errno " ++ toString problem.number ++ "] " ++ problem.text ++ ": " ++ quoted path
      .failure 1 (stderr ++ messageLine ("Error writing output file " ++ path ++ ": " ++ reason))
        files

/-- A value as it is written with an indentation, which is looked at first. -/
def rendered (room : Nat) (indent : Int) (value : Json) : Except WriteProblem Text :=
  (Layout.ofIndent room indent).bind value.write

def convertDescription (session : Session) (options : ConvertOptions) (description : Json) :
    Outcome :=
  let strict := options.strict.getD session.settings.conversion.strict
  let (outcome, events) := convert description strict
  let entries := events.map LogEntry.ofEvent
  let stderr := session.logText entries
  let files := session.logged entries
  match outcome with
  | .error fault =>
    match fault.report? with
    | some message => .failure 1 (stderr ++ messageLine message) files
    | none => .crashed (.fault fault) stderr files
  | .ok report =>
    let stderr := stderr ++ warningLines report.warnings
    match rendered session.run.room options.indent report.schema.toJson with
    | .ok text => deliver session.run.directory (text ++ "\n") stderr options.output files
    | .error problem => .crashed (.unwritten problem) stderr files

def runConvert (session : Session) (arguments : Arguments) : Outcome :=
  match ConvertOptions.ofArguments session arguments with
  | .error problem => session.usageError .convert problem
  | .ok options =>
    match readInput options.input with
    | .error fault =>
      .failure 1 (messageLine ("Input is not valid JSON: " ++ fault.message)) session.files
    | .ok description => convertDescription session options description

/-! ## Serving -/

def portOf (given : List Given) : Except UsageProblem (Option Int) :=
  match valueOf .port given with
  | none => .ok none
  | some text => (intArgument .port text).map some

/-- The settings with the address that the options give; an empty host and a port of zero count as
    not given. -/
def withAddress (settings : ServerSettings) (host : Option Text) (port : Option Int) :
    ServerSettings :=
  { settings with
    host := (host.filter fun text => !text.isEmpty).getD settings.host
    port := (port.filter fun n => n != 0).getD settings.port }

def startEntry (server : ServerSettings) : LogEntry :=
  ⟨serverLogger, .info, "Starting server.",
    [("host", .str server.host), ("port", .int server.port), ("path", .str server.path)]⟩

def startServer (session : Session) (server : ServerSettings) : Outcome :=
  let entries := [startEntry server]
  let stderr := session.logText entries
  let files := session.logged entries
  match Route.ofText server.path with
  | .ok route =>
    { Outcome.success "" stderr files with
      service := some ⟨server.host, server.port, route.shown⟩ }
  | .error problem => .crashed (.route problem) stderr files

def runServe (session : Session) (arguments : Arguments) : Outcome :=
  match portOf arguments.given with
  | .error problem => session.usageError .serve problem
  | .ok port =>
    match noExtra arguments.others with
    | .error problem => session.usageError .serve problem
    | .ok () =>
      startServer session
        (withAddress session.settings.server (valueOf .host arguments.given) port)

/-! ## Commands -/

def versionText : Text := "apidoc-schema v0.1.0\n"

/-- Prints a text, for a command that takes no arguments. -/
def printOnly (session : Session) (command : Command) (arguments : Arguments) (text : Text) :
    Outcome :=
  match noExtra arguments.others with
  | .error problem => session.usageError command problem
  | .ok () => .success text "" session.files

def runCommand (session : Session) (command : Command) (texts : List Text) : Outcome :=
  match readArguments (Scope.command command).options true texts with
  | .error problem => session.usageError command problem
  | .ok arguments =>
    if (optionsIn arguments.given).contains .help then
      .success (Scope.command command).usage "" session.files
    else
      match command with
      | .convert => runConvert session arguments
      | .serve => runServe session arguments
      | .version => printOnly session command arguments versionText
      | .configShow =>
        printOnly session command arguments (session.settings.toJson.print (.lines 2) ++ "\n")

/-- Loads the settings and opens the log for a command. -/
def start (run : Invocation) (options : ProgramOptions) (command : Command) (texts : List Text) :
    Outcome :=
  match options.load run with
  | .error (.lookup (.exit code)) => .quit code run.files
  | .error fault =>
    .failure 1 (messageLine ("Error loading configuration: " ++ fault.message)) run.files
  | .ok settings =>
    let settings := options.over settings
    match openLog settings.logging run.files with
    | (.error crash, files) => .crashed crash "" files
    | (.ok log, files) => runCommand ⟨run, settings, log, files⟩ command texts

/-- Arguments in front of the command, with the values of their options. -/
def readProgram (run : Invocation) (texts : List Text) :
    Except UsageProblem (Arguments × ProgramOptions) := do
  let arguments ← readArguments Scope.program.options false texts
  let options ← ProgramOptions.ofGiven run arguments.given
  pure (arguments, options)

/-- A word that looks like an option is read as one before it is an unknown command. -/
def unknownCommand (run : Invocation) (word : Text) (texts : List Text) : UsageProblem :=
  let unknown := UsageProblem.noSuchCommand word (closeWords (Command.all.map Command.name) word)
  match readProgram run (word :: texts) with
  | .error problem => if isOption word then problem else unknown
  | .ok _ => unknown

def Invocation.outcome (run : Invocation) : Outcome :=
  let usageError (problem : UsageProblem) : Outcome :=
    .misuse .program problem run.files
  if run.arguments.isEmpty then .failure 2 Scope.program.usage run.files
  else
    match readArguments Scope.program.options false run.arguments with
    | .error problem => usageError problem
    | .ok arguments =>
      if (optionsIn arguments.given).contains .help then
        .success Scope.program.usage "" run.files
      else
        match ProgramOptions.ofGiven run arguments.given, arguments.others with
        | .error problem, _ => usageError problem
        | .ok _, [] => usageError .missingCommand
        | .ok options, word :: texts =>
          match Command.ofName? word with
          | none => usageError (unknownCommand run word texts)
          | some command => start run options command texts

end RequestSchema

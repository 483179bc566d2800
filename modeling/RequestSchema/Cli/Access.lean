import RequestSchema.Cli.Run

set_option autoImplicit false

/-!
# What a run opens

The places that a run may look at, told from its arguments, its environment and its settings, and
whether it reads the standard input. Only these have to be known before the run.
-/

namespace RequestSchema

/-- The places on the way along a path, the last of which the path names. -/
def Spot.along (spot : Spot) : List Text → List Spot
  | [] => [spot]
  | piece :: rest => spot :: (spot.step piece).along rest

/-- A stand-in for whatever lies in a folder. -/
def Spot.inside (spot : Spot) : Spot := spot.down ""

def Arguments.texts (arguments : Arguments) : List Text :=
  arguments.given.map Given.value ++ arguments.others

namespace Invocation

/-- The arguments in front of the command, and the command with its own. -/
def parts (run : Invocation) : List Given × Option (Command × Arguments) :=
  match readArguments Scope.program.options false run.arguments with
  | .error _ => ([], none)
  | .ok ⟨given, []⟩ => (given, none)
  | .ok ⟨given, word :: texts⟩ =>
    match Command.ofName? word with
    | none => (given, none)
    | some command =>
      match readArguments (Scope.command command).options true texts with
      | .error _ => (given, none)
      | .ok arguments => (given, some (command, arguments))

def readsInput (run : Invocation) : Bool :=
  match run.parts.2 with
  | some (.convert, arguments) =>
    !(optionsIn arguments.given).contains .help && arguments.others.headD "-" == "-"
  | _ => false

/-- The file of the log, as far as the files that are known tell. -/
def logPath? (run : Invocation) : Option Text :=
  match (readProgram run run.arguments).toOption with
  | none => none
  | some (_, options) => (options.load run).toOption.bind (·.logging.file)

def paths (run : Invocation) : List Text :=
  let (given, command) := run.parts
  Text.plain ".env" :: (run.environment.lookup configFileVariable).toList ++
    given.map Given.value ++ (command.map (·.2.texts)).getD [] ++ run.logPath?.toList

def spots (run : Invocation) : List Spot :=
  (run.paths.flatMap fun path => (Spot.start path).along (piecesOf path)).eraseDups

end Invocation

end RequestSchema

import RequestSchema.Cli.Run

set_option autoImplicit false

/-!
# How runs end

A run is refused, or asks for help, or is ended by its settings or its log, or it comes to its
command.
-/

namespace RequestSchema

/-- A run that ends badly, prints nothing and leaves all files as they were. -/
structure Outcome.Refuses (outcome : Outcome) (files : Files) : Prop where
  exit : outcome.exit ≠ 0
  stdout : outcome.stdout = ""
  service : outcome.service = none
  files : outcome.files = files

theorem crashed_refuses (crash : Crash) (stderr : Text) (files : Files) :
    (Outcome.crashed crash stderr files).Refuses files :=
  ⟨Nat.one_ne_zero, rfl, rfl, rfl⟩

theorem failure_refuses {exit : Nat} (bad : exit ≠ 0) (stderr : Text) (files : Files) :
    (Outcome.failure exit stderr files).Refuses files :=
  ⟨bad, rfl, rfl, rfl⟩

theorem misuse_refuses (scope : Scope) (problem : UsageProblem) (files : Files) :
    (Outcome.misuse scope problem files).Refuses files := by
  cases problem with
  | unusablePath => exact crashed_refuses _ _ files
  | _ => exact failure_refuses (Nat.succ_ne_zero 1) _ files

theorem quit_exit (code : Nat) (files : Files) : (Outcome.quit code files).exit = code := by
  unfold Outcome.quit
  split
  · rename_i zero
    exact zero.symm
  · rfl

theorem quit_service (code : Nat) (files : Files) : (Outcome.quit code files).service = none := by
  unfold Outcome.quit
  split <;> rfl

theorem quit_refuses {code : Nat} (bad : code ≠ 0) (files : Files) :
    (Outcome.quit code files).Refuses files := by
  rw [Outcome.quit, if_neg bad]
  exact failure_refuses bad _ files

def Arguments.asksHelp (arguments : Arguments) : Bool :=
  (optionsIn arguments.given).contains .help

/-- A run with readable arguments in front of a command, which has arguments of its own. -/
structure Invocation.Calls (run : Invocation) (options : ProgramOptions) (command : Command)
    (texts : List Text) : Prop where
  front : ∃ given word,
    readArguments Scope.program.options false run.arguments = .ok ⟨given, word :: texts⟩ ∧
    (⟨given, word :: texts⟩ : Arguments).asksHelp = false ∧
    ProgramOptions.ofGiven run given = .ok options ∧ Command.ofName? word = some command

theorem Invocation.Calls.unique {run : Invocation} {options options' : ProgramOptions}
    {command command' : Command} {texts texts' : List Text}
    (called : run.Calls options command texts) (called' : run.Calls options' command' texts') :
    options = options' ∧ command = command' ∧ texts = texts' := by
  obtain ⟨_, _, front, _, taken, known⟩ := called.front
  obtain ⟨_, _, front', _, taken', known'⟩ := called'.front
  cases front.symm.trans front'
  cases taken.symm.trans taken'
  cases known.symm.trans known'
  exact ⟨rfl, rfl, rfl⟩

/-- The settings and the log that a command finds. -/
structure ProgramOptions.Opens (options : ProgramOptions) (run : Invocation) (session : Session) :
    Prop where
  same : session.run = run
  loaded : ∃ settings, options.load run = .ok settings ∧ session.settings = options.over settings
  opened : openLog session.settings.logging run.files = (.ok session.log, session.files)

/-- A run that comes to its command, with what the command is given. -/
structure Invocation.Reaches (run : Invocation) (session : Session) (command : Command)
    (arguments : Arguments) : Prop where
  called : ∃ options texts, run.Calls options command texts ∧ options.Opens run session ∧
    readArguments (Scope.command command).options true texts = .ok arguments
  noHelp : arguments.asksHelp = false

/-- A run with a question for help in front of its command or behind it. -/
inductive Invocation.AsksHelp (run : Invocation) : Prop
  | inFront (arguments : Arguments)
      (read : readArguments Scope.program.options false run.arguments = .ok arguments)
      (asked : arguments.asksHelp)
  | behind (options : ProgramOptions) (command : Command) (texts : List Text)
      (arguments : Arguments) (called : run.Calls options command texts)
      (read : readArguments (Scope.command command).options true texts = .ok arguments)
      (asked : arguments.asksHelp)
  /-- The arguments that a file of settings holds end the run well if they ask for help. -/
  | inFile (options : ProgramOptions) (command : Command) (texts : List Text)
      (called : run.Calls options command texts)
      (quit : options.load run = .error (.lookup (.exit 0)))

/-- What a command comes to. -/
def Session.answer (session : Session) (arguments : Arguments) : Command → Outcome
  | .convert => runConvert session arguments
  | .serve => runServe session arguments
  | .version => printOnly session .version arguments versionText
  | .configShow =>
    printOnly session .configShow arguments (session.settings.toJson.print (.lines 2) ++ "\n")

theorem runCommand_eq {session : Session} {command : Command} {texts : List Text}
    {arguments : Arguments}
    (read : readArguments (Scope.command command).options true texts = .ok arguments)
    (noHelp : arguments.asksHelp = false) :
    runCommand session command texts = session.answer arguments command := by
  unfold Arguments.asksHelp at noHelp
  rw [runCommand, read]
  dsimp only
  rw [noHelp, if_neg Bool.false_ne_true]
  cases command <;> rfl

/-- The ends that a run can come to. -/
inductive Invocation.Ends (run : Invocation) : Outcome → Prop
  | refused {outcome : Outcome} (bad : outcome.Refuses run.files) : Ends run outcome
  | helped {text : Text} {files : Files} (asked : run.AsksHelp) :
      Ends run (.success text "" files)
  | quit {options : ProgramOptions} {command : Command} {texts : List Text} {code : Nat}
      (called : run.Calls options command texts)
      (asked : options.load run = .error (.lookup (.exit code))) :
      Ends run (.quit code run.files)
  | unlogged {options : ProgramOptions} {command : Command} {texts : List Text}
      {settings : Settings} {crash : Crash} {files : Files}
      (called : run.Calls options command texts) (loaded : options.load run = .ok settings)
      (failed : openLog (options.over settings).logging run.files = (.error crash, files)) :
      Ends run (.crashed crash "" files)
  | misused {options : ProgramOptions} {command : Command} {texts : List Text}
      {session : Session} {outcome : Outcome} (called : run.Calls options command texts)
      (opened : options.Opens run session) (bad : outcome.Refuses session.files) :
      Ends run outcome
  | reached {session : Session} {command : Command} {arguments : Arguments}
      (there : run.Reaches session command arguments) :
      Ends run (session.answer arguments command)

theorem runCommand_ends {run : Invocation} {options : ProgramOptions} {command : Command}
    {texts : List Text} {session : Session} (called : run.Calls options command texts)
    (opened : options.Opens run session) : run.Ends (runCommand session command texts) := by
  cases read : readArguments (Scope.command command).options true texts with
  | error problem =>
    rw [runCommand, read]
    exact .misused called opened (misuse_refuses _ problem session.files)
  | ok arguments =>
    cases asked : arguments.asksHelp with
    | true =>
      have help := asked
      unfold Arguments.asksHelp at help
      rw [runCommand, read]
      dsimp only
      rw [help, if_pos rfl]
      exact .helped (.behind options command texts arguments called read asked)
    | false =>
      rw [runCommand_eq read asked]
      exact .reached ⟨⟨options, texts, called, opened, read⟩, asked⟩

theorem start_ends {run : Invocation} {options : ProgramOptions} {command : Command}
    {texts : List Text} (called : run.Calls options command texts) :
    run.Ends (start run options command texts) := by
  unfold start
  split
  · rename_i code quit
    exact .quit called quit
  · exact .refused (failure_refuses Nat.one_ne_zero _ run.files)
  · rename_i settings loaded
    dsimp only
    split
    · rename_i crash files failed
      exact .unlogged called loaded failed
    · rename_i log files opened
      exact runCommand_ends called ⟨rfl, ⟨settings, loaded, rfl⟩, opened⟩

/-- Every run comes to one of the ends. -/
theorem run_ends (run : Invocation) : run.Ends run.outcome := by
  unfold Invocation.outcome
  dsimp only
  split
  · exact .refused (failure_refuses (Nat.succ_ne_zero 1) _ run.files)
  · split
    · rename_i problem _
      exact .refused (misuse_refuses _ problem run.files)
    · rename_i arguments read
      split
      · rename_i asked
        exact .helped (.inFront arguments read asked)
      · rename_i noHelp
        split
        · rename_i problem _
          exact .refused (misuse_refuses _ problem run.files)
        · exact .refused (misuse_refuses _ .missingCommand run.files)
        · rename_i options word texts taken others
          split
          · exact .refused (misuse_refuses _ _ run.files)
          · rename_i command known
            obtain ⟨given, _⟩ := arguments
            cases others
            exact start_ends ⟨given, word, read, Bool.eq_false_iff.2 noHelp, taken, known⟩

theorem start_eq {run : Invocation} {options : ProgramOptions} {command : Command}
    {texts : List Text} {session : Session} (opened : options.Opens run session) :
    start run options command texts = runCommand session command texts := by
  obtain ⟨rfl, ⟨settings, loaded, same⟩, opened⟩ := opened
  rw [same] at opened
  rw [start, loaded]
  dsimp only
  rw [opened, ← same]

theorem outcome_of_calls {run : Invocation} {options : ProgramOptions} {command : Command}
    {texts : List Text} (called : run.Calls options command texts) :
    run.outcome = start run options command texts := by
  obtain ⟨given, word, read, noHelp, taken, known⟩ := called
  have given? : run.arguments.isEmpty = false := by
    cases texts : run.arguments with
    | nil =>
      rw [texts] at read
      cases read
    | cons text rest => rfl
  unfold Arguments.asksHelp at noHelp
  rw [Invocation.outcome, given?, read]
  dsimp only at noHelp ⊢
  rw [if_neg Bool.false_ne_true, noHelp, if_neg Bool.false_ne_true, taken]
  dsimp only
  rw [known]

theorem outcome_of_reaches {run : Invocation} {session : Session} {command : Command}
    {arguments : Arguments} (there : run.Reaches session command arguments) :
    run.outcome = session.answer arguments command := by
  obtain ⟨⟨options, texts, called, opened, read⟩, noHelp⟩ := there
  rw [outcome_of_calls called, start_eq opened, runCommand_eq read noHelp]

end RequestSchema

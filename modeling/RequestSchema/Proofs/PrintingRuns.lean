import RequestSchema.Proofs.FrontEnds
import RequestSchema.Proofs.ShownSettings

set_option autoImplicit false

/-!
# Runs that only print

The commands that show the version and the settings need nothing but settings and a log. Settings
may have any text for the level of the log, which only the names of levels open. A level that is
given as an option is one of these names, and the others are not checked before the log is opened.
-/

namespace RequestSchema

/-! ## Levels -/

def levelNames : List Text :=
  ["CRITICAL", "FATAL", "ERROR", "WARNING", "WARN", "INFO", "DEBUG", "NOTSET"]

/-- The level is known by its name, in any case. -/
def LoggingSettings.NamesLevel (logging : LoggingSettings) : Prop :=
  uppered logging.level ∈ levelNames

theorem levelRank_ok_iff (name : Text) :
    (∃ rank, levelRank name = .ok rank) ↔ uppered name ∈ levelNames := by
  unfold levelRank
  split <;> simp_all [levelNames]

/-- The log goes to no file, or to one that can be opened. -/
def LoggingSettings.Writable (logging : LoggingSettings) (files : Files) : Prop :=
  ∀ path ∈ logging.file, files.obstacleAt? (Spot.ofPath path) path = none

/-- Where its file can be opened, a log depends on its level only. -/
theorem openLog_writable {logging : LoggingSettings} {files : Files}
    (writable : logging.Writable files) : ∃ file files', openLog logging files =
      match levelRank logging.level with
      | .ok threshold => (.ok ⟨formatOf logging.format, threshold, file⟩, files')
      | .error problem => (.error (.logLevel problem), files') := by
  unfold openLog
  cases named : logging.file with
  | none => exact ⟨none, files, rfl⟩
  | some path =>
    dsimp only
    rw [openLogFile, writable path named]
    exact ⟨_, _, rfl⟩

theorem openLog_named {logging : LoggingSettings} {files : Files}
    (writable : logging.Writable files) (named : logging.NamesLevel) :
    ∃ log files', openLog logging files = (.ok log, files') := by
  obtain ⟨file, files', opened⟩ := openLog_writable writable
  obtain ⟨rank, found⟩ := (levelRank_ok_iff _).2 named
  rw [found] at opened
  exact ⟨_, _, opened⟩

theorem openLog_unnamed {logging : LoggingSettings} {files : Files}
    (writable : logging.Writable files) (unnamed : ¬logging.NamesLevel) :
    ∃ problem files', openLog logging files = (.error (.logLevel problem), files') := by
  obtain ⟨file, files', opened⟩ := openLog_writable writable
  cases found : levelRank logging.level with
  | ok rank => exact absurd ((levelRank_ok_iff _).1 ⟨rank, found⟩) unnamed
  | error problem =>
    rw [found] at opened
    exact ⟨_, _, opened⟩

/-! ## Levels of options -/

/-- Options with a level that can be chosen, if there is one. -/
def ProgramOptions.ChoosesLevel (options : ProgramOptions) : Prop :=
  ∀ word ∈ options.logLevel, word ∈ levelChoices

theorem choiceArgument_mem {option : OptionName} {choices : List Text} {text word : Text}
    (chosen : choiceArgument option choices text = .ok word) : word ∈ choices := by
  unfold choiceArgument at chosen
  dsimp only at chosen
  split at chosen
  · cases chosen
    exact List.contains_iff_mem.1 ‹_›
  · cases chosen

theorem take_choosesLevel {files : Files} {given : List Given} {option : OptionName}
    {options options' : ProgramOptions} (chosen : options.ChoosesLevel)
    (taken : options.take files given option = .ok options') : options'.ChoosesLevel := by
  unfold ProgramOptions.take at taken
  split at taken
  · obtain ⟨content, _, rfl⟩ := map_eq_ok taken
    exact chosen
  · obtain ⟨word, found, rfl⟩ := map_eq_ok taken
    rintro _ ⟨⟩
    exact choiceArgument_mem found
  · obtain ⟨word, _, rfl⟩ := map_eq_ok taken
    exact chosen
  · cases taken
    exact chosen

theorem complete_choosesLevel {run : Invocation} {options options' : ProgramOptions}
    (chosen : options.ChoosesLevel) (taken : options.complete run = .ok options') :
    options'.ChoosesLevel := by
  unfold ProgramOptions.complete at taken
  split at taken
  · split at taken
    · cases taken
      exact chosen
    · obtain ⟨content, _, rfl⟩ := map_eq_ok taken
      exact chosen
  · cases taken
    exact chosen

theorem Invocation.Calls.choosesLevel {run : Invocation} {options : ProgramOptions}
    {command : Command} {texts : List Text} (called : run.Calls options command texts) :
    options.ChoosesLevel := by
  obtain ⟨given, _, _, _, taken, _⟩ := called.front
  obtain ⟨options', folded, completed⟩ := bind_eq_ok taken
  refine complete_choosesLevel ?_ completed
  refine foldlM_keeps ?_ (fun _ _ chosen _ _ taken => take_choosesLevel chosen taken) folded
  nofun

theorem levelChoices_named : ∀ word ∈ levelChoices, uppered (uppered word) ∈ levelNames := by
  decide

theorem over_namesLevel {options : ProgramOptions} (chosen : options.ChoosesLevel)
    (given : options.logLevel ≠ none) (settings : Settings) :
    (options.over settings).logging.NamesLevel := by
  obtain ⟨word, same⟩ := Option.ne_none_iff_exists'.1 given
  have named := levelChoices_named word (chosen word same)
  unfold LoggingSettings.NamesLevel ProgramOptions.over
  rw [same]
  exact named

theorem over_namesLevel_iff {options : ProgramOptions} (noOption : options.logLevel = none)
    (settings : Settings) :
    (options.over settings).logging.NamesLevel ↔ settings.logging.NamesLevel := by
  unfold LoggingSettings.NamesLevel ProgramOptions.over
  rw [noOption]
  rfl

/-! ## How such runs end -/

/-- What a command prints that does nothing else. -/
def Settings.printed (settings : Settings) : Command → Text
  | .version => versionText
  | _ => settings.shownText

/-- A run of a command that shows the version or the settings, without anything behind it. -/
structure Invocation.OnlyPrints (run : Invocation) (options : ProgramOptions) (command : Command) :
    Prop where
  prints : command = .version ∨ command = .configShow
  called : ∃ texts given, run.Calls options command texts ∧
    readArguments (Scope.command command).options true texts = .ok ⟨given, []⟩ ∧
    (⟨given, []⟩ : Arguments).asksHelp = false

/-- The ends of such a run, told apart by the settings it loads and the level of their log. -/
inductive Invocation.PrintEnds (run : Invocation) (options : ProgramOptions) (command : Command) :
    Prop
  | printed {settings : Settings} {log : OpenLog} {files : Files}
      (loaded : options.load run = .ok settings)
      (named : (options.over settings).logging.NamesLevel)
      (opened : openLog (options.over settings).logging run.files = (.ok log, files))
      (outcome : run.outcome = .success ((options.over settings).printed command) "" files)
  /-- The log does not open. -/
  | unnamed {settings : Settings} {problem : LevelProblem} {files : Files}
      (loaded : options.load run = .ok settings) (noOption : options.logLevel = none)
      (unnamed : ¬settings.logging.NamesLevel)
      (outcome : run.outcome = .crashed (.logLevel problem) "" files)
  | unloaded {fault : SettingsFault} (failed : options.load run = .error fault)
      (noExit : ∀ code, fault ≠ .lookup (.exit code))
      (outcome : run.outcome = .failure 1
        ("Error loading configuration: " ++ shown fault.message ++ "\n") run.files)
  /-- The arguments that a file of settings holds end the run. -/
  | quit {code : Nat} (asked : options.load run = .error (.lookup (.exit code)))
      (outcome : run.outcome = .quit code run.files)

theorem outcome_of_unloaded {run : Invocation} {options : ProgramOptions} {command : Command}
    {texts : List Text} {fault : SettingsFault} (called : run.Calls options command texts)
    (failed : options.load run = .error fault) (noExit : ∀ code, fault ≠ .lookup (.exit code)) :
    run.outcome = .failure 1
      ("Error loading configuration: " ++ shown fault.message ++ "\n") run.files := by
  have started : run.outcome = .failure 1
      (messageLine ("Error loading configuration: " ++ fault.message)) run.files := by
    rw [outcome_of_calls called, start, failed]
    split
    · rename_i code same
      exact absurd (Except.error.inj same) (noExit code)
    · rename_i same
      cases same
      rfl
    · rename_i same
      cases same
  rw [started, messageLine_append (by decide)]

/-- A run that only prints does so if its settings are loaded and the level of its log is known. It
    ends with a message if they are not loaded, and without one if the level is not known. -/
theorem printing_run_ends {run : Invocation} {options : ProgramOptions} {command : Command}
    (prints : run.OnlyPrints options command)
    (writable : ∀ settings, options.load run = .ok settings →
      (options.over settings).logging.Writable run.files) : run.PrintEnds options command := by
  obtain ⟨texts, given, called, read, noHelp⟩ := prints.called
  cases loaded : options.load run with
  | error fault =>
    by_cases exits : ∃ code, fault = .lookup (.exit code)
    · obtain ⟨code, rfl⟩ := exits
      refine .quit loaded ?_
      rw [outcome_of_calls called, start, loaded]
    · have noExit := not_exists.1 exits
      exact .unloaded loaded noExit (outcome_of_unloaded called loaded noExit)
  | ok settings =>
    by_cases named : (options.over settings).logging.NamesLevel
    · obtain ⟨log, files, opened⟩ := openLog_named (writable settings loaded) named
      refine .printed loaded named opened ?_
      have there : run.Reaches ⟨run, options.over settings, log, files⟩ command ⟨given, []⟩ :=
        ⟨⟨options, texts, called, ⟨rfl, ⟨settings, loaded, rfl⟩, opened⟩, read⟩, noHelp⟩
      rw [outcome_of_reaches there]
      obtain rfl | rfl := prints.prints <;> rfl
    · obtain ⟨problem, files, failed⟩ := openLog_unnamed (writable settings loaded) named
      have noOption : options.logLevel = none := by
        by_contra given
        exact named (over_namesLevel called.choosesLevel given settings)
      have crashed : run.outcome = .crashed (.logLevel problem) "" files := by
        rw [outcome_of_calls called, start, loaded]
        dsimp only
        rw [failed]
      exact .unnamed loaded noOption (by rwa [over_namesLevel_iff noOption] at named) crashed

/-! ## Levels of variables -/

def levelVariable (level : Text) : Text × Text := ("APIDOC_SCHEMA_LOGGING__LEVEL", level)

/-- A run with a level that a variable gives. -/
def levelRun (level : Text) : Invocation :=
  ⟨["version"], [], [levelVariable level], [], [], "TIME", usualComplaint, usualRoom⟩

def Settings.atLevel (level : Text) : Settings :=
  ⟨.default, .default, ⟨level, "json", none⟩⟩

theorem levelRun_prints (level : Text) :
    (levelRun level).OnlyPrints ⟨none, none, none⟩ .version where
  prints := .inl rfl
  called := ⟨[], [], ⟨[], "version", by rfl, by rfl, by rfl, by rfl⟩, by rfl, by rfl⟩

theorem levelRun_loaded (level : Text) :
    ProgramOptions.load (levelRun level) ⟨none, none, none⟩ = .ok (.atLevel level) := by
  have environment : (withVariables [levelVariable level]).environmentVariables .default =
      ([("apidoc_schema_logging__level", .text level)] : Variables) := by rfl
  have found : variableData .default .environment
      ((withVariables [levelVariable level]).environmentVariables .default) =
        .ok [("logging", .obj [("level", .str level)])] := by
    rw [environment]
    rfl
  have layers : (withVariables [levelVariable level]).layers (lookupBeside []) = .ok _ :=
    layers_noFiles (by rfl) found
  have loaded := loadOver_eq (withVariables [levelVariable level]) (lookupBeside []) []
  rw [layers] at loaded
  exact loaded

theorem atLevel_writable (level : Text) (files : Files) :
    (ProgramOptions.over ⟨none, none, none⟩ (.atLevel level)).logging.Writable files := by
  rintro path ⟨⟩

theorem warn_run_prints : ∃ files, (levelRun "warn").outcome = .success versionText "" files := by
  have loaded := levelRun_loaded "warn"
  have named : (Settings.atLevel "warn").logging.NamesLevel := by
    unfold LoggingSettings.NamesLevel
    decide
  have ends := printing_run_ends (levelRun_prints "warn") fun settings loaded' => by
    cases loaded.symm.trans loaded'
    exact atLevel_writable "warn" _
  cases ends with
  | printed loaded' named opened outcome => exact ⟨_, outcome⟩
  | unnamed loaded' noOption unnamed outcome =>
    cases loaded.symm.trans loaded'
    exact absurd named unnamed
  | unloaded failed | quit failed => cases loaded.symm.trans failed

/-- Settings with a level that is no name of one are loaded, and the run ends without a message. -/
theorem unknown_level_crashes :
    (levelRun "VERBOSE").OnlyPrints ⟨none, none, none⟩ .version ∧
    ProgramOptions.load (levelRun "VERBOSE") ⟨none, none, none⟩ = .ok (.atLevel "VERBOSE") ∧
    (ProgramOptions.over ⟨none, none, none⟩ (.atLevel "VERBOSE")).logging.Writable
      (levelRun "VERBOSE").files ∧
    (levelRun "VERBOSE").outcome = .crashed (.logLevel .unknown) "" [] := by
  have prints := levelRun_prints "VERBOSE"
  have loaded := levelRun_loaded "VERBOSE"
  refine ⟨prints, loaded, atLevel_writable "VERBOSE" _, ?_⟩
  obtain ⟨texts, given, called, -, -⟩ := prints.called
  have unknown : levelRank "VERBOSE" = .error .unknown := by rfl
  have failed : openLog (ProgramOptions.over ⟨none, none, none⟩ (.atLevel "VERBOSE")).logging [] =
      (.error (.logLevel .unknown), []) := by
    change openLog ⟨"VERBOSE", "json", none⟩ [] = _
    rw [openLog, unknown]
  rw [outcome_of_calls called, start, loaded]
  dsimp only
  rw [show (levelRun "VERBOSE").files = [] from rfl, failed]

end RequestSchema

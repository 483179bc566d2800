import RequestSchema.Cli.Access
import RequestSchema.Proofs.LoadedSettings

set_option autoImplicit false

/-!
# Outputs of conversions

A run that ends badly prints nothing and leaves all files alone. A conversion into a file writes
nothing but that file, with what the same run would print if it named no file.
-/

namespace RequestSchema

/-! ## Runs without a log file -/

theorem openLog_none {settings : LoggingSettings} {files files' : Files}
    {log : Except Crash OpenLog} (none : settings.file = none)
    (opened : openLog settings files = (log, files')) :
    files' = files ∧ ∀ found, log = .ok found → found.file = .none := by
  unfold openLog at opened
  rw [none] at opened
  dsimp only at opened
  split at opened
  · cases opened
    exact ⟨rfl, by rintro _ ⟨⟩; rfl⟩
  · cases opened
    exact ⟨rfl, nofun⟩

theorem logged_none {session : Session} (none : session.log.file = none) (entries : List LogEntry) :
    session.logged entries = session.files := by
  unfold Session.logged OpenLog.store
  rw [none]
  exact ite_self _

theorem logPath_of_calls {run : Invocation} {options : ProgramOptions} {command : Command}
    {texts : List Text} {settings : Settings} (called : run.Calls options command texts)
    (loaded : options.load run = .ok settings) : run.logPath? = settings.logging.file := by
  obtain ⟨given, word, read, _, taken, _⟩ := called.front
  have program : readProgram run run.arguments = .ok (⟨given, word :: texts⟩, options) := by
    rw [readProgram, read]
    change (ProgramOptions.ofGiven run given >>= fun options => _) = _
    rw [taken]
    rfl
  rw [Invocation.logPath?, program]
  change (options.load run).toOption.bind _ = _
  rw [loaded]
  rfl

theorem opens_unlogged {run : Invocation} {options : ProgramOptions} {command : Command}
    {texts : List Text} {session : Session} (unlogged : run.logPath? = none)
    (called : run.Calls options command texts) (opened : options.Opens run session) :
    session.files = run.files ∧ session.log.file = none := by
  obtain ⟨settings, loaded, same⟩ := opened.loaded
  have file : session.settings.logging.file = none := by
    rw [same, ← unlogged, logPath_of_calls called loaded]
    rfl
  obtain ⟨files, log⟩ := openLog_none file opened.opened
  exact ⟨files, log _ rfl⟩

/-! ## Runs that end badly -/

theorem deliver_refuses {directory : List Text} {text stderr : Text} {output : Option Spot}
    {files : Files} (bad : (deliver directory text stderr output files).exit ≠ 0) :
    (deliver directory text stderr output files).Refuses files := by
  unfold deliver at bad ⊢
  split
  · exact absurd rfl bad
  · dsimp only at bad ⊢
    split
    · rename_i fits
      rw [fits] at bad
      exact absurd rfl bad
    · exact failure_refuses Nat.one_ne_zero _ files

theorem runConvert_refuses {session : Session} {arguments : Arguments}
    (unlogged : session.log.file = none) (bad : (runConvert session arguments).exit ≠ 0) :
    (runConvert session arguments).Refuses session.files := by
  unfold runConvert at bad ⊢
  split at bad
  · exact misuse_refuses _ _ session.files
  · split at bad
    · exact failure_refuses Nat.one_ne_zero _ session.files
    · unfold convertDescription at bad ⊢
      dsimp only at bad ⊢
      rw [logged_none unlogged] at bad ⊢
      split at bad
      · split
        · exact failure_refuses Nat.one_ne_zero _ session.files
        · exact crashed_refuses _ _ session.files
      · split at bad
        · exact deliver_refuses bad
        · exact crashed_refuses _ _ session.files

theorem runServe_refuses {session : Session} {arguments : Arguments}
    (unlogged : session.log.file = none) (bad : (runServe session arguments).exit ≠ 0) :
    (runServe session arguments).Refuses session.files := by
  unfold runServe at bad ⊢
  split at bad
  · exact misuse_refuses _ _ session.files
  · split at bad
    · exact misuse_refuses _ _ session.files
    · unfold startServer at bad ⊢
      dsimp only at bad ⊢
      rw [logged_none unlogged] at bad ⊢
      split at bad
      · exact absurd rfl bad
      · exact crashed_refuses _ _ session.files

theorem printOnly_refuses {session : Session} {command : Command} {arguments : Arguments}
    {text : Text} (bad : (printOnly session command arguments text).exit ≠ 0) :
    (printOnly session command arguments text).Refuses session.files := by
  unfold printOnly at bad ⊢
  split at bad
  · exact misuse_refuses _ _ session.files
  · exact absurd rfl bad

theorem answer_refuses {session : Session} {arguments : Arguments}
    (unlogged : session.log.file = none) (command : Command)
    (bad : (session.answer arguments command).exit ≠ 0) :
    (session.answer arguments command).Refuses session.files := by
  cases command with
  | convert => exact runConvert_refuses unlogged bad
  | serve => exact runServe_refuses unlogged bad
  | version => exact printOnly_refuses bad
  | configShow => exact printOnly_refuses bad

theorem run_refuses {run : Invocation} (unlogged : run.logPath? = none)
    (bad : run.outcome.exit ≠ 0) : run.outcome.Refuses run.files := by
  have ends := run_ends run
  generalize run.outcome = outcome at ends bad ⊢
  cases ends with
  | refused refuses => exact refuses
  | helped => exact absurd rfl bad
  | quit =>
    rw [quit_exit] at bad
    exact quit_refuses bad run.files
  | @unlogged options command texts settings crash files called loaded failed =>
    have file : (options.over settings).logging.file = none := by
      rw [← unlogged, logPath_of_calls called loaded]
      rfl
    rw [(openLog_none file failed).1]
    exact crashed_refuses _ _ run.files
  | misused called opened refuses =>
    rw [(opens_unlogged unlogged called opened).1] at refuses
    exact refuses
  | reached there =>
    obtain ⟨options, texts, called, opened, _⟩ := there.called
    obtain ⟨files, log⟩ := opens_unlogged unlogged called opened
    have refuses := answer_refuses log _ bad
    rwa [files] at refuses

/-! ## Arguments without an output -/

def Given.isOutput (given : Given) : Bool := given.option == .outputFile

def Arguments.withoutOutput (arguments : Arguments) : Arguments :=
  { arguments with given := arguments.given.filter fun given => !given.isOutput }

section

-- Opened up, the reading of one option makes the equations of the definition slow to check.
attribute [local irreducible] readOption

/-- Arguments without those that name a file for the output. -/
def dropOutput (options : List OptionName) : List Text → List Text
  | [] => []
  | text :: rest =>
    if text == "--" then text :: rest
    else if isOption text then
      match readOption options text with
      | .error _ => text :: rest
      | .ok ⟨given, none⟩ =>
        if given.any Given.isOutput then dropOutput options rest
        else text :: dropOutput options rest
      | .ok ⟨_, some (option, _)⟩ =>
        match rest with
        | [] => [text]
        | value :: rest =>
          if option == .outputFile then dropOutput options rest
          else text :: value :: dropOutput options rest
    else text :: dropOutput options rest

/-- The same run without a file for the output of its conversion. -/
def Invocation.withoutOutput (run : Invocation) : Invocation :=
  match readArguments Scope.program.options false run.arguments with
  | .ok ⟨_, _ :: texts⟩ =>
    { run with arguments :=
        run.arguments.take (run.arguments.length - texts.length) ++
          dropOutput (Scope.command .convert).options texts }
  | _ => run

/-- Options with one letter take a value, if they belong to a conversion. -/
theorem takesValue_of_letter {c : CodePoint} {option : OptionName}
    (found : OptionName.find? (Scope.command .convert).options (Text.ofList ['-', c]) =
      some option) : option.takesValue = true := by
  have spelled := List.find?_some found
  have long : ∀ option : OptionName, option.takesValue = false →
      ∀ text ∈ option.spellings, text.toList.length ≠ 2 := by
    intro option
    cases option <;> decide
  by_contra switch
  have mem : Text.ofList ['-', c] ∈ option.spellings := by simpa using spelled
  exact long option (by simpa using switch) _ mem (by rw [Text.toList_ofList]; rfl)

theorem readShort_brief {cs : List CodePoint} {reading : Reading}
    (read : readShort (Scope.command .convert).options cs = .ok reading) :
    reading.given.length ≤ 1 ∧ (reading.open?.isSome → reading.given = []) := by
  cases cs with
  | nil =>
    cases read
    exact ⟨Nat.zero_le 1, fun _ => rfl⟩
  | cons c rest =>
    rw [readShort] at read
    split at read
    · cases read
    · rename_i option found
      rw [if_pos (takesValue_of_letter found)] at read
      split at read
      · cases read
        exact ⟨Nat.zero_le 1, fun _ => rfl⟩
      · cases read
        exact ⟨Nat.le_refl 1, nofun⟩

/-- An argument of a conversion gives no more than one option. -/
theorem readOption_brief {text : Text} {reading : Reading}
    (read : readOption (Scope.command .convert).options text = .ok reading) :
    reading.given.length ≤ 1 ∧ (reading.open?.isSome → reading.given = []) := by
  unfold readOption at read
  dsimp only at read
  split at read
  · split at read
    · split at read
      · cases read
        exact ⟨Nat.le_refl 1, nofun⟩
      · cases read
        exact ⟨Nat.zero_le 1, fun _ => rfl⟩
    · split at read
      · cases read
      · cases read
        exact ⟨Nat.le_refl 1, nofun⟩
  · split at read
    · cases read
    · exact readShort_brief read

theorem filter_brief {given : List Given} (brief : given.length ≤ 1) :
    given.filter (fun given => !given.isOutput) =
      if given.any Given.isOutput then [] else given := by
  match given, brief with
  | [], _ => rfl
  | [only], _ =>
    cases output : only.isOutput <;> simp [output]

theorem withoutOutput_addGiven (given : List Given) (arguments : Arguments) :
    (arguments.addGiven given).withoutOutput =
      arguments.withoutOutput.addGiven (given.filter fun given => !given.isOutput) := by
  simp only [Arguments.withoutOutput, Arguments.addGiven, List.filter_append]

/-- Dropping the arguments that name an output drops its options, and nothing else. -/
theorem readArguments_dropOutput {texts : List Text} {arguments : Arguments}
    (read : readArguments (Scope.command .convert).options true texts = .ok arguments) :
    readArguments (Scope.command .convert).options true
      (dropOutput (Scope.command .convert).options texts) = .ok arguments.withoutOutput := by
  induction texts using readArguments.induct (Scope.command .convert).options true
    generalizing arguments with
  | case1 =>
    cases read
    rfl
  | case2 text rest dashes =>
    rw [dropOutput, if_pos dashes]
    rw [readArguments_cons, if_pos dashes] at read ⊢
    cases read
    rfl
  | case3 text rest dashes option problem failed =>
    rw [readArguments_cons, if_neg dashes, if_pos option, failed] at read
    cases read
  | case4 text rest dashes option given found ih =>
    rw [readArguments_cons, if_neg dashes, if_pos option, found] at read
    obtain ⟨behind, later, rfl⟩ := map_eq_ok read
    rw [dropOutput, if_neg dashes, if_pos option, found]
    dsimp only
    rw [withoutOutput_addGiven, filter_brief (readOption_brief found).1]
    split
    · exact ih later
    · rw [readArguments_cons, if_neg dashes, if_pos option, found]
      dsimp only
      rw [ih later]
      rfl
  | case5 text dashes option given called written found =>
    rw [readArguments_cons, if_neg dashes, if_pos option, found] at read
    cases read
  | case6 text dashes option given called written found value rest ih =>
    rw [readArguments_cons, if_neg dashes, if_pos option, found] at read
    obtain ⟨behind, later, rfl⟩ := map_eq_ok read
    -- The value is the next argument, so both are dropped or both stay.
    obtain rfl : given = [] := (readOption_brief found).2 rfl
    rw [dropOutput, if_neg dashes, if_pos option, found]
    dsimp only
    have one : ([⟨called, value⟩] : List Given).length ≤ 1 := Nat.le_refl 1
    rw [withoutOutput_addGiven, List.nil_append, filter_brief one]
    cases output : called == OptionName.outputFile with
    | true =>
      have named : [⟨called, value⟩].any Given.isOutput = true := by
        simpa [Given.isOutput] using output
      rw [if_pos rfl, if_pos named]
      exact ih later
    | false =>
      have other : ¬[⟨called, value⟩].any Given.isOutput = true := by
        simpa [Given.isOutput] using output
      rw [if_neg Bool.false_ne_true, if_neg other]
      rw [readArguments_cons, if_neg dashes, if_pos option, found]
      dsimp only
      rw [ih later]
      rfl
  | case7 text rest dashes plain mixed ih =>
    rw [readArguments_cons, if_neg dashes, if_neg plain, if_pos rfl] at read
    obtain ⟨behind, later, rfl⟩ := map_eq_ok read
    rw [dropOutput, if_neg dashes, if_neg plain]
    rw [readArguments_cons, if_neg dashes, if_neg plain, if_pos rfl, ih later]
    rfl
  | case8 text rest dashes plain unmixed => exact absurd rfl unmixed

/-- What stands in front of a command is read the same whatever is behind it. -/
theorem readArguments_front {options : List OptionName} {texts : List Text}
    {given : List Given} {word : Text} {rest : List Text}
    (read : readArguments options false texts = .ok ⟨given, word :: rest⟩) :
    ∃ front, texts = front ++ rest ∧
      ∀ rest', readArguments options false (front ++ rest') = .ok ⟨given, word :: rest'⟩ := by
  induction texts using readArguments.induct options false generalizing given with
  | case1 => cases read
  | case2 text texts dashes =>
    rw [readArguments_cons, if_pos dashes] at read
    cases read
    refine ⟨[text, word], rfl, fun rest' => ?_⟩
    rw [List.cons_append, readArguments_cons, if_pos dashes]
    rfl
  | case3 text texts dashes option problem failed =>
    rw [readArguments_cons, if_neg dashes, if_pos option, failed] at read
    cases read
  | case4 text texts dashes option first found ih =>
    rw [readArguments_cons, if_neg dashes, if_pos option, found] at read
    obtain ⟨⟨behind, others⟩, later, same⟩ := map_eq_ok read
    cases same
    obtain ⟨front, rfl, again⟩ := ih later
    refine ⟨text :: front, rfl, fun rest' => ?_⟩
    rw [List.cons_append, readArguments_cons, if_neg dashes, if_pos option, found]
    dsimp only
    rw [again]
    rfl
  | case5 text dashes option first called written found =>
    rw [readArguments_cons, if_neg dashes, if_pos option, found] at read
    cases read
  | case6 text dashes option first called written found value texts ih =>
    rw [readArguments_cons, if_neg dashes, if_pos option, found] at read
    obtain ⟨⟨behind, others⟩, later, same⟩ := map_eq_ok read
    cases same
    obtain ⟨front, rfl, again⟩ := ih later
    refine ⟨text :: value :: front, rfl, fun rest' => ?_⟩
    rw [List.cons_append, List.cons_append, readArguments_cons, if_neg dashes, if_pos option, found]
    dsimp only
    rw [again]
    rfl
  | case7 text texts dashes plain mixed => cases mixed
  | case8 text texts dashes plain unmixed =>
    rw [readArguments_cons, if_neg dashes, if_neg plain, if_neg unmixed] at read
    cases read
    refine ⟨[word], rfl, fun rest' => ?_⟩
    rw [List.cons_append, readArguments_cons, if_neg dashes, if_neg plain, if_neg unmixed]
    rfl

end

/-! ## Options without an output -/

theorem eraseDups_filter {α : Type} [DecidableEq α] (p : α → Bool) (items : List α) :
    (items.filter p).eraseDups = items.eraseDups.filter p := by
  induction items using List.reverseRecOn with
  | nil => rfl
  | append_singleton items last ih =>
    rw [List.filter_append, List.eraseDups_append, List.eraseDups_append, List.filter_append, ih]
    congr 1
    by_cases kept : p last
    · have seen : last ∈ items.filter p ↔ last ∈ items := by simp [kept]
      by_cases there : last ∈ items <;>
        simp [List.removeAll, kept, there, List.eraseDups_cons]
    · by_cases there : last ∈ items <;>
        simp [List.removeAll, kept, there, List.eraseDups_cons]

theorem optionsIn_withoutOutput (arguments : Arguments) : optionsIn arguments.withoutOutput.given =
    (optionsIn arguments.given).filter fun option => option != .outputFile := by
  unfold optionsIn Arguments.withoutOutput
  rw [← eraseDups_filter, List.filter_map]
  rfl

theorem findSome_filter {α β : Type} {p : α → Bool} {f : α → Option β} {items : List α}
    (dropped : ∀ item ∈ items, p item = false → f item = none) :
    (items.filter p).findSome? f = items.findSome? f := by
  induction items with
  | nil => rfl
  | cons item rest ih =>
    obtain ⟨first, later⟩ := List.forall_mem_cons.1 dropped
    cases kept : p item with
    | true => rw [List.filter_cons_of_pos kept, List.findSome?_cons, List.findSome?_cons, ih later]
    | false =>
      rw [List.filter_cons_of_neg (by simpa using kept), List.findSome?_cons, first kept, ih later]

theorem isOutput_iff (given : Given) : given.isOutput = true ↔ given.option = .outputFile :=
  beq_iff_eq

theorem valueOf_withoutOutput {option : OptionName} (kept : option ≠ .outputFile)
    (arguments : Arguments) :
    valueOf option arguments.withoutOutput.given = valueOf option arguments.given := by
  unfold valueOf Arguments.withoutOutput
  rw [← List.filter_reverse, List.find?_filter]
  congr 2
  funext given
  by_cases same : given.option = option
  · have other : given.isOutput = false := by
      rw [Bool.eq_false_iff, ne_eq, isOutput_iff, same]
      exact kept
    simp [same, other]
  · simp [same]

theorem strictOf_withoutOutput (arguments : Arguments) :
    strictOf arguments.withoutOutput.given = strictOf arguments.given := by
  unfold strictOf Arguments.withoutOutput
  rw [← List.filter_reverse]
  refine findSome_filter fun given _ output => ?_
  have output : given.option = .outputFile := (isOutput_iff given).1 (by simpa using output)
  rw [output]

def ConvertOptions.withoutOutput (options : ConvertOptions) : ConvertOptions :=
  { options with output := none }

theorem take_output {files : Files} {given : List Given} {options options' : ConvertOptions}
    {path : Text} (named : valueOf .outputFile given = some path)
    (taken : ConvertOptions.take files given options .outputFile = .ok options') :
    options' = { options with output := some (Spot.ofPath path) } := by
  unfold ConvertOptions.take at taken
  rw [named] at taken
  obtain ⟨spot, found, rfl⟩ := map_eq_ok taken
  unfold outputSpot at found
  dsimp only at found
  split at found
  · cases found
  · split at found
    · cases found
    · cases found
      rfl

theorem take_other {files : Files} {arguments : Arguments} {options options' : ConvertOptions}
    {option : OptionName} (other : option ≠ .outputFile)
    (taken : ConvertOptions.take files arguments.given options option = .ok options') :
    options'.output = options.output ∧
    ConvertOptions.take files arguments.withoutOutput.given options.withoutOutput option =
      .ok options'.withoutOutput := by
  unfold ConvertOptions.take at taken ⊢
  rw [valueOf_withoutOutput other]
  split at taken
  · exact absurd rfl other
  · rename_i text _
    obtain ⟨indent, found, rfl⟩ := map_eq_ok taken
    rw [found]
    exact ⟨rfl, rfl⟩
  · cases taken
    exact ⟨rfl, rfl⟩

theorem foldlM_output {files : Files} {arguments : Arguments} {path : Text}
    (named : valueOf .outputFile arguments.given = some path) {names : List OptionName}
    {options options' : ConvertOptions}
    (taken : names.foldlM (ConvertOptions.take files arguments.given) options = .ok options') :
    options'.output = (if .outputFile ∈ names then some (Spot.ofPath path) else options.output) ∧
    (names.filter fun option => option != .outputFile).foldlM
      (ConvertOptions.take files arguments.withoutOutput.given) options.withoutOutput =
        .ok options'.withoutOutput := by
  induction names generalizing options with
  | nil =>
    cases taken
    exact ⟨rfl, rfl⟩
  | cons option rest ih =>
    rw [List.foldlM_cons] at taken
    obtain ⟨middle, first, taken⟩ := bind_eq_ok taken
    obtain ⟨output, again⟩ := ih taken
    by_cases other : option = .outputFile
    · subst other
      obtain rfl := take_output named first
      refine ⟨?_, ?_⟩
      · rw [output, if_pos List.mem_cons_self]
        exact ite_self _
      · rw [List.filter_cons_of_neg (by decide)]
        exact again
    · obtain ⟨kept, step⟩ := take_other other first
      refine ⟨?_, ?_⟩
      · rw [output, kept]
        simp only [List.mem_cons, Ne.symm other, false_or]
      · rw [List.filter_cons_of_pos (by simpa using other), List.foldlM_cons, step]
        exact again

/-- A session of the same run with other arguments. -/
def Session.withTexts (session : Session) (texts : List Text) : Session :=
  { session with run := { session.run with arguments := texts } }

@[simp] theorem Session.withTexts_settings (session : Session) (texts : List Text) :
    (session.withTexts texts).settings = session.settings := rfl

@[simp] theorem Session.withTexts_room (session : Session) (texts : List Text) :
    (session.withTexts texts).run.room = session.run.room := rfl

theorem ofArguments_withoutOutput {session : Session} {arguments : Arguments}
    {options : ConvertOptions} {path : Text}
    (named : valueOf .outputFile arguments.given = some path)
    (taken : ConvertOptions.ofArguments session arguments = .ok options) (texts : List Text) :
    options.output = some (Spot.ofPath path) ∧
    ConvertOptions.ofArguments (session.withTexts texts) arguments.withoutOutput =
      .ok options.withoutOutput := by
  unfold ConvertOptions.ofArguments at taken ⊢
  obtain ⟨front, folded, taken⟩ := bind_eq_ok taken
  obtain ⟨content, read, taken⟩ := bind_eq_ok taken
  obtain ⟨⟨⟩, alone, taken⟩ := bind_eq_ok taken
  cases taken
  obtain ⟨output, again⟩ := foldlM_output named folded
  have mem : OptionName.outputFile ∈ optionsIn arguments.given := by
    unfold valueOf at named
    obtain ⟨given, found, _⟩ := Option.map_eq_some_iff.1 named
    have same := List.find?_some found
    have there := List.mem_reverse.1 (List.mem_of_find?_eq_some found)
    rw [optionsIn, List.mem_eraseDups]
    exact List.mem_map.2 ⟨given, there, by simpa using same⟩
  rw [if_pos mem] at output
  refine ⟨output, ?_⟩
  have folded' : (optionsIn arguments.withoutOutput.given).foldlM
      (ConvertOptions.take (session.withTexts texts).files arguments.withoutOutput.given)
      ⟨none, strictOf arguments.withoutOutput.given, defaultIndent, []⟩ =
        .ok front.withoutOutput := by
    rw [optionsIn_withoutOutput, strictOf_withoutOutput]
    exact again
  have read' : inputContent (session.withTexts texts).run (session.withTexts texts).files
      (arguments.withoutOutput.others.headD "-") = .ok content := read
  have alone' : noExtra (arguments.withoutOutput.others.drop 1) = .ok () := alone
  simp only [folded', read', alone', bind, Except.bind]
  rfl

/-! ## The same run without an output -/

theorem runConvert_withoutOutput {session : Session} {arguments : Arguments} {path : Text}
    (unlogged : session.log.file = none)
    (named : valueOf .outputFile arguments.given = some path)
    (well : (runConvert session arguments).exit = 0) (texts : List Text) :
    ∃ text stderr stderr',
      runConvert session arguments =
        .success "" stderr (session.files.put (Spot.ofPath path) (Utf8.encode text)) ∧
      runConvert (session.withTexts texts) arguments.withoutOutput =
        .success text stderr' session.files := by
  unfold runConvert at well ⊢
  cases taken : ConvertOptions.ofArguments session arguments with
  | error problem =>
    rw [taken] at well
    exact absurd well (misuse_refuses _ problem session.files).exit
  | ok options =>
    obtain ⟨output, taken'⟩ := ofArguments_withoutOutput named taken texts
    rw [taken] at well
    rw [taken']
    dsimp only [ConvertOptions.withoutOutput] at well ⊢
    cases read : readInput options.input with
    | error fault =>
      rw [read] at well
      cases well
    | ok description =>
      rw [read] at well
      dsimp only at well ⊢
      unfold convertDescription at well ⊢
      dsimp only at well ⊢
      rw [logged_none unlogged, output] at well ⊢
      have unlogged' : ∀ entries, (session.withTexts texts).logged entries = session.files :=
        fun entries => logged_none unlogged entries
      rw [unlogged', Session.withTexts_settings, Session.withTexts_room]
      split at well
      · split at well
        · cases well
        · cases well
      · rename_i report done
        split at well
        · rename_i text written
          unfold deliver at well ⊢
          dsimp only at well ⊢
          split at well
          · exact ⟨_, _, _, rfl, rfl⟩
          · cases well
        · cases well

theorem parts_of_calls {run : Invocation} {options : ProgramOptions} {command : Command}
    {texts : List Text} {arguments : Arguments} (called : run.Calls options command texts)
    (read : readArguments (Scope.command command).options true texts = .ok arguments) :
    run.parts.2 = some (command, arguments) := by
  obtain ⟨given, word, front, _, _, known⟩ := called.front
  rw [Invocation.parts, front]
  dsimp only
  rw [known]
  dsimp only
  rw [read]

theorem reaches_withoutOutput {run : Invocation} {session : Session} {arguments : Arguments}
    (there : run.Reaches session .convert arguments) : ∃ texts,
      run.withoutOutput.Reaches (session.withTexts texts) .convert arguments.withoutOutput := by
  obtain ⟨⟨options, texts, called, ⟨rfl, loaded, opened⟩, read⟩, noHelp⟩ := there
  obtain ⟨given, word, front, noFrontHelp, taken, known⟩ := called.front
  obtain ⟨first, whole, again⟩ := readArguments_front front
  have without : session.run.withoutOutput = { session.run with
      arguments := first ++ dropOutput (Scope.command .convert).options texts } := by
    rw [Invocation.withoutOutput, front]
    dsimp only
    rw [whole, List.length_append, Nat.add_sub_cancel, List.take_left]
  have silent : arguments.withoutOutput.asksHelp = false := by
    unfold Arguments.asksHelp at noHelp ⊢
    rw [optionsIn_withoutOutput]
    simpa using noHelp
  rw [without]
  refine ⟨_, ⟨options, _, ?_, ⟨rfl, loaded, opened⟩, readArguments_dropOutput read⟩, silent⟩
  exact ⟨⟨given, word, again _, noFrontHelp, taken, known⟩⟩

def writing : List Text := ["convert", "-o", "out"]

def outputOut : Arguments := ⟨[⟨.outputFile, "out"⟩], []⟩

def emptyInput : List UInt8 := Utf8.encode "\x7b\x7d"

theorem writing_called :
    (bareRun writing emptyInput).Calls ⟨none, none, none⟩ .convert ["-o", "out"] :=
  ⟨[], "convert", by rfl, by rfl, by rfl, by rfl⟩

theorem writing_read :
    readArguments (Scope.command .convert).options true ["-o", "out"] = .ok outputOut := by rfl

theorem writing_reaches : (bareRun writing emptyInput).Reaches (bareSession writing emptyInput)
    .convert outputOut :=
  ⟨⟨_, _, writing_called, bareSession_opened _ _, writing_read⟩, by rfl⟩

theorem writing_asks_no_help : ¬(bareRun writing emptyInput).AsksHelp := by
  rintro (⟨arguments, read, asked⟩ | ⟨options, command, texts, arguments, called, read, asked⟩ |
    ⟨options, command, texts, called, quit⟩)
  · obtain ⟨_, _, front, noHelp, _, _⟩ := writing_called.front
    cases front.symm.trans read
    cases noHelp.symm.trans asked
  · obtain ⟨rfl, rfl, rfl⟩ := writing_called.unique called
    cases writing_read.symm.trans read
    cases asked
  · obtain ⟨rfl, rfl, rfl⟩ := writing_called.unique called
    obtain ⟨_, loaded, _⟩ := (bareSession_opened writing emptyInput).loaded
    cases loaded.symm.trans quit

theorem writing_ends_well : (bareRun writing emptyInput).outcome.exit = 0 := by
  rw [outcome_of_reaches writing_reaches]
  change (runConvert (bareSession writing emptyInput) outputOut).exit = 0
  have spot : Spot.ofPath "out" = ⟨.working, ["out"]⟩ := by
    rw [Spot.ofPath, piecesOf_plain (by decide)]
    rfl
  have taken : ConvertOptions.ofArguments (bareSession writing emptyInput) outputOut =
      .ok ⟨some ⟨.working, ["out"]⟩, none, 2, emptyInput⟩ := by
    have found : outputSpot [] "out" = .ok ⟨.working, ["out"]⟩ := by
      rw [outputSpot, spot]
      rfl
    have valued : valueOf .outputFile outputOut.given = some (.plain "out") := by rfl
    have named : ConvertOptions.take [] outputOut.given ⟨none, none, 2, []⟩ .outputFile =
        .ok ⟨some ⟨.working, ["out"]⟩, none, 2, []⟩ := by
      simp only [ConvertOptions.take, valued, found]
      rfl
    change (ConvertOptions.take [] outputOut.given ⟨none, none, 2, []⟩ .outputFile >>= _) >>= _ = _
    rw [named]
    rfl
  have decoded : decodeLines emptyInput = .ok "\x7b\x7d" := by cbv
  have parsed : Json.parse "\x7b\x7d" = .ok (.obj []) := by cbv
  have read : readInput emptyInput = .ok (.obj []) := by
    rw [readInput, decoded]
    dsimp only
    rw [parsed]
    rfl
  rw [runConvert, taken]
  dsimp only
  rw [read]
  decide +kernel

end RequestSchema

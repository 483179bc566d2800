import RequestSchema.Proofs.KeptFiles
import RequestSchema.Proofs.LoadedSettings
import RequestSchema.Proofs.NormalPaths
import RequestSchema.Proofs.WrittenText

set_option autoImplicit false

/-!
# Settings that are shown

The settings that a run shows are read from a file as they were, in all surroundings that can be
read: the text says every field, its numbers are not too long, and its paths are normal already. The
surroundings are read for a file that says everything all the same, and it fails where they fail.
-/

namespace RequestSchema

/-! ## Numbers that can be read again -/

/-- A whole number with no more digits than are read. -/
def ShortInt (n : Int) : Prop := (Json.int n).Short

theorem shortInt_of_lt {n : Int} (small : n.natAbs < 10 ^ maxIntegerDigits) : ShortInt n := by
  unfold ShortInt
  rw [Json.Short, decimalChars, List.length_map]
  exact (Nat.length_toDigits_le_iff (by decide) (by decide)).2 small

theorem shortInt_of_le {n : Int} {bound : Nat} (digits : Nat) (few : digits ≤ maxIntegerDigits)
    (bounded : bound < 10 ^ digits) (small : n.natAbs ≤ bound) : ShortInt n := by
  have wide : 10 ^ digits ≤ 10 ^ maxIntegerDigits := Nat.pow_le_pow_right (by decide) few
  exact shortInt_of_lt (by omega)

theorem asciiDigit_lt {c : CodePoint} {d : Nat} (found : asciiDigit? c = some d) : d < 10 := by
  unfold asciiDigit? at found
  split at found
  · rename_i bounds
    cases found
    have low : 48 ≤ c.toNat := bounds.1
    have high : c.toNat ≤ 57 := bounds.2
    have zero : '0'.toNat = 48 := by decide
    omega
  · cases found

theorem mapM_asciiDigit_lt {cs : List CodePoint} {digits : List Nat}
    (found : cs.mapM asciiDigit? = some digits) : ∀ d ∈ digits, d < 10 := by
  induction cs generalizing digits with
  | nil =>
    cases found
    exact nofun
  | cons c rest ih =>
    rw [List.mapM_cons] at found
    obtain ⟨d, first, found⟩ := Option.bind_eq_some_iff.1 found
    obtain ⟨ds, later, found⟩ := Option.bind_eq_some_iff.1 found
    cases found
    exact List.forall_mem_cons.2 ⟨asciiDigit_lt first, ih later⟩

theorem signedDigits_short {digits : List Nat} (all : ∀ d ∈ digits, d < 10)
    (few : digits.length ≤ maxIntegerDigits) (negative : Bool) :
    ShortInt (signedDigits negative digits) := by
  have same : (signedDigits negative digits).natAbs = ofDigits 10 digits := by
    unfold signedDigits
    cases negative <;> simp
  unfold ShortInt
  rw [Json.Short, same]
  exact Json.short_ofDigits all few

theorem plainNumber_lt {cs : List CodePoint} {negative : Bool} {digits : List Nat}
    (found : plainNumber? cs = some (negative, digits)) : ∀ d ∈ digits, d < 10 := by
  unfold plainNumber? at found
  dsimp only at found
  split at found
  · cases found
  · obtain ⟨ds, made, same⟩ := Option.map_eq_some_iff.1 found
    cases same
    exact mapM_asciiDigit_lt made

theorem numberInText_lt {text : Text} {negative : Bool} {digits : List Nat}
    (found : numberInText? text = some (negative, digits)) : ∀ d ∈ digits, d < 10 := by
  unfold numberInText? at found
  dsimp only at found
  obtain ⟨_, _, found⟩ := Option.bind_eq_some_iff.1 found
  obtain ⟨_, _, found⟩ := Option.bind_eq_some_iff.1 found
  obtain ⟨_, _, found⟩ := Option.bind_eq_some_iff.1 found
  exact plainNumber_lt found

theorem intOfText_short {text : Text} {n : Int} (found : intOfText text = .ok n) :
    ShortInt n := by
  unfold intOfText at found
  split at found
  · cases found
  · split at found
    · rename_i negative digits made
      split at found
      · cases found
      · rename_i few
        cases found
        exact signedDigits_short (numberInText_lt made) (Nat.not_lt.1 few) negative
    · cases found

theorem intOfFloat_short {x : Binary64} {n : Int} (found : intOfFloat x = .ok n) : ShortInt n := by
  unfold intOfFloat at found
  split at found
  · split at found
    · split at found
      · rename_i negative m whole _ small
        have bound : n.natAbs ≤ wordLimit := by
          cases found
          split <;> omega
        exact shortInt_of_le 20 (by decide) (by decide) bound
      · cases found
    · cases found
  · cases found

theorem intField_short {value : Json} {n : Int} (short : value.Short)
    (found : intField value = .ok n) : ShortInt n := by
  unfold intField at found
  split at found
  · cases found
    exact short
  · cases found
    split <;> exact shortInt_of_le 1 (by decide) (by decide) (Nat.le_refl _)
  · exact intOfFloat_short found
  · split at found
    · cases found
    · exact intOfText_short found
  · cases found

/-! ## Settings that stay as they are -/

/-- Settings whose fields are what is made of them when they are read. -/
structure Settings.Stable (settings : Settings) : Prop where
  server : settings.server.InBounds
  body : ShortInt settings.server.maxBodyBytes
  file : ∀ path ∈ settings.logging.file, normalPath path = path

theorem membersOf_sound {data given : Members} {group : SettingsGroup} (h : (Json.obj data).Sound)
    (found : membersOf? data group = some given) : (Json.obj given).Sound := by
  unfold membersOf? at found
  split at found
  · cases found
    exact Json.Sound.empty
  · rename_i members there
    cases found
    exact h.found there
  · cases found

theorem maxBodyBytes_short {given : Members} {server : ServerSettings}
    (h : (Json.obj given).Sound) (made : ServerSettings.ofMembers given = .ok server) :
    ShortInt server.maxBodyBytes := by
  obtain ⟨_, _, _, body, _⟩ := server_fields made
  obtain same | ⟨value, found, checked⟩ := fieldOr_ok body
  · rw [same]
    exact shortInt_of_le 7 (by decide) (by decide) (Nat.le_refl _)
  · unfold boundedField at checked
    split at checked
    · rename_i n number
      have short := intField_short (h.found found).short number
      split at checked
      · cases checked
      · split at checked
        · cases checked
        · cases checked
          exact short
    · cases checked

theorem file_normal {given : Members} {logging : LoggingSettings}
    (made : LoggingSettings.ofMembers given = .ok logging) :
    ∀ path ∈ logging.file, normalPath path = path := by
  obtain ⟨_, _, file⟩ := logging_fields made
  intro path mem
  obtain same | ⟨value, _, checked⟩ := fieldOr_ok file
  · rw [same] at mem
    cases mem
  · rw [Option.mem_def.1 mem] at checked
    unfold pathField at checked
    split at checked
    · cases checked
    · cases checked
      exact normalPath_normalPath _
    · cases checked

theorem settings_stable {members : Members} {settings : Settings} (h : (Json.obj members).Sound)
    (made : Settings.ofMembers members = .ok settings) : settings.Stable := by
  obtain ⟨server, _, logging⟩ := ofMembers_groups made
  obtain ⟨given, found, server⟩ := groupOf_ok server
  obtain ⟨_, _, logging⟩ := groupOf_ok logging
  exact ⟨server_inBounds server, maxBodyBytes_short (membersOf_sound h found) server,
    file_normal logging⟩

theorem opens_stable {run : Invocation} {options : ProgramOptions} {session : Session}
    (opened : options.Opens run session) : session.settings.Stable := by
  obtain ⟨settings, loaded, same⟩ := opened.loaded
  obtain ⟨members, sound, made⟩ := load_ofMembers loaded
  obtain ⟨server, body, file⟩ := settings_stable sound made
  rw [same]
  exact ⟨server, body, file⟩

/-! ## Reading what is shown -/

def Settings.members (settings : Settings) : Members :=
  [("server", settings.server.toJson), ("conversion", settings.conversion.toJson),
    ("logging", settings.logging.toJson)]

theorem boundedField_int {least n : Int} {greatest : Option Int}
    (inside : least ≤ n ∧ ∀ top ∈ greatest, n ≤ top) :
    boundedField least greatest (.int n) = .ok n := by
  have high : ¬greatest.any (· < n) = true := by
    cases greatest with
    | none => simp
    | some top => simpa using inside.2 top rfl
  change (if n < least then _ else if greatest.any (· < n) then _ else _) = _
  rw [if_neg (Int.not_lt.2 inside.1), if_neg high]

theorem server_members {data : Members} {server : ServerSettings} (inside : server.InBounds)
    (given : data.lookup (.plain "server") = some server.toJson) :
    groupOf data .server ServerSettings.ofMembers = .ok server := by
  have port : boundedField 1 (some 65535) (.int server.port) = .ok server.port :=
    boundedField_int ⟨inside.port.1, by rintro _ ⟨⟩; exact inside.port.2⟩
  have body : boundedField 1 none (.int server.maxBodyBytes) = .ok server.maxBodyBytes :=
    boundedField_int ⟨inside.body, nofun⟩
  have status : boundedField 200 (some 299) (.int server.successStatus) =
      .ok server.successStatus :=
    boundedField_int ⟨inside.status.1, by rintro _ ⟨⟩; exact inside.status.2⟩
  have read : ServerSettings.ofMembers [("host", .str server.host), ("port", .int server.port),
      ("path", .str server.path), ("max_body_bytes", .int server.maxBodyBytes),
      ("success_status", .int server.successStatus)] = .ok server := by
    simp [ServerSettings.ofMembers, fieldOr, lookup_cons, textField, port, body, status]
  unfold groupOf
  rw [show SettingsGroup.server.key = "server" from rfl, given]
  exact read

theorem conversion_members {data : Members} {conversion : ConversionSettings}
    (given : data.lookup (.plain "conversion") = some conversion.toJson) :
    groupOf data .conversion ConversionSettings.ofMembers = .ok conversion := by
  unfold groupOf
  rw [show SettingsGroup.conversion.key = "conversion" from rfl, given]
  rfl

theorem logging_members {data : Members} {logging : LoggingSettings}
    (normal : ∀ path ∈ logging.file, normalPath path = path)
    (given : data.lookup (.plain "logging") = some logging.toJson) :
    groupOf data .logging LoggingSettings.ofMembers = .ok logging := by
  have file : pathField (logging.file.elim .null .str) = .ok logging.file := by
    cases there : logging.file with
    | none => rfl
    | some path =>
      change Except.ok (some (normalPath path)) = _
      rw [normal path there]
  unfold groupOf
  rw [show SettingsGroup.logging.key = "logging" from rfl, given]
  change LoggingSettings.ofMembers [("level", .str logging.level), ("format", .str logging.format),
    ("file", logging.file.elim .null .str)] = _
  simp [LoggingSettings.ofMembers, fieldOr, lookup_cons, textField, file]

/-- Settings that stay as they are come of the members that show them. -/
theorem ofMembers_members {settings : Settings} (stable : settings.Stable) :
    Settings.ofMembers settings.members = .ok settings := by
  unfold Settings.ofMembers
  rw [server_members stable.server (by rfl), conversion_members (by rfl),
    logging_members stable.file (by rfl)]

/-! ## Texts that show settings -/

theorem file_sound (file : Option Text) : (file.elim Json.null Json.str).Sound := by
  cases file with
  | none => exact ⟨trivial, trivial⟩
  | some path => exact ⟨trivial, trivial⟩

theorem toJson_sound {settings : Settings} (stable : settings.Stable) :
    settings.toJson.Sound := by
  have port := stable.server.port
  have status := stable.server.status
  have shortPort : ShortInt settings.server.port :=
    shortInt_of_le 5 (by decide) (by decide : 65535 < 10 ^ 5) (by omega)
  have shortStatus : ShortInt settings.server.successStatus :=
    shortInt_of_le 3 (by decide) (by decide : 299 < 10 ^ 3) (by omega)
  obtain ⟨wellFormed, short⟩ := file_sound settings.logging.file
  constructor
  · simp [Settings.toJson, ServerSettings.toJson, ConversionSettings.toJson,
      LoggingSettings.toJson, Json.WellFormed, Json.MembersWellFormed, keys, wellFormed]
  · exact ⟨⟨trivial, shortPort, trivial, stable.body, shortStatus, trivial⟩, ⟨trivial, trivial⟩,
      ⟨trivial, trivial, short, trivial⟩, trivial⟩

theorem toJson_nesting (settings : Settings) : settings.toJson.nesting = 2 := by
  cases file : settings.logging.file <;>
    simp [Settings.toJson, ServerSettings.toJson, ConversionSettings.toJson,
      LoggingSettings.toJson, Json.nesting, Json.membersNesting, file]

def Settings.shownText (settings : Settings) : Text :=
  settings.toJson.print (.lines 2) ++ "\n"

theorem parse_shownText {settings : Settings} (stable : settings.Stable)
    (joined : settings.toJson.Joined) :
    Json.parse settings.shownText = .ok (.obj settings.members) := by
  have sound := toJson_sound stable
  have read := (Json.parse_print (.lines 2) sound.short (.inr rfl)).1
  rw [Json.merged_eq _ sound.wellFormed joined] at read
  exact read (by rw [toJson_nesting]; decide)

theorem saysHow_shownText {settings : Settings} (stable : settings.Stable)
    (joined : settings.toJson.Joined) :
    SaysHow (Utf8.encode settings.shownText) settings.members (lookupBeside settings.members) where
  read := ⟨settings.shownText, decodeLines_print _ _, parse_shownText stable joined⟩
  unreserved := by rfl
  unready := by rfl
  looked := by rfl

theorem argumentData_members (settings : Settings) :
    argumentData settings.members = .ok (.ok []) := by rfl

theorem dataFromMembers_members (settings : Settings) :
    dataFromMembers settings.members = settings.members := by
  have server : lowered "server" = "server" := by rfl
  have conversion : lowered "conversion" = "conversion" := by rfl
  have logging : lowered "logging" = "logging" := by rfl
  simp [dataFromMembers, Settings.members, SettingsGroup.all, SettingsGroup.key, server,
    conversion, logging]

/-! ## Surroundings that can be read -/

/-- The variables of whole groups are texts that can be read. -/
def ReadableVariables (given : Variables) : Prop :=
  ∀ (group : SettingsGroup) (text : Text),
    given.lookup (LookupOptions.default.variable group) = some (.text text) →
      ∃ value, Json.parse text = .ok value

/-- The variable file can be decoded, and all variables of whole groups can be read. -/
structure Surroundings.Readable (s : Surroundings) : Prop where
  environment : ReadableVariables (s.environmentVariables .default)
  file : ∃ given, s.fileVariables .default .default = .ok given ∧ ReadableVariables given

theorem keysOf_ok (group : SettingsGroup) (name : Text) :
    ∃ found, LookupOptions.default.keysOf? group name = .ok found := by
  unfold LookupOptions.keysOf?
  dsimp only
  split
  · exact ⟨_, rfl⟩
  · exact ⟨_, rfl⟩

theorem nestedMembers_ok (group : SettingsGroup) (given : Variables) :
    ∃ members, nestedMembers .default group given = .ok members := by
  unfold nestedMembers
  generalize ([] : Members) = members
  induction given generalizing members with
  | nil => exact ⟨members, rfl⟩
  | cons first rest ih =>
    obtain ⟨name, held⟩ := first
    obtain ⟨found, same⟩ := keysOf_ok group name
    rw [List.foldlM_cons]
    dsimp only
    rw [same]
    exact ih _

theorem groupFromVariables_ok {given : Variables} (readable : ReadableVariables given)
    (group : SettingsGroup) : ∃ value, groupFromVariables .default given group = .ok value := by
  obtain ⟨members, nested⟩ := nestedMembers_ok group given
  unfold groupFromVariables
  rw [nested]
  dsimp only
  split
  · rename_i text there
    obtain ⟨value, parsed⟩ := readable group text there
    unfold groupFromText
    rw [parsed]
    split
    · rename_i failed
      cases failed
    · exact ⟨_, rfl⟩
    · exact ⟨_, rfl⟩
    · exact ⟨_, rfl⟩
  · exact ⟨_, rfl⟩
  · exact ⟨_, rfl⟩

theorem groupsFrom_ok {ε : Type} {source : SettingsGroup → Except ε (Option Json)}
    (all : ∀ group, ∃ value, source group = .ok value) (groups : List SettingsGroup) :
    ∃ data, groupsFrom source groups = .ok data := by
  induction groups with
  | nil => exact ⟨[], rfl⟩
  | cons group rest ih =>
    obtain ⟨value, same⟩ := all group
    obtain ⟨data, made⟩ := ih
    rw [groupsFrom, same]
    dsimp only
    rw [made]
    exact ⟨_, rfl⟩

theorem variableData_ok {given : Variables} (readable : ReadableVariables given)
    (source : VariableSource) : ∃ data, variableData .default source given = .ok data := by
  obtain ⟨data, made⟩ := groupsFrom_ok (groupFromVariables_ok readable) SettingsGroup.all
  unfold variableData
  rw [if_neg (by decide), made]
  exact ⟨data, rfl⟩

theorem folderData_default (s : Surroundings) : s.folderData .default .null = .ok [] := by rfl

/-- Nothing of surroundings that can be read is a problem for a file that does not ask for more. -/
theorem Surroundings.Readable.layers_ok {s : Surroundings} (h : s.Readable) {members : Members}
    (silent : argumentData members = .ok (.ok [])) :
    ∃ below, s.layers (lookupBeside members) = .ok ⟨below, []⟩ := by
  obtain ⟨given, decoded, readable⟩ := h.file
  obtain ⟨environment, fromEnvironment⟩ := variableData_ok h.environment .environment
  obtain ⟨files, fromFiles⟩ := variableData_ok readable .file
  refine ⟨overlay (overlay [] (LookupOptions.default.addOthers given files)) environment, ?_⟩
  simp only [Surroundings.layers, lookupBeside, decoded, silent, fromEnvironment,
    folderData_default, bind, Except.bind, fromFiles]
  rfl

/-! ## Reading shown settings again -/

theorem settles_members (settings : Settings) (group : SettingsGroup) {name : Text}
    (known : name ∈ group.fields) : Settles settings.members group name := by
  cases group with
  | server =>
    refine ⟨settings.server.toJson, rfl, fun given same => ?_⟩
    cases same
    simp only [SettingsGroup.fields, List.mem_cons, List.not_mem_nil, or_false] at known
    rcases known with rfl | rfl | rfl | rfl | rfl <;> rfl
  | conversion =>
    refine ⟨settings.conversion.toJson, rfl, fun given same => ?_⟩
    cases same
    rw [List.mem_singleton.1 known]
    rfl
  | logging =>
    refine ⟨settings.logging.toJson, rfl, fun given same => ?_⟩
    cases same
    simp only [SettingsGroup.fields, List.mem_cons, List.not_mem_nil, or_false] at known
    rcases known with rfl | rfl | rfl <;> rfl

/-- What is laid under shown settings does not count. -/
theorem ofMembers_overlay {settings : Settings} (stable : settings.Stable) (below : Members) :
    Settings.ofMembers (overlay below settings.members) = .ok settings := by
  have alone : overlay [] settings.members = settings.members := by rfl
  -- All fields are settled, so what is laid under them may as well be nothing.
  have same : Settings.ofMembers (overlay below settings.members) =
      Settings.ofMembers (overlay [] settings.members) := by
    refine settings_alike fun group name known => ?_
    refine overlay_alike (toJson_sound stable).wellFormed fun unsettled => ?_
    exact absurd (settles_members settings group known) unsettled
  rw [same, alone, ofMembers_members stable]

/-- Shown settings are read again as they were. -/
theorem loadFile_shownText {settings : Settings} (stable : settings.Stable)
    (joined : settings.toJson.Joined) {s : Surroundings} (readable : s.Readable) :
    Settings.loadFile s (Utf8.encode settings.shownText) = .ok settings := by
  obtain ⟨below, layers⟩ := readable.layers_ok (argumentData_members settings)
  rw [(saysHow_shownText stable joined).loadFile_eq, dataFromMembers_members, loadOver_eq, layers]
  change ((Settings.ofMembers (overlay (overlay below settings.members) [])).mapError
    SettingsFault.invalid).mapError SettingsFault.ofFile = _
  rw [overlay, ofMembers_overlay stable]
  rfl

/-! ## Runs that show settings -/

/-- A run that shows the settings of a file, without other options in front of its command. -/
def Invocation.ShowsAgain (run : Invocation) (content : List UInt8) : Prop :=
  run.Calls ⟨some content, none, none⟩ .configShow []

theorem show_printed {run : Invocation} {session : Session} {arguments : Arguments}
    (there : run.Reaches session .configShow arguments) (well : run.outcome.exit = 0) :
    run.outcome = .success session.settings.shownText "" session.files := by
  have shown := outcome_of_reaches there
  change run.outcome = printOnly session .configShow arguments session.settings.shownText at shown
  unfold printOnly at shown
  split at shown
  · rw [shown] at well
    exact absurd well (misuse_refuses _ _ session.files).exit
  · exact shown

theorem shown_again {settings : Settings} (stable : settings.Stable)
    (joined : settings.toJson.Joined) {run : Invocation} (readable : run.surroundings.Readable)
    (called : run.ShowsAgain (Utf8.encode settings.shownText)) {log : OpenLog} {files : Files}
    (opened : openLog settings.logging run.files = (.ok log, files)) :
    run.outcome = .success settings.shownText "" files := by
  have opens : ProgramOptions.Opens ⟨some (Utf8.encode settings.shownText), none, none⟩ run
      ⟨run, settings, log, files⟩ :=
    ⟨rfl, ⟨settings, loadFile_shownText stable joined readable, rfl⟩, opened⟩
  have there : run.Reaches ⟨run, settings, log, files⟩ .configShow ⟨[], []⟩ :=
    ⟨⟨_, [], called, opens, by rfl⟩, by rfl⟩
  exact outcome_of_reaches there

/-- The settings that a run shows are read from a file as they were in all surroundings that can be
    read, if no text in them has two halves of a character side by side. A run that shows them from
    there prints the same again if it can open its log, as it can where the first run left its
    files. -/
theorem shown_settings_read_again {run : Invocation} {session : Session} {arguments : Arguments}
    (there : run.Reaches session .configShow arguments) (well : run.outcome.exit = 0)
    (joined : session.settings.toJson.Joined) :
    run.outcome.stdout = session.settings.shownText ∧
    (∀ s : Surroundings, s.Readable →
      Settings.loadFile s (Utf8.encode run.outcome.stdout) = .ok session.settings) ∧
    (∀ run' : Invocation, run'.surroundings.Readable →
      run'.ShowsAgain (Utf8.encode run.outcome.stdout) →
      ∀ log files, openLog session.settings.logging run'.files = (.ok log, files) →
        run'.outcome.exit = 0 ∧ run'.outcome.stdout = run.outcome.stdout) ∧
    ∀ spot, run.outcome.files.obstacle? spot = none →
      ∃ log files, openLog session.settings.logging
        (run.outcome.files.put spot (Utf8.encode run.outcome.stdout)) = (.ok log, files) := by
  obtain ⟨options, texts, _, opened, _⟩ := there.called
  have stable := opens_stable opened
  have printed := show_printed there well
  rw [printed]
  refine ⟨rfl, fun s readable => loadFile_shownText stable joined readable, ?_, ?_⟩
  · intro run' readable called log files opened'
    rw [shown_again stable joined readable called opened']
    exact ⟨rfl, rfl⟩
  · intro spot free
    exact ⟨_, _, openLog_again opened.opened free⟩

/-! ## Defaults that are shown -/

def showing : List Text := ["config-show"]

theorem showing_reaches :
    (bareRun showing []).Reaches (bareSession showing []) .configShow ⟨[], []⟩ := by
  have called : (bareRun showing []).Calls ⟨none, none, none⟩ .configShow [] :=
    ⟨[], "config-show", by rfl, by rfl, by rfl, by rfl⟩
  exact ⟨⟨_, [], called, bareSession_opened _ _, by rfl⟩, by rfl⟩

theorem showing_ends_well : (bareRun showing []).outcome.exit = 0 := by
  rw [outcome_of_reaches showing_reaches]
  rfl

def shownFile (content : List UInt8) : Files := [(⟨.working, ["c"]⟩, content)]

/-- A run that shows the settings in a file, whatever a variable says. -/
def showingFile (content : List UInt8) : Invocation :=
  ⟨["-c", "c", "config-show"], [], portVariable, shownFile content, [], "TIME", usualComplaint,
    usualRoom⟩

theorem showingFile_called (content : List UInt8) :
    (showingFile content).ShowsAgain content := by
  have spot : Spot.ofPath "c" = ⟨.working, ["c"]⟩ := by
    rw [Spot.ofPath, piecesOf_plain (by decide)]
    rfl
  have found : configFileContent (shownFile content) "c" = .ok content := by
    rw [configFileContent, spot]
    rfl
  refine ⟨[⟨.configFile, "c"⟩], "config-show", by rfl, by rfl, ?_, by rfl⟩
  have named : valueOf .configFile [⟨.configFile, "c"⟩] = some (.plain "c") := by rfl
  have taken : ProgramOptions.take (shownFile content) [⟨.configFile, "c"⟩] ⟨none, none, none⟩
      .configFile = .ok ⟨some content, none, none⟩ := by
    simp only [ProgramOptions.take, named, found]
    rfl
  change (ProgramOptions.take (shownFile content) [⟨.configFile, "c"⟩] ⟨none, none, none⟩
    .configFile >>= _).bind _ = _
  rw [taken]
  rfl

theorem portVariable_readable (files : Files) :
    ReadableVariables (Surroundings.environmentVariables ⟨portVariable, files⟩ .default) := by
  change ReadableVariables ((withVariables portVariable).environmentVariables .default)
  rw [environmentVariables_port]
  intro group text there
  have absent : ∀ group : SettingsGroup,
      ([("apidoc_schema_server__port", .text "8080")] : Variables).lookup
        (LookupOptions.default.variable group) = none := by
    intro group
    cases group <;> rfl
  cases (absent group).symm.trans there

theorem showingFile_readable (content : List UInt8) :
    (showingFile content).surroundings.Readable where
  environment := portVariable_readable _
  file := by
    have missing : Files.read (shownFile content) ".env" = .error .missing := by
      rw [Files.read, Files.openPath, piecesOf_plain (by decide)]
      rfl
    exact ⟨[], fileVariables_missing missing, by rintro _ _ ⟨⟩⟩

theorem default_joined : Settings.default.toJson.Joined := by
  simp [Settings.default, ServerSettings.default, LoggingSettings.default, Settings.toJson,
    ServerSettings.toJson, ConversionSettings.toJson, LoggingSettings.toJson, Json.Joined,
    Json.MembersJoined]

def shownDefaults : List UInt8 := Utf8.encode (bareRun showing []).outcome.stdout

/-- The defaults are shown and read again, also where a variable gives another port. -/
theorem defaults_read_again :
    Settings.loadFile (showingFile shownDefaults).surroundings shownDefaults = .ok .default ∧
      (showingFile shownDefaults).outcome.stdout = (bareRun showing []).outcome.stdout := by
  obtain ⟨_, read, again, _⟩ :=
    shown_settings_read_again showing_reaches showing_ends_well default_joined
  have opened : openLog Settings.default.logging (shownFile shownDefaults) =
      (.ok ⟨.json, 20, none⟩, shownFile shownDefaults) := by
    have rank : levelRank LoggingSettings.default.level = .ok 20 := by rfl
    have format : formatOf LoggingSettings.default.format = .json := by rfl
    change openLog LoggingSettings.default _ = _
    rw [openLog, rank, format]
    rfl
  have readable := showingFile_readable shownDefaults
  exact ⟨read _ readable, (again _ readable (showingFile_called _) _ _ opened).2⟩

/-! ## Variables that get in the way -/

def deepObject : Json := .obj [("x", nested 5000)]

def deepVariable : List (Text × Text) := [("APIDOC_SCHEMA_SERVER", deepObject.compactText)]

theorem environment_server (text : Text) :
    (withVariables [("APIDOC_SCHEMA_SERVER", text)]).environmentVariables .default =
      ([("apidoc_schema_server", .text text)] : Variables) := by rfl

theorem variableData_failed {text : Text} {problem : JsonError}
    (failed : Json.parse text = .error problem) : ∃ fault, variableData .default .environment
      ((withVariables [("APIDOC_SCHEMA_SERVER", text)]).environmentVariables .default) =
        .error fault := by
  rw [environment_server]
  obtain ⟨members, nested⟩ := nestedMembers_ok .server [("apidoc_schema_server", .text text)]
  have there : ([("apidoc_schema_server", .text text)] : Variables).lookup
      (LookupOptions.default.variable .server) = some (.text text) := by rfl
  have group : groupFromVariables .default [("apidoc_schema_server", .text text)] .server =
      .error (.notJson problem) := by
    unfold groupFromVariables
    rw [nested, there]
    dsimp only
    rw [groupFromText, failed]
  unfold variableData
  rw [if_neg (by decide), SettingsGroup.all, groupsFrom, group]
  exact ⟨_, rfl⟩

theorem loadFile_failed {settings : Settings} (stable : settings.Stable)
    (joined : settings.toJson.Joined) {text : Text} {problem : JsonError}
    (failed : Json.parse text = .error problem) :
    ∃ fault, Settings.loadFile (withVariables [("APIDOC_SCHEMA_SERVER", text)])
      (Utf8.encode settings.shownText) = .error fault := by
  obtain ⟨fault, failed⟩ := variableData_failed failed
  have layers : (withVariables [("APIDOC_SCHEMA_SERVER", text)]).layers
      (lookupBeside settings.members) = .error fault := by
    simp only [Surroundings.layers, lookupBeside, fileVariables_noFiles, argumentData_members,
      failed, bind, Except.bind]
  rw [(saysHow_shownText stable joined).loadFile_eq, loadOver_eq, layers]
  exact ⟨_, rfl⟩

/-- A variable counts even where a file says everything, as it does where a file leaves something
    out: an object in it that nests too deep keeps the settings that were shown from being read. -/
theorem deep_object_not_read :
    (bareRun showing []).Reaches (bareSession showing []) .configShow ⟨[], []⟩ ∧
    (bareRun showing []).outcome.exit = 0 ∧
    Settings.loadFile (withVariables deepVariable)
      (Utf8.encode (bareRun showing []).outcome.stdout) ≠
        .ok (bareSession showing []).settings := by
  refine ⟨showing_reaches, showing_ends_well, ?_⟩
  have short : deepObject.Short := ⟨nested_short 5000, trivial⟩
  have deep : Json.maxNesting < deepObject.nesting := by
    rw [deepObject, Json.nesting, Json.membersNesting, Json.membersNesting, nested_nesting]
    decide
  obtain ⟨container, failed⟩ := (Json.parse_print .compact short (.inl rfl)).2 deep
  have failed : Json.parse deepObject.compactText = .error (.tooDeep container) := by
    rwa [Text.append_empty] at failed
  have stable := opens_stable (bareSession_opened showing [])
  obtain ⟨fault, unread⟩ := loadFile_failed stable default_joined failed
  rw [show_printed showing_reaches showing_ends_well]
  change Settings.loadFile _ (Utf8.encode (bareSession showing []).settings.shownText) ≠ _
  rw [deepVariable, unread]
  rintro ⟨⟩

end RequestSchema

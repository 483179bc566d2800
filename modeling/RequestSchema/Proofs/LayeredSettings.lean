import RequestSchema.Proofs.KeptFiles
import RequestSchema.Proofs.SoundSources

set_option autoImplicit false

/-!
# Settings in layers

The settings of a file are put together in layers: those of its surroundings are below the file, and
what the arguments in the file say is above it. What a file settles is the same in all surroundings.
What it leaves out is as the surroundings say, and it cannot be read where they cannot be.
-/

namespace RequestSchema

/-! ## Layers -/

/-- What a file of settings is laid over, and what its own arguments lay over it. -/
structure Layers where
  below : Members
  above : Members

/-- The layers around a file, in the order in which they are read and taken apart. -/
def Surroundings.layers (s : Surroundings) (lookup : Lookup) : Except SettingsFault Layers := do
  let options := lookup.options
  let fileVariables ← s.fileVariables options lookup.variableFiles
  let given ← argumentData lookup.arguments
  let above ← given
  let environment ← variableData options .environment (s.environmentVariables options)
  let files ← variableData options .file fileVariables
  let folders ← s.folderData options lookup.folders
  pure ⟨overlay (overlay folders (options.addOthers fileVariables files)) environment, above⟩

/-- The settings that come of layers with a file between them. -/
def Layers.settings (layers : Layers) (data : Members) : Except SettingsFault Settings :=
  (Settings.ofMembers (overlay (overlay layers.below data) layers.above)).mapError .invalid

theorem loadOver_eq (s : Surroundings) (lookup : Lookup) (data : Members) :
    Settings.loadOver s lookup data = s.layers lookup >>= fun layers => layers.settings data := by
  simp only [Settings.loadOver, Surroundings.layers, Layers.settings, bind_assoc, pure_bind]

theorem argumentData_sound {members data : Members}
    (made : argumentData members = .ok (.ok data)) : (Json.obj data).Sound := by
  unfold argumentData at made
  obtain ⟨given?, _, made⟩ := bind_eq_ok made
  cases given? with
  | none =>
    cases made
    exact Json.Sound.empty
  | some given => exact variableData_sound (Except.ok.inj made)

theorem folderData_sound {s : Surroundings} {options : LookupOptions} {value : Json}
    {data : Members} (made : s.folderData options value = .ok data) : (Json.obj data).Sound := by
  unfold Surroundings.folderData at made
  obtain ⟨folders, _, made⟩ := bind_eq_ok made
  exact groupsFrom_sound (groupFromFolders_sound s.files options folders) (mapError_ok made)

theorem layers_sound {s : Surroundings} {lookup : Lookup} {layers : Layers}
    (made : s.layers lookup = .ok layers) :
    (Json.obj layers.below).Sound ∧ (Json.obj layers.above).Sound := by
  unfold Surroundings.layers at made
  dsimp only at made
  obtain ⟨fileVariables, _, made⟩ := bind_eq_ok made
  obtain ⟨given, arguments, made⟩ := bind_eq_ok made
  obtain ⟨above, same, made⟩ := bind_eq_ok made
  obtain ⟨environment, fromEnvironment, made⟩ := bind_eq_ok made
  obtain ⟨files, fromFiles, made⟩ := bind_eq_ok made
  obtain ⟨folders, fromFolders, made⟩ := bind_eq_ok made
  cases made
  rw [same] at arguments
  have others := addOthers_sound lookup.options fileVariables (variableData_sound fromFiles)
  have lower := overlay_sound _ _ others (folderData_sound fromFolders)
  exact ⟨overlay_sound _ _ (variableData_sound fromEnvironment) lower,
    argumentData_sound arguments⟩

/-- What lies above a file does not hang on its surroundings. -/
theorem layers_above {s s' : Surroundings} {lookup : Lookup} {layers layers' : Layers}
    (made : s.layers lookup = .ok layers) (made' : s'.layers lookup = .ok layers') :
    layers.above = layers'.above := by
  have above : ∀ {s : Surroundings} {layers : Layers}, s.layers lookup = .ok layers →
      argumentData lookup.arguments = .ok (.ok layers.above) := by
    intro s layers made
    unfold Surroundings.layers at made
    dsimp only at made
    obtain ⟨_, _, made⟩ := bind_eq_ok made
    obtain ⟨given, arguments, made⟩ := bind_eq_ok made
    obtain ⟨above, same, made⟩ := bind_eq_ok made
    obtain ⟨_, _, made⟩ := bind_eq_ok made
    obtain ⟨_, _, made⟩ := bind_eq_ok made
    obtain ⟨_, _, made⟩ := bind_eq_ok made
    cases made
    rw [arguments, same]
  exact Except.ok.inj (Except.ok.inj ((above made).symm.trans (above made')))

/-! ## What is said of a field -/

/-- The members that there are for a group, unless something other than an object stands for it. -/
def membersOf? (data : Members) (group : SettingsGroup) : Option Members :=
  match data.lookup group.key with
  | none => some []
  | some (.obj given) => some given
  | some _ => none

/-- What is said of a field, if anything can be said of the fields of its group. -/
def saidOf (data : Members) (group : SettingsGroup) (name : Text) : Option (Option Json) :=
  (membersOf? data group).map fun given => given.lookup name

/-- No field takes an object, whatever is in it. -/
inductive SaidAlike : Option (Option Json) → Option (Option Json) → Prop
  | same (said : Option (Option Json)) : SaidAlike said said
  | objects (members members' : Members) :
      SaidAlike (some (some (.obj members))) (some (some (.obj members')))

theorem SaidAlike.isSome_eq {said said' : Option (Option Json)} (h : SaidAlike said said') :
    said.isSome = said'.isSome := by
  cases h <;> rfl

/-- The same is said of all fields of a group. -/
def AlikeIn (group : SettingsGroup) (given given' : Members) : Prop :=
  ∀ name ∈ group.fields, SaidAlike (some (given.lookup name)) (some (given'.lookup name))

theorem fieldOr_alike {α : Type} {given given' : Members} {name : Text} {check : Json → Field α}
    (objects : ∀ members members', check (.obj members) = check (.obj members')) (default : α)
    (alike : SaidAlike (some (given.lookup name)) (some (given'.lookup name))) :
    fieldOr given name default check = fieldOr given' name default check := by
  unfold fieldOr
  generalize given.lookup name = said, given'.lookup name = said' at alike
  cases alike with
  | same => rfl
  | objects members members' => exact objects members members'

theorem boundedField_objects (least : Int) (greatest : Option Int) (members members' : Members) :
    boundedField least greatest (.obj members) = boundedField least greatest (.obj members') := rfl

theorem server_alike {given given' : Members} (alike : AlikeIn .server given given') :
    ServerSettings.ofMembers given = ServerSettings.ofMembers given' := by
  have bounded := boundedField_objects
  simp only [AlikeIn, SettingsGroup.fields, List.forall_mem_cons] at alike
  obtain ⟨host, port, path, body, status, _⟩ := alike
  unfold ServerSettings.ofMembers
  rw [fieldOr_alike (fun _ _ => rfl) _ host, fieldOr_alike (bounded _ _) _ port,
    fieldOr_alike (fun _ _ => rfl) _ path, fieldOr_alike (bounded _ _) _ body,
    fieldOr_alike (bounded _ _) _ status]

theorem conversion_alike {given given' : Members} (alike : AlikeIn .conversion given given') :
    ConversionSettings.ofMembers given = ConversionSettings.ofMembers given' := by
  unfold ConversionSettings.ofMembers
  rw [fieldOr_alike (fun _ _ => rfl) _ (alike "strict" List.mem_cons_self)]

theorem logging_alike {given given' : Members} (alike : AlikeIn .logging given given') :
    LoggingSettings.ofMembers given = LoggingSettings.ofMembers given' := by
  simp only [AlikeIn, SettingsGroup.fields, List.forall_mem_cons] at alike
  obtain ⟨level, format, file, _⟩ := alike
  unfold LoggingSettings.ofMembers
  rw [fieldOr_alike (fun _ _ => rfl) _ level, fieldOr_alike (fun _ _ => rfl) _ format,
    fieldOr_alike (fun _ _ => rfl) _ file]

theorem groupOf_eq {α : Type} (data : Members) (group : SettingsGroup)
    (check : Members → Checked α) : groupOf data group check =
      (membersOf? data group).elim (.error [⟨[group.key], .groupType⟩]) check := by
  unfold groupOf membersOf?
  cases data.lookup group.key with
  | none => rfl
  | some value => cases value <;> rfl

theorem SettingsGroup.fields_ne_nil (group : SettingsGroup) : group.fields ≠ [] := by
  cases group <;> exact List.cons_ne_nil _ _

/-- Two lots of members say the same of all fields of a group. -/
def SameIn (group : SettingsGroup) (data data' : Members) : Prop :=
  ∀ name ∈ group.fields, SaidAlike (saidOf data group name) (saidOf data' group name)

theorem groupOf_alike {α : Type} {data data' : Members} {group : SettingsGroup}
    {check : Members → Checked α}
    (sameCheck : ∀ {given given'}, AlikeIn group given given' → check given = check given')
    (same : SameIn group data data') : groupOf data group check = groupOf data' group check := by
  rw [groupOf_eq, groupOf_eq]
  unfold SameIn saidOf at same
  obtain ⟨name, more, fields⟩ := List.exists_cons_of_ne_nil group.fields_ne_nil
  have shaped := (same name (by rw [fields]; exact List.mem_cons_self)).isSome_eq
  cases found : membersOf? data group with
  | none =>
    cases found' : membersOf? data' group with
    | none => rfl
    | some given' =>
      rw [found, found'] at shaped
      cases shaped
  | some given =>
    cases found' : membersOf? data' group with
    | none =>
      rw [found, found'] at shaped
      cases shaped
    | some given' =>
      rw [found, found'] at same
      exact sameCheck same

theorem settings_alike {data data' : Members} (same : ∀ group, SameIn group data data') :
    Settings.ofMembers data = Settings.ofMembers data' := by
  unfold Settings.ofMembers
  rw [groupOf_alike server_alike (same .server),
    groupOf_alike conversion_alike (same .conversion),
    groupOf_alike logging_alike (same .logging)]

/-! ## Fields of settings -/

/-- A field of settings as it is shown. -/
def Settings.field (settings : Settings) (group : SettingsGroup) (name : Text) : Json :=
  (settings.toJson.get group.key).get name

theorem server_fields {given : Members} {server : ServerSettings}
    (made : ServerSettings.ofMembers given = .ok server) :
    fieldOr given "host" ServerSettings.default.host textField = .ok server.host ∧
    fieldOr given "port" ServerSettings.default.port (boundedField 1 (some 65535)) =
      .ok server.port ∧
    fieldOr given "path" ServerSettings.default.path textField = .ok server.path ∧
    fieldOr given "max_body_bytes" ServerSettings.default.maxBodyBytes (boundedField 1 none) =
      .ok server.maxBodyBytes ∧
    fieldOr given "success_status" ServerSettings.default.successStatus
      (boundedField 200 (some 299)) = .ok server.successStatus := by
  unfold ServerSettings.ofMembers at made
  dsimp only at made
  split at made
  · rename_i host port path body status
    cases made
    exact ⟨host, port, path, body, status⟩
  · cases made

theorem conversion_fields {given : Members} {conversion : ConversionSettings}
    (made : ConversionSettings.ofMembers given = .ok conversion) :
    fieldOr given "strict" ConversionSettings.default.strict boolField = .ok conversion.strict := by
  unfold ConversionSettings.ofMembers at made
  dsimp only at made
  split at made
  · rename_i strict
    cases made
    exact strict
  · cases made

theorem logging_fields {given : Members} {logging : LoggingSettings}
    (made : LoggingSettings.ofMembers given = .ok logging) :
    fieldOr given "level" LoggingSettings.default.level textField = .ok logging.level ∧
    fieldOr given "format" LoggingSettings.default.format textField = .ok logging.format ∧
    fieldOr given "file" LoggingSettings.default.file pathField = .ok logging.file := by
  unfold LoggingSettings.ofMembers at made
  dsimp only at made
  split at made
  · rename_i level format file
    cases made
    exact ⟨level, format, file⟩
  · cases made

theorem groupOf_ok {α : Type} {data : Members} {group : SettingsGroup}
    {check : Members → Checked α} {found : α} (made : groupOf data group check = .ok found) :
    ∃ given, membersOf? data group = some given ∧ check given = .ok found := by
  rw [groupOf_eq] at made
  cases members : membersOf? data group with
  | none =>
    rw [members] at made
    cases made
  | some given =>
    rw [members] at made
    exact ⟨given, rfl, made⟩

theorem ofMembers_groups {data : Members} {settings : Settings}
    (made : Settings.ofMembers data = .ok settings) :
    groupOf data .server ServerSettings.ofMembers = .ok settings.server ∧
    groupOf data .conversion ConversionSettings.ofMembers = .ok settings.conversion ∧
    groupOf data .logging LoggingSettings.ofMembers = .ok settings.logging := by
  unfold Settings.ofMembers at made
  dsimp only at made
  split at made
  · rename_i server conversion logging
    cases made
    exact ⟨server, conversion, logging⟩
  · cases made

/-- A field of settings hangs on nothing but what is said of it. -/
theorem field_alike {data data' : Members} {settings settings' : Settings}
    (made : Settings.ofMembers data = .ok settings)
    (made' : Settings.ofMembers data' = .ok settings') {group : SettingsGroup} {name : Text}
    (known : name ∈ group.fields)
    (alike : SaidAlike (saidOf data group name) (saidOf data' group name)) :
    settings.field group name = settings'.field group name := by
  obtain ⟨server, conversion, logging⟩ := ofMembers_groups made
  obtain ⟨server', conversion', logging'⟩ := ofMembers_groups made'
  have same : ∀ {α : Type} {default value value' : α} {check : Json → Field α}
      {given given' : Members}, (∀ members members', check (.obj members) = check (.obj members')) →
      membersOf? data group = some given → membersOf? data' group = some given' →
      fieldOr given name default check = .ok value →
      fieldOr given' name default check = .ok value' → value = value' := by
    intro α default value value' check given given' objects found found' made made'
    rw [saidOf, saidOf, found, found'] at alike
    rw [fieldOr_alike objects default alike, made'] at made
    exact (Except.ok.inj made).symm
  have bounded := boundedField_objects
  cases group with
  | server =>
    obtain ⟨given, found, made⟩ := groupOf_ok server
    obtain ⟨given', found', made'⟩ := groupOf_ok server'
    obtain ⟨host, port, path, body, status⟩ := server_fields made
    obtain ⟨host', port', path', body', status'⟩ := server_fields made'
    simp only [SettingsGroup.fields, List.mem_cons, List.not_mem_nil, or_false] at known
    rcases known with rfl | rfl | rfl | rfl | rfl
    · exact congrArg Json.str (same (fun _ _ => rfl) found found' host host')
    · exact congrArg Json.int (same (bounded _ _) found found' port port')
    · exact congrArg Json.str (same (fun _ _ => rfl) found found' path path')
    · exact congrArg Json.int (same (bounded _ _) found found' body body')
    · exact congrArg Json.int (same (bounded _ _) found found' status status')
  | conversion =>
    obtain ⟨given, found, made⟩ := groupOf_ok conversion
    obtain ⟨given', found', made'⟩ := groupOf_ok conversion'
    obtain rfl : name = "strict" := List.mem_singleton.1 known
    exact congrArg Json.bool (same (fun _ _ => rfl) found found' (conversion_fields made)
      (conversion_fields made'))
  | logging =>
    obtain ⟨given, found, made⟩ := groupOf_ok logging
    obtain ⟨given', found', made'⟩ := groupOf_ok logging'
    obtain ⟨level, format, file⟩ := logging_fields made
    obtain ⟨level', format', file'⟩ := logging_fields made'
    simp only [SettingsGroup.fields, List.mem_cons, List.not_mem_nil, or_false] at known
    rcases known with rfl | rfl | rfl
    · exact congrArg Json.str (same (fun _ _ => rfl) found found' level level')
    · exact congrArg Json.str (same (fun _ _ => rfl) found found' format format')
    · exact congrArg (fun file : Option Text => file.elim Json.null Json.str)
        (same (fun _ _ => rfl) found found' file file')

/-! ## Members laid over others -/

theorem lookup_overlay (base : Members) {update : Members} (distinct : (keys update).Nodup)
    (name : Text) :
    (overlay base update).lookup name =
      (update.lookup name).elim (base.lookup name) fun value =>
        some (overlayValue (base.lookup name) value) := by
  induction update generalizing base with
  | nil => rw [overlay]; rfl
  | cons member rest ih =>
    obtain ⟨other, value⟩ := member
    obtain ⟨fresh, distinct⟩ := List.nodup_cons.1 distinct
    rw [overlay, ih _ distinct, lookup_setKey, lookup_cons]
    by_cases same : other = name
    · subst same
      have absent : rest.lookup other = none := by
        cases found : rest.lookup other with
        | none => rfl
        | some value' =>
          exact absurd ((mem_keys_iff other rest).2
            ⟨value', (lookup_eq_some_iff distinct other value').1 found⟩) fresh
      rw [absent, if_pos rfl, if_pos rfl]
      rfl
    · rw [if_neg same, if_neg same]

theorem overlayValue_none (value : Json) : overlayValue none value = value := by
  cases value <;> simp only [overlayValue]

/-- Members settle a field if they give it, or if they do not give its group as an object. -/
def Settles (update : Members) (group : SettingsGroup) (name : Text) : Prop :=
  ∃ value, update.lookup group.key = some value ∧
    ∀ given, value = .obj given → (given.lookup name).isSome

/-- What is said of a field once members are laid over others. -/
theorem saidOf_overlay {base update : Members} (distinct : (Json.obj update).WellFormed)
    (group : SettingsGroup) (name : Text) : saidOf (overlay base update) group name =
      match update.lookup group.key with
      | none => saidOf base group name
      | some (.obj given) =>
        some ((given.lookup name).elim (saidOf base group name).join fun value =>
          some (overlayValue (saidOf base group name).join value))
      | some _ => none := by
  have looked := lookup_overlay base distinct.1 group.key
  unfold saidOf membersOf?
  rw [looked]
  cases found : update.lookup group.key with
  | none => rfl
  | some value =>
    cases value with
    | obj given =>
      have inner : (Json.obj given).WellFormed :=
        (Json.membersWellFormed_iff update).1 distinct.2 _ _
          ((lookup_eq_some_iff distinct.1 _ _).1 found)
      -- An object that is laid over nothing, or over no object, stands alone.
      have alone : ((given.lookup name).elim none fun value => some (overlayValue none value)) =
          given.lookup name := by
        cases given.lookup name with
        | none => rfl
        | some value => exact congrArg some (overlayValue_none value)
      dsimp only [Option.elim_some]
      cases base.lookup group.key with
      | none => exact congrArg some alone.symm
      | some old =>
        cases old with
        | obj members =>
          simp only [overlayValue, Option.map_some, Option.join_some]
          rw [lookup_overlay members inner.1]
        | _ =>
          simp only [overlayValue, Option.map_some, Option.map_none, Option.join_none]
          exact congrArg some alone.symm
    | _ => simp [overlayValue]

theorem overlayValue_alike (old old' : Option Json) (value : Json) :
    SaidAlike (some (some (overlayValue old value))) (some (some (overlayValue old' value))) := by
  cases value with
  | obj update =>
    have laid : ∀ old, ∃ members, overlayValue old (.obj update) = .obj members := by
      intro old
      rw [overlayValue.eq_def]
      dsimp only
      split <;> exact ⟨_, rfl⟩
    obtain ⟨members, same⟩ := laid old
    obtain ⟨members', same'⟩ := laid old'
    rw [same, same']
    exact .objects members members'
  | _ =>
    simp only [overlayValue]
    exact .same _

/-- What members settle is the same whatever they are laid over. -/
theorem overlay_alike {base base' update : Members} (distinct : (Json.obj update).WellFormed)
    {group : SettingsGroup} {name : Text}
    (alike : ¬Settles update group name →
      SaidAlike (saidOf base group name) (saidOf base' group name)) :
    SaidAlike (saidOf (overlay base update) group name)
      (saidOf (overlay base' update) group name) := by
  rw [saidOf_overlay distinct, saidOf_overlay distinct]
  unfold Settles at alike
  cases found : update.lookup group.key with
  | none =>
    rw [found] at alike
    exact alike (by rintro ⟨_, ⟨⟩, _⟩)
  | some value =>
    rw [found] at alike
    cases value with
    | obj given =>
      dsimp only
      cases field : given.lookup name with
      | some value => exact overlayValue_alike _ _ value
      | none =>
        have unsettled : ¬∃ value, some (Json.obj given) = some value ∧
            ∀ members, value = .obj members → (members.lookup name).isSome := by
          rintro ⟨_, ⟨⟩, whole⟩
          have given := whole given rfl
          rw [field] at given
          cases given
        have below := alike unsettled
        generalize saidOf base group name = said, saidOf base' group name = said' at below
        cases below with
        | same => exact .same _
        | objects members members' => exact .objects members members'
    | _ => exact .same _

/-- Where members leave a field out, it is as what they are laid over has it. -/
theorem saidOf_overlay_unsettled {base update : Members} (distinct : (Json.obj update).WellFormed)
    {group : SettingsGroup} {name : Text} (unsettled : ¬Settles update group name)
    (shaped : (membersOf? base group).isSome) :
    saidOf (overlay base update) group name = saidOf base group name := by
  obtain ⟨members, below⟩ := Option.isSome_iff_exists.1 shaped
  rw [saidOf_overlay distinct]
  cases found : update.lookup group.key with
  | none => rfl
  | some value =>
    have leaves : ∃ given, value = .obj given ∧ given.lookup name = none := by
      by_contra whole
      refine unsettled ⟨value, found, fun given same => ?_⟩
      exact Option.isSome_iff_ne_none.2 fun missing => whole ⟨given, same, missing⟩
    obtain ⟨given, rfl, missing⟩ := leaves
    dsimp only
    rw [missing, saidOf, below]
    rfl

/-! ## Files -/

/-- A file that is an object, and how it says that settings are looked up besides it. -/
structure SaysHow (content : List UInt8) (members : Members) (lookup : Lookup) : Prop where
  read : ∃ text, decodeLines content = .ok text ∧ Json.parse text = .ok (.obj members)
  unreserved : members.lookup reservedMember = none
  unready : said? members "_build_sources" = none
  looked : Lookup.ofMembers members = .ok lookup

section

variable {content : List UInt8} {members : Members} {lookup : Lookup} {s s' : Surroundings}

theorem SaysHow.loadFile_eq (h : SaysHow content members lookup) (s : Surroundings) :
    Settings.loadFile s content =
      (Settings.loadOver s lookup (dataFromMembers members)).mapError SettingsFault.ofFile := by
  obtain ⟨⟨text, decoded, parsed⟩, unreserved, unready, looked⟩ := h
  simp only [Settings.loadFile, decoded, parsed, Settings.loadMembers, unreserved, unready, looked]
  rfl

theorem SaysHow.members_sound (h : SaysHow content members lookup) :
    (Json.obj (dataFromMembers members)).Sound := by
  obtain ⟨text, _, parsed⟩ := h.read
  exact dataFromMembers_sound (parse_sound parsed)

/-- What comes of any other file does not hang on its surroundings. -/
theorem loadFile_eq_of_not_saysHow (silent : ∀ members lookup, ¬SaysHow content members lookup)
    (s s' : Surroundings) : Settings.loadFile s content = Settings.loadFile s' content := by
  rw [Settings.loadFile, Settings.loadFile]
  cases decoded : decodeLines content with
  | error problem => rfl
  | ok text =>
    dsimp only
    cases parsed : Json.parse text with
    | error problem => rfl
    | ok value =>
      cases value with
      | obj members =>
        dsimp only
        rw [Settings.loadMembers, Settings.loadMembers]
        cases reserved : members.lookup reservedMember with
        | some value =>
          rw [if_pos (by rfl), if_pos (by rfl)]
          simp only [Except.mapError, bind, Except.bind]
        | none =>
          rw [if_neg (by simp), if_neg (by simp)]
          cases ready : said? members "_build_sources" with
          | some value => rfl
          | none =>
            dsimp only [pure_bind]
            cases looked : Lookup.ofMembers members with
            | error problem => simp only [Except.mapError, bind, Except.bind]
            | ok lookup =>
              exact absurd ⟨⟨text, decoded, parsed⟩, reserved, ready, looked⟩
                (silent members lookup)
      | _ => rfl

/-- A file settles a field by itself or by its arguments. -/
def FileSettles (members above : Members) (group : SettingsGroup) (name : Text) : Prop :=
  Settles (dataFromMembers members) group name ∨ Settles above group name

/-- Surroundings that can be read and say the same of all that a file leaves out. -/
def AgreeBeside (members : Members) (lookup : Lookup) (s s' : Surroundings) : Prop :=
  ∃ layers layers', s.layers lookup = .ok layers ∧ s'.layers lookup = .ok layers' ∧
    ∀ group : SettingsGroup, ∀ name ∈ group.fields, ¬FileSettles members layers.above group name →
      saidOf layers.below group name = saidOf layers'.below group name

theorem loadFile_agree (h : SaysHow content members lookup)
    (agree : AgreeBeside members lookup s s') :
    Settings.loadFile s content = Settings.loadFile s' content := by
  obtain ⟨layers, layers', made, made', beside⟩ := agree
  have above := layers_above made made'
  have same : ∀ group, SameIn group
      (overlay (overlay layers.below (dataFromMembers members)) layers.above)
      (overlay (overlay layers'.below (dataFromMembers members)) layers'.above) := by
    intro group name known
    rw [← above]
    -- From the top down: what no layer above settles is left to the surroundings.
    refine overlay_alike (layers_sound made).2.wellFormed fun notAbove => ?_
    refine overlay_alike h.members_sound.wellFormed fun notThere => ?_
    rw [beside group name known (not_or.2 ⟨notThere, notAbove⟩)]
    exact .same _
  have settings : layers.settings (dataFromMembers members) =
      layers'.settings (dataFromMembers members) := by
    rw [Layers.settings, Layers.settings, settings_alike same]
  rw [h.loadFile_eq, h.loadFile_eq, loadOver_eq, loadOver_eq, made, made']
  exact congrArg (Except.mapError SettingsFault.ofFile) settings

theorem loadFile_field (h : SaysHow content members lookup) {layers : Layers}
    (made : s.layers lookup = .ok layers) {settings alone : Settings}
    (loaded : Settings.loadFile s content = .ok settings)
    (without : Settings.ofMembers layers.below = .ok alone) {group : SettingsGroup} {name : Text}
    (known : name ∈ group.fields) (open_ : ¬FileSettles members layers.above group name) :
    settings.field group name = alone.field group name := by
  obtain ⟨notThere, notAbove⟩ := not_or.1 open_
  rw [h.loadFile_eq, loadOver_eq, made] at loaded
  have together := mapError_ok (mapError_ok loaded)
  have shaped : (membersOf? layers.below group).isSome := by
    obtain ⟨server, conversion, logging⟩ := ofMembers_groups without
    cases group with
    | server => exact Option.isSome_of_mem (groupOf_ok server).choose_spec.1
    | conversion => exact Option.isSome_of_mem (groupOf_ok conversion).choose_spec.1
    | logging => exact Option.isSome_of_mem (groupOf_ok logging).choose_spec.1
  have middle := saidOf_overlay_unsettled h.members_sound.wellFormed notThere shaped
  have shapedAbove :
      (membersOf? (overlay layers.below (dataFromMembers members)) group).isSome := by
    have said := congrArg Option.isSome middle
    rwa [saidOf, saidOf, Option.isSome_map, Option.isSome_map, shaped] at said
  refine field_alike together without known ?_
  rw [saidOf_overlay_unsettled (layers_sound made).2.wellFormed notAbove shapedAbove, middle]
  exact .same _

end

/-- What a file settles is the same in all surroundings that can be read. All that it leaves out is
    what the surroundings alone would come to, and what cannot be read of them is its problem. -/
theorem file_prevails_where_it_settles (content : List UInt8) :
    (∀ s s' : Surroundings,
      (∀ members lookup, SaysHow content members lookup → AgreeBeside members lookup s s') →
        Settings.loadFile s content = Settings.loadFile s' content) ∧
    (∀ s members lookup layers settings alone, SaysHow content members lookup →
      s.layers lookup = .ok layers → Settings.loadFile s content = .ok settings →
      Settings.ofMembers layers.below = .ok alone → ∀ group : SettingsGroup, ∀ name ∈ group.fields,
        ¬FileSettles members layers.above group name →
          settings.field group name = alone.field group name) ∧
    ∀ s members lookup fault, SaysHow content members lookup → s.layers lookup = .error fault →
      Settings.loadFile s content = .error fault.ofFile := by
  refine ⟨?_, ?_, ?_⟩
  · intro s s' agree
    by_cases silent : ∀ members lookup, ¬SaysHow content members lookup
    · exact loadFile_eq_of_not_saysHow silent s s'
    · simp only [not_forall, not_not] at silent
      obtain ⟨members, lookup, h⟩ := silent
      exact loadFile_agree h (agree members lookup h)
  · intro s members lookup layers settings alone h made loaded without group name known
    exact loadFile_field h made loaded without known
  · intro s members lookup fault h failed
    rw [h.loadFile_eq, loadOver_eq, failed]
    rfl

/-! ## Variables beside a file -/

def withVariables (environment : List (Text × Text)) : Surroundings := ⟨environment, []⟩

/-- How settings are looked up beside a file that does not say. -/
def lookupBeside (members : Members) : Lookup := ⟨.default, .default, .null, members⟩

theorem fileVariables_missing {s : Surroundings} (missing : s.files.read ".env" = .error .missing) :
    s.fileVariables .default .default = .ok [] := by
  have home : withHome? s.environment ".env" = .ok (some ".env") := by rfl
  simp only [Surroundings.fileVariables, VariableFiles.default, pathsIn, Except.mapError, bind,
    Except.bind, List.mapM_cons, List.mapM_nil, Surroundings.bindingsOf, pathOfItem, home, missing]
  rfl

theorem fileVariables_noFiles (environment : List (Text × Text)) :
    (withVariables environment).fileVariables .default .default = .ok [] := by
  have missing : Files.read [] ".env" = .error .missing := by
    rw [Files.read, Files.openPath, piecesOf_plain (by decide)]
    rfl
  exact fileVariables_missing missing

theorem layers_noFiles {environment : List (Text × Text)} {members data : Members}
    (given : argumentData members = .ok (.ok []))
    (found : variableData .default .environment
      ((withVariables environment).environmentVariables .default) = .ok data) :
    (withVariables environment).layers (lookupBeside members) = .ok ⟨overlay [] data, []⟩ := by
  have folders : (withVariables environment).folderData .default .null = .ok [] := by rfl
  simp only [Surroundings.layers, lookupBeside, fileVariables_noFiles, found, folders, given]
  rfl

def portVariable : List (Text × Text) := [("APIDOC_SCHEMA_SERVER__PORT", "8080")]

def portData (port : Json) : Members := [("server", .obj [("port", port)])]

theorem environmentVariables_port : (withVariables portVariable).environmentVariables .default =
    ([("apidoc_schema_server__port", .text "8080")] : Variables) := by cbv

theorem variableData_port : variableData .default .environment
    ((withVariables portVariable).environmentVariables .default) =
      .ok (portData (.str "8080")) := by
  rw [environmentVariables_port]
  rfl

theorem variableData_none : variableData .default .environment
    ((withVariables []).environmentVariables .default) = .ok [] := by rfl

def portFile : List UInt8 := Utf8.encode "\x7b\"server\": \x7b\"port\": 9000\x7d\x7d"

theorem saysHow_portFile :
    SaysHow portFile (portData (.int 9000)) (lookupBeside (portData (.int 9000))) where
  read := ⟨"\x7b\"server\": \x7b\"port\": 9000\x7d\x7d", by cbv, by cbv⟩
  unreserved := by rfl
  unready := by rfl
  looked := by cbv

theorem SaysHow.unique {content : List UInt8} {members members' : Members} {lookup lookup' : Lookup}
    (h : SaysHow content members lookup) (h' : SaysHow content members' lookup') :
    members = members' ∧ lookup = lookup' := by
  obtain ⟨⟨text, decoded, parsed⟩, _, _, looked⟩ := h
  obtain ⟨⟨text', decoded', parsed'⟩, _, _, looked'⟩ := h'
  obtain rfl : text = text' := Except.ok.inj (decoded.symm.trans decoded')
  obtain rfl : members = members' := Json.obj.inj (Except.ok.inj (parsed.symm.trans parsed'))
  exact ⟨rfl, Except.ok.inj (looked.symm.trans looked')⟩

theorem layers_portFile :
    (withVariables portVariable).layers (lookupBeside (portData (.int 9000))) =
      .ok ⟨portData (.str "8080"), []⟩ :=
  layers_noFiles (by rfl) variableData_port

/-- The port of a file goes before that of a variable, and there is none for the host. -/
theorem port_file_prevails :
    Settings.loadFile (withVariables portVariable) portFile =
      Settings.loadFile (withVariables []) portFile ∧
    ∃ settings, Settings.loadFile (withVariables portVariable) portFile = .ok settings ∧
      settings.field .server "host" = .str "127.0.0.1" := by
  obtain ⟨agree, left, _⟩ := file_prevails_where_it_settles portFile
  have loaded : Settings.loadFile (withVariables portVariable) portFile =
      .ok ⟨⟨"127.0.0.1", 9000, "/", 1024 * 1024, 201⟩, .default, .default⟩ := by
    rw [saysHow_portFile.loadFile_eq, loadOver_eq, layers_portFile]
    rfl
  constructor
  · refine agree _ _ fun members lookup h => ?_
    obtain ⟨rfl, rfl⟩ := saysHow_portFile.unique h
    refine ⟨_, _, layers_portFile, layers_noFiles (by rfl) variableData_none, ?_⟩
    intro group name known unsettled
    cases group with
    | server =>
      have other : name ≠ "port" := by
        rintro rfl
        exact unsettled (.inl ⟨_, rfl, fun _ same => Json.obj.inj same ▸ rfl⟩)
      have absent : [(Text.plain "port", Json.str "8080")].lookup name = none := by
        rw [lookup_cons, if_neg other.symm]
        rfl
      exact congrArg some absent
    | conversion => rfl
    | logging => rfl
  · have unsettled : ¬FileSettles (portData (.int 9000)) [] .server "host" := by
      rintro (⟨_, found, whole⟩ | ⟨_, ⟨⟩, _⟩)
      cases found
      cases whole _ rfl
    exact ⟨_, loaded, left _ _ _ _ _ _ saysHow_portFile layers_portFile loaded
      (by rfl : Settings.ofMembers _ = .ok ⟨⟨"127.0.0.1", 8080, "/", 1024 * 1024, 201⟩, .default,
        .default⟩) .server "host" (by decide) unsettled⟩

def emptyFile : List UInt8 := Utf8.encode "\x7b\x7d"

theorem saysHow_emptyFile : SaysHow emptyFile [] (lookupBeside []) where
  read := ⟨"\x7b\x7d", by cbv, by cbv⟩
  unreserved := by rfl
  unready := by rfl
  looked := by cbv

/-- A variable gives the port that a file leaves out. -/
theorem empty_file_takes_variable : Settings.loadFile (withVariables portVariable) emptyFile ≠
    Settings.loadFile (withVariables []) emptyFile := by
  rw [saysHow_emptyFile.loadFile_eq, saysHow_emptyFile.loadFile_eq, loadOver_eq, loadOver_eq,
    layers_noFiles (by rfl) variableData_port, layers_noFiles (by rfl) variableData_none]
  intro same
  have ports := congrArg (fun loaded => loaded.toOption.map (·.server.port)) same
  revert ports
  decide +kernel

end RequestSchema

import RequestSchema.Proofs.SentSchema
import RequestSchema.Settings.Loading

set_option autoImplicit false

/-!
# What sources of settings give

Whatever the settings are put together from, the members that they are taken out of have different
names, and their numbers are short: no step on the way from a text to the settings breaks that.
-/

namespace RequestSchema

theorem map_eq_ok {ε α β : Type} {f : α → β} {x : Except ε α} {b : β}
    (h : x.map f = .ok b) : ∃ a, x = .ok a ∧ f a = b := by
  cases x with
  | error e => cases h
  | ok a => exact ⟨a, rfl, Except.ok.inj h⟩

/-! ## Members -/

namespace Json.Sound

theorem empty : (Json.obj []).Sound := ⟨⟨List.nodup_nil, trivial⟩, trivial⟩

theorem set {members : Members} (h : (obj members).Sound) (name : Text) {value : Json}
    (held : value.Sound) : (obj (setKey name value members)).Sound :=
  ⟨wellFormed_setKey h.wellFormed name held.wellFormed,
    membersShort_setKey h.short name held.short⟩

theorem found {members : Members} (h : (obj members).Sound) {name : Text} {value : Json}
    (present : members.lookup name = some value) : value.Sound :=
  h.member (name, value) ((lookup_eq_some_iff h.wellFormed.1 name value).1 present)

theorem ofMembers {members : Members} (distinct : (keys members).Nodup)
    (all : ∀ member ∈ members, member.2.Sound) : (obj members).Sound where
  wellFormed := ⟨distinct, (membersWellFormed_iff members).2 fun name value mem =>
    (all (name, value) mem).wellFormed⟩
  short := (membersShort_iff members).2 fun member mem => (all member mem).short

theorem tail {member : Text × Json} {rest : Members} (h : (obj (member :: rest)).Sound) :
    (obj rest).Sound :=
  ofMembers (List.nodup_cons.1 h.wellFormed.1).2 fun other mem =>
    h.member other (List.mem_cons_of_mem _ mem)

end Json.Sound

theorem foldl_sound {α : Type} {step : Members → α → Members} {given : List α} {members : Members}
    (h : (Json.obj members).Sound)
    (kept : ∀ members, (Json.obj members).Sound → ∀ a ∈ given, (Json.obj (step members a)).Sound) :
    (Json.obj (given.foldl step members)).Sound := by
  induction given generalizing members with
  | nil => exact h
  | cons a rest ih =>
    have next := kept members h a List.mem_cons_self
    exact ih next fun members h b mem => kept members h b (List.mem_cons_of_mem a mem)

theorem foldlM_keeps {ε α β : Type} {step : β → α → Except ε β} {given : List α} {p : β → Prop}
    {start made : β} (h : p start)
    (kept : ∀ before after, p before → ∀ a ∈ given, step before a = .ok after → p after)
    (done : given.foldlM step start = .ok made) : p made := by
  induction given generalizing start with
  | nil =>
    cases done
    exact h
  | cons a rest ih =>
    rw [List.foldlM_cons] at done
    obtain ⟨next, first, done⟩ := bind_eq_ok done
    have good := kept start next h a List.mem_cons_self first
    refine ih good (fun before after h b mem => ?_) done
    exact kept before after h b (List.mem_cons_of_mem a mem)

/-! ## Members laid over others -/

mutual

theorem overlay_sound : ∀ (update base : Members), (Json.obj update).Sound →
    (Json.obj base).Sound → (Json.obj (overlay base update)).Sound
  | [], base, _, hbase => by rwa [overlay]
  | (name, value) :: rest, base, hupdate, hbase => by
    have first : value.Sound := hupdate.member (name, value) List.mem_cons_self
    have laid : (overlayValue (base.lookup name) value).Sound :=
      overlayValue_sound value (base.lookup name) first fun old found => hbase.found found
    rw [overlay]
    exact overlay_sound rest _ hupdate.tail (hbase.set name laid)

theorem overlayValue_sound : ∀ (value : Json) (old : Option Json), value.Sound →
    (∀ given, old = some given → given.Sound) → (overlayValue old value).Sound
  | .obj update, old, hvalue, hold => by
    rw [overlayValue.eq_def]
    dsimp only
    split
    · exact overlay_sound update _ hvalue (hold _ rfl)
    · exact hvalue
  | .null, _, hvalue, _ | .bool _, _, hvalue, _ | .int _, _, hvalue, _ | .float _, _, hvalue, _
  | .str _, _, hvalue, _ | .arr _, _, hvalue, _ => by
    rw [overlayValue]
    · exact hvalue
    · nofun

end

/-! ## Variables -/

theorem Held.toJson_sound (held : Held) : held.toJson.Sound := by
  cases held <;> exact ⟨trivial, trivial⟩

theorem setHeld_sound (held : Held) (key : Text) {members : Members}
    (h : (Json.obj members).Sound) : (Json.obj (setHeld held key members)).Sound := by
  unfold setHeld
  split
  · exact h.set key ⟨trivial, trivial⟩
  · exact h
  · exact h.set key (Held.toJson_sound _)

theorem setNested_sound (held : Held) : ∀ (names : List Text) {members : Members},
    (Json.obj members).Sound → (Json.obj (setNested held names members)).Sound
  | [], members, h => by rwa [setNested]
  | [key], members, h => by
    rw [setNested]
    exact setHeld_sound held key h
  | key :: next :: more, members, h => by
    rw [setNested]
    · split
      · rename_i inner found
        exact h.set key (setNested_sound held (next :: more) (h.found found))
      · exact h
      · exact h.set key (setNested_sound held (next :: more) Json.Sound.empty)
    · nofun

theorem nestedMembers_sound {options : LookupOptions} {group : SettingsGroup} {given : Variables}
    {members : Members} (made : nestedMembers options group given = .ok members) :
    (Json.obj members).Sound := by
  refine foldlM_keeps (p := fun members => (Json.obj members).Sound) Json.Sound.empty ?_ made
  rintro members made h ⟨name, held⟩ _ step
  obtain ⟨names?, _, rfl⟩ := map_eq_ok step
  cases names? with
  | none => exact h
  | some names => exact setNested_sound held names h

theorem renamed_sound (group : SettingsGroup) {members : Members} (h : (Json.obj members).Sound) :
    (Json.obj (group.renamed members)).Sound :=
  foldl_sound Json.Sound.empty fun _ made member mem => made.set _ (h.member member mem)

theorem groupJson_sound (options : LookupOptions) (group : SettingsGroup) {members : Members}
    (h : (Json.obj members).Sound) : (options.groupJson group members).Sound := by
  unfold LookupOptions.groupJson
  split
  · exact h
  · exact renamed_sound group h

theorem parse_sound {text : Text} {value : Json} (h : Json.parse text = .ok value) :
    value.Sound := sound_of_ofChars (Json.ofChars_of_parse h)

/-- A source of groups that gives only sound values. -/
def SoundSource {ε : Type} (source : SettingsGroup → Except ε (Option Json)) : Prop :=
  ∀ group value, source group = .ok (some value) → value.Sound

theorem groupFromText_sound {options : LookupOptions} {group : SettingsGroup} {text : Text}
    {nested : Except LookupProblem Members}
    (hnested : ∀ members, nested = .ok members → (Json.obj members).Sound) {value : Json}
    (h : groupFromText options group text nested = .ok (some value)) : value.Sound := by
  unfold groupFromText at h
  split at h
  · cases h
  · cases h
  · rename_i members read
    split at h
    · cases h
    · rename_i laid
      cases h
      exact groupJson_sound options group (overlay_sound laid members (hnested laid rfl)
        (parse_sound read))
  · rename_i read
    cases h
    exact parse_sound read

theorem groupFromVariables_sound (options : LookupOptions) (given : Variables) :
    SoundSource (groupFromVariables options given) := by
  intro group value h
  unfold groupFromVariables at h
  dsimp only at h
  split at h
  · exact groupFromText_sound (fun members made => nestedMembers_sound made) h
  · cases h
    exact ⟨trivial, trivial⟩
  · split at h
    · cases h
    · rename_i nested made
      split at h
      · cases h
      · cases h
        exact groupJson_sound options group (nestedMembers_sound made)

/-! ## Groups -/

/-- What a source gives of a first group and of those behind it. -/
theorem groupsFrom_cons {ε : Type} {source : SettingsGroup → Except ε (Option Json)}
    {group : SettingsGroup} {rest : List SettingsGroup} {data : Members}
    (made : groupsFrom source (group :: rest) = .ok data) :
    ∃ value others, source group = .ok value ∧ groupsFrom source rest = .ok others ∧
      data = (value.toList.map fun value => (group.key, value)) ++ others := by
  rw [groupsFrom] at made
  cases first : source group with
  | error problem =>
    rw [first] at made
    cases made
  | ok value =>
    rw [first] at made
    obtain ⟨others, later, rfl⟩ := map_eq_ok made
    exact ⟨value, others, rfl, later, rfl⟩

theorem keys_groupsFrom {ε : Type} {source : SettingsGroup → Except ε (Option Json)}
    {groups : List SettingsGroup} {data : Members} (made : groupsFrom source groups = .ok data) :
    (keys data).Sublist (groups.map SettingsGroup.key) := by
  induction groups generalizing data with
  | nil =>
    cases made
    exact .slnil
  | cons group rest ih =>
    obtain ⟨value, others, _, later, rfl⟩ := groupsFrom_cons made
    have smaller := ih later
    cases value with
    | none => exact smaller.cons _
    | some value => exact smaller.cons_cons group.key

theorem nodup_groupKeys : (SettingsGroup.all.map SettingsGroup.key).Nodup := by decide

theorem mem_groupsFrom {ε : Type} {source : SettingsGroup → Except ε (Option Json)}
    (sound : SoundSource source) {groups : List SettingsGroup} {data : Members}
    (made : groupsFrom source groups = .ok data) : ∀ member ∈ data, member.2.Sound := by
  induction groups generalizing data with
  | nil =>
    cases made
    nofun
  | cons group rest ih =>
    obtain ⟨value, others, first, later, rfl⟩ := groupsFrom_cons made
    cases value with
    | none => exact ih later
    | some value => exact List.forall_mem_cons.2 ⟨sound group value first, ih later⟩

theorem groupsFrom_sound {ε : Type} {source : SettingsGroup → Except ε (Option Json)}
    (sound : SoundSource source) {data : Members}
    (made : groupsFrom source SettingsGroup.all = .ok data) : (Json.obj data).Sound :=
  Json.Sound.ofMembers (nodup_groupKeys.sublist (keys_groupsFrom made)) (mem_groupsFrom sound made)

theorem variableData_sound {options : LookupOptions} {source : VariableSource} {given : Variables}
    {data : Members} (made : variableData options source given = .ok data) :
    (Json.obj data).Sound := by
  unfold variableData at made
  split at made
  · cases made
  · exact groupsFrom_sound (groupFromVariables_sound options given) (mapError_ok made)

theorem addOthers_sound (options : LookupOptions) (given : Variables) {data : Members}
    (h : (Json.obj data).Sound) : (Json.obj (options.addOthers given data)).Sound := by
  refine foldl_sound h ?_
  rintro data h ⟨name, held⟩ _
  dsimp only
  split
  · exact h
  · exact h
  · exact h.set _ (Held.toJson_sound _)
  · exact h

theorem groupFromFolders_sound (files : Files) (options : LookupOptions) (folders : List Spot) :
    SoundSource (groupFromFolders files options folders) := by
  intro group value h
  unfold groupFromFolders at h
  split at h
  · cases h
  · split at h
    · cases h
    · refine groupFromText_sound ?_ (mapError_ok h)
      rintro _ ⟨⟩
      exact Json.Sound.empty

theorem keys_filterMap {α β : Type} {f : α → Option (Text × β)} {name : α → Text}
    (named : ∀ a pair, f a = some pair → pair.1 = name a) (given : List α) :
    (keys (given.filterMap f)).Sublist (given.map name) := by
  induction given with
  | nil => exact .slnil
  | cons a rest ih =>
    rw [List.filterMap_cons]
    cases made : f a with
    | none => exact ih.cons _
    | some pair =>
      rw [List.map_cons, ← named a pair made]
      exact ih.cons_cons _

theorem dataFromMembers_sound {members : Members} (h : (Json.obj members).Sound) :
    (Json.obj (dataFromMembers members)).Sound := by
  have taken : ∀ (group : SettingsGroup) (pair : Text × Json),
      (members.find? fun (member : Text × Json) => lowered member.1 == group.key).map
        (fun (member : Text × Json) => (group.key, member.2)) = some pair →
      pair.1 = group.key ∧ pair.2.Sound := by
    intro group pair found
    obtain ⟨member, search, rfl⟩ := Option.map_eq_some_iff.1 found
    exact ⟨rfl, h.member member (List.mem_of_find?_eq_some search)⟩
  refine Json.Sound.ofMembers ?_ fun pair mem => ?_
  · have listed := keys_filterMap (fun group pair found => (taken group pair found).1)
      SettingsGroup.all
    exact nodup_groupKeys.sublist listed
  · obtain ⟨group, _, found⟩ := List.mem_filterMap.1 mem
    exact (taken group pair found).2

end RequestSchema

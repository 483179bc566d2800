import RequestSchema.Proofs.LayeredSettings
import RequestSchema.Proofs.ProgramRuns

set_option autoImplicit false

/-!
# Settings that runs load

Whatever a run loads its settings from, they come of checked members. The server's numbers are in
their bounds from then on.
-/

namespace RequestSchema

theorem layers_settings {layers : Layers} {data : Members} {settings : Settings}
    (sound : (Json.obj layers.below).Sound ∧ (Json.obj layers.above).Sound)
    (given : (Json.obj data).Sound) (made : layers.settings data = .ok settings) :
    ∃ members, (Json.obj members).Sound ∧ Settings.ofMembers members = .ok settings := by
  have whole := overlay_sound _ _ sound.2 (overlay_sound _ _ given sound.1)
  exact ⟨_, whole, mapError_ok made⟩

theorem loadOver_ofMembers {s : Surroundings} {lookup : Lookup} {data : Members}
    {settings : Settings} (given : (Json.obj data).Sound)
    (loaded : Settings.loadOver s lookup data = .ok settings) :
    ∃ members, (Json.obj members).Sound ∧ Settings.ofMembers members = .ok settings := by
  rw [loadOver_eq] at loaded
  obtain ⟨layers, made, loaded⟩ := bind_eq_ok loaded
  exact layers_settings (layers_sound made) given loaded

theorem loadFile_ofMembers {s : Surroundings} {content : List UInt8} {settings : Settings}
    (loaded : Settings.loadFile s content = .ok settings) :
    ∃ members, (Json.obj members).Sound ∧ Settings.ofMembers members = .ok settings := by
  unfold Settings.loadFile at loaded
  split at loaded
  · cases loaded
  · split at loaded
    · cases loaded
    · rename_i members parsed
      have loaded := mapError_ok loaded
      unfold Settings.loadMembers at loaded
      dsimp only at loaded
      split at loaded
      · cases loaded
      split at loaded
      · obtain rfl : Settings.default = settings := by
          rename_i value _
          cases ready : readySources value with
          | error problem =>
            rw [ready] at loaded
            cases loaded
          | ok =>
            rw [ready] at loaded
            exact Except.ok.inj loaded
        exact ⟨[], Json.Sound.empty, rfl⟩
      · obtain ⟨lookup, _, loaded⟩ := bind_eq_ok loaded
        exact loadOver_ofMembers (dataFromMembers_sound (parse_sound parsed)) loaded
    · cases loaded

theorem load_ofMembers {run : Invocation} {options : ProgramOptions} {settings : Settings}
    (loaded : options.load run = .ok settings) :
    ∃ members, (Json.obj members).Sound ∧ Settings.ofMembers members = .ok settings := by
  unfold ProgramOptions.load at loaded
  split at loaded
  · exact loadFile_ofMembers loaded
  · exact loadOver_ofMembers Json.Sound.empty loaded

/-! ## Numbers in their bounds -/

theorem boundedField_ok {least : Int} {greatest : Option Int} {value : Json} {n : Int}
    (made : boundedField least greatest value = .ok n) :
    least ≤ n ∧ ∀ top ∈ greatest, n ≤ top := by
  unfold boundedField at made
  split at made
  · rename_i m _
    split at made
    · cases made
    · split at made
      · cases made
      · rename_i low high
        cases made
        refine ⟨Int.not_lt.1 low, fun top same => ?_⟩
        cases same
        simpa using high
  · cases made

theorem fieldOr_ok {α : Type} {given : Members} {name : Text} {default value : α}
    {check : Json → Field α} (made : fieldOr given name default check = .ok value) :
    value = default ∨ ∃ found, given.lookup name = some found ∧ check found = .ok value := by
  unfold fieldOr at made
  cases found : given.lookup name with
  | none =>
    rw [found] at made
    exact .inl (Except.ok.inj made).symm
  | some value =>
    rw [found] at made
    exact .inr ⟨value, rfl, made⟩

theorem boundedOr_ok {given : Members} {name : Text} {default value least : Int}
    {greatest : Option Int} (inside : least ≤ default ∧ ∀ top ∈ greatest, default ≤ top)
    (made : fieldOr given name default (boundedField least greatest) = .ok value) :
    least ≤ value ∧ ∀ top ∈ greatest, value ≤ top := by
  obtain rfl | ⟨_, _, checked⟩ := fieldOr_ok made
  · exact inside
  · exact boundedField_ok checked

/-- The bounds of the server's numbers. -/
structure ServerSettings.InBounds (server : ServerSettings) : Prop where
  port : 1 ≤ server.port ∧ server.port ≤ 65535
  body : 1 ≤ server.maxBodyBytes
  status : 200 ≤ server.successStatus ∧ server.successStatus ≤ 299

theorem server_inBounds {given : Members} {server : ServerSettings}
    (made : ServerSettings.ofMembers given = .ok server) : server.InBounds := by
  obtain ⟨_, port, _, body, status⟩ := server_fields made
  have port := boundedOr_ok (by decide) port
  have body := boundedOr_ok (by decide) body
  have status := boundedOr_ok (by decide) status
  exact ⟨⟨port.1, port.2 _ rfl⟩, body.1, status.1, status.2 _ rfl⟩

theorem settings_inBounds {members : Members} {settings : Settings}
    (made : Settings.ofMembers members = .ok settings) : settings.server.InBounds := by
  obtain ⟨_, _, server⟩ := groupOf_ok (ofMembers_groups made).1
  exact server_inBounds server

theorem opens_inBounds {run : Invocation} {options : ProgramOptions} {session : Session}
    (opened : options.Opens run session) : session.settings.server.InBounds := by
  obtain ⟨settings, loaded, same⟩ := opened.loaded
  obtain ⟨members, _, made⟩ := load_ofMembers loaded
  have inside : settings.server.InBounds := settings_inBounds made
  rw [same]
  exact inside

/-! ## Runs without surroundings -/

/-- A run with nothing but its arguments and its input. -/
def bareRun (arguments : List Text) (input : List UInt8) : Invocation :=
  ⟨arguments, input, [], [], [], "TIME", usualComplaint, usualRoom⟩

/-- The session of a run without options in front of its command. -/
def bareSession (arguments : List Text) (input : List UInt8) : Session :=
  ⟨bareRun arguments input, .default, ⟨.json, 20, none⟩, []⟩

theorem bareSession_opened (arguments : List Text) (input : List UInt8) :
    ProgramOptions.Opens ⟨none, none, none⟩ (bareRun arguments input)
      (bareSession arguments input) where
  same := rfl
  loaded := by
    refine ⟨.default, ?_, rfl⟩
    have layers : (withVariables []).layers (lookupBeside []) = .ok ⟨[], []⟩ :=
      layers_noFiles (by rfl) variableData_none
    have loaded := loadOver_eq (withVariables []) (lookupBeside []) []
    rw [layers] at loaded
    exact loaded
  opened := by
    have rank : levelRank LoggingSettings.default.level = .ok 20 := by rfl
    have format : formatOf LoggingSettings.default.format = .json := by rfl
    have opened : openLog LoggingSettings.default [] = (.ok ⟨.json, 20, none⟩, []) := by
      rw [openLog, rank, format]
      rfl
    exact opened

end RequestSchema

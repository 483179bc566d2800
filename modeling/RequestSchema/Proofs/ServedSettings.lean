import RequestSchema.Proofs.LoadedSettings

set_option autoImplicit false

/-!
# Settings that are served

The settings that a run hands to a server are those it loaded, but for the address that its options
give. A port that is given as an option is handed over whatever it is.
-/

namespace RequestSchema

/-- A run that hands settings to a server, with the port that its options give. -/
structure Invocation.Hands (run : Invocation) (session : Session) (port : Option Int)
    (server : ServerSettings) : Prop where
  reached : ∃ arguments, run.Reaches session .serve arguments ∧
    portOf arguments.given = .ok port ∧ arguments.others = [] ∧
    server = withAddress session.settings.server (valueOf .host arguments.given) port

theorem Invocation.Hands.outcome_eq {run : Invocation} {session : Session} {port : Option Int}
    {server : ServerSettings} (handed : run.Hands session port server) :
    run.outcome = startServer session server := by
  obtain ⟨arguments, there, taken, alone, rfl⟩ := handed.reached
  rw [outcome_of_reaches there]
  change runServe session arguments = _
  rw [runServe, taken, alone]
  rfl

theorem startServer_service {session : Session} {server : ServerSettings} {service : Service}
    (started : (startServer session server).service = some service) :
    service.host = server.host ∧ service.port = server.port := by
  unfold startServer at started
  dsimp only at started
  split at started
  · cases started
    exact ⟨rfl, rfl⟩
  · cases started

theorem printOnly_service (session : Session) (command : Command) (arguments : Arguments)
    (text : Text) : (printOnly session command arguments text).service = none := by
  unfold printOnly
  split
  · exact (misuse_refuses _ _ session.files).service
  · rfl

theorem deliver_service (directory : List Text) (text stderr : Text) (output : Option Spot)
    (files : Files) : (deliver directory text stderr output files).service = none := by
  unfold deliver
  split
  · rfl
  · dsimp only
    split <;> rfl

theorem runConvert_service (session : Session) (arguments : Arguments) :
    (runConvert session arguments).service = none := by
  unfold runConvert
  split
  · exact (misuse_refuses _ _ session.files).service
  · split
    · rfl
    · unfold convertDescription
      dsimp only
      split
      · split <;> rfl
      · split
        · exact deliver_service _ _ _ _ _
        · rfl

/-- A server is only started with settings that are handed to it. -/
theorem service_handed {run : Invocation} {service : Service}
    (started : run.outcome.service = some service) :
    ∃ session port server, run.Hands session port server ∧
      service.host = server.host ∧ service.port = server.port := by
  have ends := run_ends run
  generalize shown : run.outcome = outcome at ends started
  cases ends with
  | refused bad => cases bad.service.symm.trans started
  | helped => cases started
  | quit => cases (quit_service _ run.files).symm.trans started
  | unlogged => cases started
  | misused called opened bad => cases bad.service.symm.trans started
  | reached there =>
    rename_i session command arguments
    cases command with
    | convert => cases (runConvert_service session arguments).symm.trans started
    | version => cases (printOnly_service session _ arguments _).symm.trans started
    | configShow => cases (printOnly_service session _ arguments _).symm.trans started
    | serve =>
      change (runServe session arguments).service = _ at started
      unfold runServe at started
      split at started
      · cases (misuse_refuses _ _ session.files).service.symm.trans started
      · rename_i port taken
        split at started
        · cases (misuse_refuses _ _ session.files).service.symm.trans started
        · rename_i alone
          have others : arguments.others = [] := by
            unfold noExtra at alone
            split at alone
            · exact List.isEmpty_iff.1 ‹_›
            · cases alone
          exact ⟨session, port, _, ⟨arguments, there, taken, others, rfl⟩,
            startServer_service started⟩

theorem Invocation.Hands.inBounds {run : Invocation} {session : Session} {port : Option Int}
    {server : ServerSettings} (handed : run.Hands session port server) :
    session.settings.server.InBounds := by
  obtain ⟨_, there, _⟩ := handed.reached
  obtain ⟨options, texts, _, opened, _⟩ := there.called
  exact opens_inBounds opened

/-- The port that is handed over: the one of an option, unless that is none or zero. -/
theorem Invocation.Hands.port_eq {run : Invocation} {session : Session} {port : Option Int}
    {server : ServerSettings} (handed : run.Hands session port server) :
    server.port = (port.filter (· != 0)).getD session.settings.server.port := by
  obtain ⟨_, _, _, _, rfl⟩ := handed.reached
  rfl

theorem Invocation.Hands.others_inBounds {run : Invocation} {session : Session} {port : Option Int}
    {server : ServerSettings} (handed : run.Hands session port server) :
    1 ≤ server.maxBodyBytes ∧ 200 ≤ server.successStatus ∧ server.successStatus ≤ 299 := by
  have inside := handed.inBounds
  obtain ⟨_, _, _, _, rfl⟩ := handed.reached
  exact ⟨inside.body, inside.status⟩

/-- Settings that are handed to a server are in their bounds, unless an option gives a port that is
    not. That one is handed over as it is, and zero counts as no port. -/
theorem served_in_bounds_unless_overridden (run : Invocation) :
    (∀ session port server, run.Hands session port server →
      run.outcome = startServer session server ∧
      1 ≤ server.maxBodyBytes ∧ 200 ≤ server.successStatus ∧ server.successStatus ≤ 299 ∧
      (∀ n ∈ port, n ≠ 0 → server.port = n) ∧
      (1 ≤ server.port ∧ server.port ≤ 65535 ↔ ∀ n ∈ port, n ≠ 0 → 1 ≤ n ∧ n ≤ 65535)) ∧
    ∀ service, run.outcome.service = some service →
      ∃ session port server, run.Hands session port server ∧
        service.host = server.host ∧ service.port = server.port := by
  refine ⟨fun session port server handed => ?_, fun service started => service_handed started⟩
  obtain ⟨body, low, high⟩ := handed.others_inBounds
  have kept := handed.inBounds.port
  have port_eq := handed.port_eq
  have given : ∀ n ∈ port, n ≠ 0 → server.port = n := by
    rintro n rfl nonzero
    rw [port_eq, Option.filter_some, if_pos (by simpa using nonzero), Option.getD_some]
  refine ⟨handed.outcome_eq, body, low, high, given, ?_⟩
  constructor
  · intro inside n mem nonzero
    rwa [given n mem nonzero] at inside
  · intro inside
    cases chosen : port.filter (· != 0) with
    | none =>
      rw [chosen] at port_eq
      rwa [port_eq]
    | some n =>
      obtain ⟨mem, nonzero⟩ := Option.filter_eq_some_iff.1 chosen
      have nonzero : n ≠ 0 := by simpa using nonzero
      rw [given n mem nonzero]
      exact inside n mem nonzero

/-! ## Ports of options -/

/-- Arguments that serve at a port. -/
def servingAt (port : Text) : List Text := ["serve", "--port", port]

theorem hands_servingAt {text : Text} {port : Int}
    (taken : portOf [⟨.port, text⟩] = .ok (some port)) :
    (bareRun (servingAt text) []).Hands (bareSession (servingAt text) []) (some port)
      (withAddress .default none (some port)) where
  reached := by
    have called : (bareRun (servingAt text) []).Calls ⟨none, none, none⟩ .serve ["--port", text] :=
      ⟨[], "serve", by rfl, by rfl, by rfl, by rfl⟩
    exact ⟨⟨[⟨.port, text⟩], []⟩, ⟨⟨_, _, called, bareSession_opened _ _, by rfl⟩, by rfl⟩, taken,
      rfl, rfl⟩

/-- The highest port is in the bounds. -/
theorem high_port_in_bounds : ∃ server,
    (bareRun (servingAt "65535") []).Hands (bareSession (servingAt "65535") []) (some 65535)
      server ∧ 1 ≤ server.port ∧ server.port ≤ 65535 := by
  have handed : (bareRun (servingAt "65535") []).Hands (bareSession (servingAt "65535") [])
      (some 65535) _ := hands_servingAt (by rfl)
  obtain ⟨_, _, _, _, _, inside⟩ :=
    (served_in_bounds_unless_overridden (bareRun (servingAt "65535") [])).1 _ _ _ handed
  refine ⟨_, handed, inside.2 ?_⟩
  rintro n ⟨⟩ _
  decide

/-- A port that is out of its bounds is handed over. -/
theorem port_beyond_bounds_served : ∃ server,
    (bareRun (servingAt "99999") []).Hands (bareSession (servingAt "99999") []) (some 99999)
      server ∧ ¬(1 ≤ server.port ∧ server.port ≤ 65535) := by
  refine ⟨_, hands_servingAt (by rfl), ?_⟩
  decide

end RequestSchema

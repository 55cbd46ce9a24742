import Mathlib.Logic.Relation
import Wc3ts.Tui.View

/-!
`cmd/wc3ts/run.go`: the daemon and the terminal UI in one process. `runExec` starts the probe
engine with the configuration's version and the UI's model with the same one. The UI reaches
the daemon only through the two callbacks `Update` calls: the version callback `SetVersion`s
the probe engine to the version `cycleVersion` chose, then logs; the refresh callback probes,
then logs. Any other goroutine may Send the UI any message; the daemon's own goroutines take
network maps, datagrams and ticks. The daemon's Sends to the UI are not tied to its steps
here, which only adds runs.

In every state reached from `runExec`'s start, under any handler, the model's version is the
probe engine's whenever the event loop waits on its channel, which is when `View` draws it;
inside `Update` it is too, but for the version callback about to run. So every SearchGame the
probe engine sends then, on a tick, at a network map or for the refresh key, queries the
version the UI shows (`Console.reachable_version`).
-/

namespace Wc3ts

/-! ### The process -/

/-- `safeUint16`: the TCP proxy's port as `NewBroadcaster` takes it, clamped to `0..65535`. -/
def safeUint16 (n : Int) : UInt16 :=
  if n < 0 then 0 else if n > 65535 then 65535 else n.toNat.toUInt16

/-- The daemon and the UI's event loop. -/
structure Console where
  daemon : Daemon
  loop : Loop

/-- `runExec` once the program runs: `initServices`, with the broadcaster on the TCP proxy's
port, and the event loop waiting with the model `NewModel` built from the same configuration. -/
def Console.initial (cfg : Config) (proxyPort : Int) : Console :=
  ⟨Daemon.initial cfg (safeUint16 proxyPort), .waiting (newModel 0 cfg.gameVersion)⟩

/-- The daemon event a callback's call is; a log record is none. -/
def Effect.event : Effect → Option Event
  | .setVersion version => some (.versionChanged version.version)
  | .refresh => some .refresh
  | .log _ _ _ => none

/-- The daemon events only the UI's callbacks cause. -/
def Event.isCallback : Event → Bool
  | .versionChanged _ | .refresh => true
  | _ => false

/-- One step of the process. -/
inductive Console.Step (cfg : Config) (h : Handler) : Console → Console → Prop
  /-- A goroutine of the daemon: a network map, a datagram, a tick, time passing. -/
  | daemon {c : Console} (orders : Orders) {event : Event} {next : Daemon}
      {sent : List Datagram} : event.isCallback = false →
      c.daemon.step cfg orders event = some (next, sent) →
      Console.Step cfg h c { c with daemon := next }
  /-- Another goroutine's Send returns: the waiting loop takes the message. -/
  | receive {c : Console} (msg : Msg) {loop : Loop} :
      c.loop.receive (runExecCallbacks cfg) msg = some loop → Console.Step cfg h c { c with loop }
  /-- Inside `Update`, a callback calls into the daemon. -/
  | call {c : Console} {model : Model} {effect : Effect} {rest : List Effect} (orders : Orders)
      {event : Event} {next : Daemon} {sent : List Datagram} :
      c.loop = .updating model (effect :: rest) → effect.event = some event →
      c.daemon.step cfg orders event = some (next, sent) →
      Console.Step cfg h c ⟨next, .updating model rest⟩
  /-- Inside `Update`, a record the handler drops. -/
  | drop {c : Console} {model : Model} {level : Level} {message : String}
      {attrs : List (String × String)} {rest : List Effect} :
      c.loop = .updating model (.log level message attrs :: rest) → h.sends level = false →
      Console.Step cfg h c { c with loop := .updating model rest }
  /-- `Update` returns. -/
  | done {c : Console} {model : Model} : c.loop = .updating model [] →
      Console.Step cfg h c { c with loop := .waiting model }

/-! ### What changes the version -/

theorem Manager.receive_version (m : Manager) (datagram : Bytes) (sender : Addr) (now : Time) :
    (m.receive datagram sender now).version = m.version := by
  dsimp only [Manager.receive]
  split <;> rfl

/-- Only the version callback's event changes the probe engine's version. -/
theorem Daemon.step_version (cfg : Config) (orders : Orders) (d : Daemon) {event : Event}
    {next : Daemon} {sent : List Datagram} (stepped : d.step cfg orders event = some (next, sent))
    (other : ∀ version, event ≠ .versionChanged version) :
    next.manager.version = d.manager.version := by
  cases event with
  | versionChanged version => exact absurd rfl (other version)
  | ingest datagram sender =>
    cases stepped
    rw [Daemon.ingest_manager, Manager.receive_version]
  | probeTick | broadcastTick | uiStore | advance =>
    simp only [Daemon.step] at stepped
    split at stepped <;> cases stepped
    rfl
  | netMap | refresh =>
    cases stepped
    rfl

theorem Model.toggleFocus_version (m : Model) : m.toggleFocus.version = m.version := by
  unfold Model.toggleFocus
  split <;> rfl

theorem Model.navigate_version (m : Model) (delta : Int) : (m.navigate delta).version = m.version := by
  unfold Model.navigate
  split <;> rfl

theorem Model.showDetailView_version (m : Model) : m.showDetailView.version = m.version := by
  unfold Model.showDetailView
  repeat' split
  all_goals rfl

theorem Model.resize_version (m : Model) (width height : Int) :
    (m.resize width height).version = m.version := by
  dsimp only [Model.resize]
  split <;> rfl

/-- What an `Update` with `runExec`'s callbacks leaves of the version: the configuration's
product; every version callback it calls carries the new model's version; and the version is
unchanged unless the first callback sets the new one. -/
def Updated.VersionCalled (cfg : Config) (before : Model) (u : Updated) : Prop :=
  u.model.version.product = cfg.gameVersion.product ∧
    (∀ version, .setVersion version ∈ u.effects → version = u.model.version) ∧
    (u.model.version = before.version ∨ u.effects.head? = some (.setVersion u.model.version))

theorem Model.update_versionCalled (cfg : Config) (m : Model) (msg : Msg)
    (product : m.version.product = cfg.gameVersion.product) :
    (m.update (runExecCallbacks cfg) msg).VersionCalled cfg m := by
  have quiet : ∀ u : Updated, u.model.version = m.version →
      (∀ version, .setVersion version ∉ u.effects) → u.VersionCalled cfg m :=
    fun u same none => ⟨same ▸ product, fun version member => absurd member (none version),
      .inl same⟩
  cases msg with
  | key key =>
    show (m.handleKey (runExecCallbacks cfg) key).VersionCalled cfg m
    have step := m.keyStep_handleKey (runExecCallbacks cfg) key
    generalize m.handleKey (runExecCallbacks cfg) key = u at step ⊢
    cases step with
    | toggle => exact quiet _ m.toggleFocus_version nofun
    | navigate delta => exact quiet _ (m.navigate_version delta) nofun
    | version delta =>
      have carried : (m.cycleVersion (runExecCallbacks cfg) delta).model.version =
          ⟨cfg.gameVersion.product, supportedVersions.getD (cycleIndex m.version.version delta) 0⟩ := by
        show (⟨m.version.product, _⟩ : GameVersion) = _
        rw [product]
      refine ⟨product, fun version member => ?_, .inr ?_⟩
      · simp only [Model.cycleVersion, runExecCallbacks, List.mem_cons, Effect.setVersion.injEq,
          List.not_mem_nil, reduceCtorEq, or_false] at member
        rw [member, carried]
      · rw [carried]
        rfl
    | refresh => exact quiet _ rfl (by simp [runExecCallbacks])
    | detail => exact quiet _ m.showDetailView_version (by simp [runExecCallbacks])
    | _ => exact quiet _ rfl nofun
  | windowSize width height => exact quiet _ (m.resize_version width height) nofun
  | _ => exact quiet _ rfl nofun

/-! ### The version the UI shows -/

/-- The model's version is of the configuration's product and is the probe engine's, but for
the version callback `Update` is about to call, which sets it; every version callback still to
run carries the model's version. -/
def Console.Agrees (cfg : Config) (c : Console) : Prop :=
  match c.loop with
  | .waiting model =>
    model.version.product = cfg.gameVersion.product ∧ model.version = c.daemon.manager.version
  | .updating model effects =>
    model.version.product = cfg.gameVersion.product ∧
      (∀ version, .setVersion version ∈ effects → version = model.version) ∧
      (model.version = c.daemon.manager.version ∨
        effects.head? = some (.setVersion model.version))

theorem Console.initial_agrees (cfg : Config) (proxyPort : Int) :
    (Console.initial cfg proxyPort).Agrees cfg :=
  ⟨rfl, rfl⟩

section Agrees

variable {cfg : Config} {h : Handler}

/-- Every step keeps `Agrees`. -/
theorem Console.Agrees.step {c c' : Console} (agrees : c.Agrees cfg)
    (step : Console.Step cfg h c c') : c'.Agrees cfg := by
  obtain ⟨d, loop⟩ := c
  cases step with
  | daemon orders notCallback stepped =>
    have same := d.step_version cfg orders stepped fun version called => by
      rw [called] at notCallback
      cases notCallback
    cases loop <;> simpa only [Console.Agrees, same] using agrees
  | receive msg received =>
    cases loop with
    | updating => cases received
    | waiting m =>
      cases received
      obtain ⟨product, same⟩ := agrees
      obtain ⟨product', called, unchanged⟩ := m.update_versionCalled cfg msg product
      exact ⟨product', called, same ▸ unchanged⟩
  | call orders atHead event stepped =>
    cases atHead
    obtain ⟨product, called, current⟩ := agrees
    rename_i model effect rest _ next _
    refine ⟨product, fun version member => called version (List.mem_cons_of_mem _ member), ?_⟩
    cases effect with
    | setVersion version =>
      cases event
      cases stepped
      have carried := called version (List.mem_cons_self _ _)
      subst carried
      exact .inl (by rw [← product]; rfl)
    | refresh =>
      cases event
      cases stepped
      exact .inl (by simpa using current)
    | log => cases event
  | drop atHead dropped =>
    cases atHead
    obtain ⟨product, called, current⟩ := agrees
    exact ⟨product, fun version member => called version (List.mem_cons_of_mem _ member),
      .inl (by simpa using current)⟩
  | done atHead =>
    cases atHead
    obtain ⟨product, -, current⟩ := agrees
    exact ⟨product, by simpa using current⟩

/-- `Agrees` holds in every state the process reaches from `runExec`'s start. -/
theorem Console.reachable_agrees (proxyPort : Int) {c : Console}
    (reaches : Relation.ReflTransGen (Console.Step cfg h) (Console.initial cfg proxyPort) c) :
    c.Agrees cfg := by
  induction reaches with
  | refl => exact Console.initial_agrees cfg proxyPort
  | tail _ step agrees => exact agrees.step step

end Agrees

/-- In every state the process reaches from `runExec`'s start, whatever the handler, the
messages and the daemon's events: while the event loop waits, the version `View` shows is the
probe engine's, and every SearchGame a probe round sends from there queries it; while
`Update` runs the refresh callback, the round it sends queries the new model's version. -/
theorem Console.reachable_version (cfg : Config) (proxyPort : Int) (h : Handler) {c : Console}
    (reaches : Relation.ReflTransGen (Console.Step cfg h) (Console.initial cfg proxyPort) c) :
    (∀ model, c.loop = .waiting model → model.version = c.daemon.manager.version ∧
      ∀ probe ∈ c.daemon.manager.probeAllPeers,
        probe.payload = SearchGame.serialize ⟨model.version, 0⟩) ∧
    ∀ model rest, c.loop = .updating model (.refresh :: rest) →
      ∀ probe ∈ c.daemon.manager.probeAllPeers,
        probe.payload = SearchGame.serialize ⟨model.version, 0⟩ := by
  have agrees := Console.reachable_agrees proxyPort reaches
  unfold Console.Agrees at agrees
  refine ⟨fun model waiting => ?_, fun model rest updating => ?_⟩
  · rw [waiting] at agrees
    obtain ⟨-, same⟩ := agrees
    exact ⟨same, fun probe sent => same ▸ (mem_probeAllPeers _ _ sent).2.1⟩
  · rw [updating] at agrees
    obtain ⟨-, -, same | calling⟩ := agrees
    · exact fun probe sent => same ▸ (mem_probeAllPeers _ _ sent).2.1
    · cases calling

/-- The UI takes `[`, the version callback sets version 28 in the probe engine, a handler not
yet ready drops the record, and `Update` returns. -/
theorem Console.reachable_version_version_key :
    let cfg := Config.default
    let h : Handler := ⟨.debug, false⟩
    let start := Console.initial cfg 6113
    let pressed := (newModel 0 cfg.gameVersion).update (runExecCallbacks cfg) (.key ⟨.other, "["⟩)
    let c : Console := ⟨{ start.daemon with
      manager := start.daemon.manager.setVersion ⟨cfg.gameVersion.product, 28⟩ },
      .waiting pressed.model⟩
    Relation.ReflTransGen (Console.Step cfg h) start c ∧
      (∀ model, c.loop = .waiting model → model.version = c.daemon.manager.version ∧
        ∀ probe ∈ c.daemon.manager.probeAllPeers,
          probe.payload = SearchGame.serialize ⟨model.version, 0⟩) ∧
      ∀ model rest, c.loop = .updating model (.refresh :: rest) →
        ∀ probe ∈ c.daemon.manager.probeAllPeers,
          probe.payload = SearchGame.serialize ⟨model.version, 0⟩ := by
  intro cfg h start pressed c
  have reaches : Relation.ReflTransGen (Console.Step cfg h) start c :=
    .tail (.tail (.tail (.single (.receive (.key ⟨.other, "["⟩) rfl))
      (.call ⟨fun r => GoMap.Order.stored r.games, GoMap.Order.stored⟩ rfl rfl rfl))
      (.drop rfl rfl)) (.done rfl)
  exact ⟨reaches, Console.reachable_version cfg 6113 h reaches⟩

end Wc3ts

import Mathlib.Logic.Relation
import Wc3ts.Tui.EventLoop

/-!
`cmd/wc3ts/run.go` and `game/registry.go` as goroutines around two points of contention: the
registry's lock and the program's channel. `receiveLoop` decodes a GameInfo and calls
`handleGameInfo`, which logs "discovered game" at Debug and calls `Add`. `Add` takes the
registry's write lock, files the game, logs "adding new game to registry" at Debug when the
key is new, and calls `onChange`, which `runExec` made `app.onGamesChanged`: it Sends a
`GamesMsg` to the program, then hands the snapshot to the broadcaster. `Add` releases the lock
only when it returns. Each record is Sent by the handler, and each Send waits until the event
loop takes the message.

The state machine has the registry, the broadcaster's cache, the event loop and the probe
engine's receive goroutine, the only writer of the registry the daemon runs. Any other
goroutine may Send the program a message: a key press, a `PeersMsg`, a record. The registry's
readers (`FindByHostCounter` for the proxy, `LocalGames` for the responder) return only when
no writer holds the lock (`App.read`).

While the event loop keeps taking messages, every filing completes (`App.files`). Once it is
blocked (`Model.handleKey_blocks`), the receive goroutine blocks at its next Send. If that is
the "discovered game" record, the registry never changes again but stays readable
(`App.blocked_loop_registry_frozen`). If a version key lands between that record and `Add`,
the goroutine blocks inside `Add` holding the lock, and no reader of the registry returns
again (`App.version_key_holds_registry_lock`).
-/

namespace Wc3ts

/-! ### The Sends of one filing -/

/-- `game.Source` as `%v` prints it. -/
def Source.toString : Source → String
  | .sourceLocal => "local"
  | .sourceRemote => "remote"

/-- `slog.Debug` through the handler: the `LogMsg` it Sends, if it takes the record. -/
def Handler.debug (h : Handler) (message : String) (attrs : List (String × String)) :
    List Msg :=
  if h.sends .debug then [.log (Handler.format .debug message attrs)] else []

/-- The attributes of the "discovered game" record of `handleGameInfo`. Its arguments
`"slots", pkt.SlotsUsed, "/", pkt.SlotsTotal` make two attributes. -/
def discoveredAttrs (game : Game) : List (String × String) :=
  [("name", game.info.gameName), ("hostCounter", game.info.hostCounter.toNat.repr),
    ("source", game.source.toString), ("peer", game.peerName),
    ("peerIP", game.peerIP.toString), ("slots", game.info.slotsUsed.toNat.repr),
    ("/", game.info.slotsTotal.toNat.repr)]

/-- The attributes of the "adding new game to registry" record of `Add`. -/
def Registry.addingAttrs (r : Registry) (game : Game) : List (String × String) :=
  [("key", game.key), ("name", game.info.gameName),
    ("hostCounter", game.info.hostCounter.toNat.repr), ("peerIP", game.peerIP.toString),
    ("source", game.source.toString), ("totalGames", (r.games.entries.length + 1).repr)]

/-- The Sends `Add` makes while it holds the write lock: the record of a new key, then the
`GamesMsg` of `onGamesChanged`. -/
def Registry.addSends (h : Handler) (r : Registry) (game : Game) (snapshot : List Game) :
    List Msg :=
  (if (r.games.lookup game.key).isSome then []
    else h.debug "adding new game to registry" (r.addingAttrs game)) ++ [.games snapshot]

/-- Whether a message is a key press, the only kind whose `Update` has effects. -/
def Msg.isKey : Msg → Bool
  | .key _ => true
  | _ => false

theorem Handler.debug_not_key (h : Handler) (message : String)
    (attrs : List (String × String)) : ∀ msg ∈ h.debug message attrs, msg.isKey = false := by
  unfold Handler.debug
  split <;> simp [Msg.isKey]

theorem Handler.debug_ne_nil (h : Handler) {message : String}
    {attrs : List (String × String)} (sends : h.sends .debug = true) :
    h.debug message attrs ≠ [] := by
  simp [Handler.debug, sends]

theorem Registry.addSends_not_key (h : Handler) (r : Registry) (game : Game)
    (snapshot : List Game) : ∀ msg ∈ r.addSends h game snapshot, msg.isKey = false := by
  unfold Registry.addSends
  split <;> simp only [List.mem_append, List.mem_singleton]
  · rintro _ (member | rfl)
    · cases member
    · rfl
  · rintro msg (member | rfl)
    · exact h.debug_not_key _ _ msg member
    · rfl

/-- `Update` on a message other than a key press keeps the view. -/
theorem Model.update_viewMode (callbacks : Callbacks) (m : Model) (msg : Msg)
    (notKey : msg.isKey = false) : (m.update callbacks msg).model.viewMode = m.viewMode := by
  cases msg with
  | key => cases notKey
  | windowSize width height =>
    simp only [Model.update, Model.resize]
    split <;> rfl
  | _ => rfl

theorem Registry.addSends_ne_nil (h : Handler) (r : Registry) (game : Game)
    (snapshot : List Game) : r.addSends h game snapshot ≠ [] := by
  simp [Registry.addSends]

/-! ### The goroutines -/

/-- Where the probe engine's receive goroutine is. -/
inductive Stage where
  /-- In `receiveLoop`, reading the socket. -/
  | reading
  /-- In `handleGameInfo` before `Add`, with the game it files. -/
  | discovered (game : Game)
  /-- In `Add`, holding the write lock; `onGamesChanged` hands the snapshot to the
  broadcaster once its Send has returned. -/
  | adding (snapshot : List Game)

/-- The receive goroutine: where it is, and the Sends it has still to make there. -/
structure Filer where
  stage : Stage
  pending : List Msg

/-- The registry, the broadcaster's games, the event loop and the receive goroutine. -/
structure App where
  registry : Registry
  cache : List Game
  loop : Loop
  filer : Filer

/-- A writer holds the registry's lock: the receive goroutine is inside `Add`. -/
def App.locked (a : App) : Bool :=
  match a.filer.stage with
  | .adding _ => true
  | _ => false

/-- A reader's call, between its `RLock` and `RUnlock`: what it reads, once it has the lock;
`none` while a writer holds it. -/
def App.read {β : Type} (a : App) (reader : Registry → β) : Option β :=
  if a.locked then none else some (reader a.registry)

/-- One step of one goroutine. -/
inductive App.Step (h : Handler) (callbacks : Callbacks) : App → App → Prop
  /-- `receiveLoop` decodes a GameInfo; `handleGameInfo` has its record to log. -/
  | decode {a : App} (game : Game) : a.filer = ⟨.reading, []⟩ →
      App.Step h callbacks a
        { a with filer := ⟨.discovered game, h.debug "discovered game" (discoveredAttrs game)⟩ }
  /-- The receive goroutine's next Send returns: the waiting loop takes the message. -/
  | send {a : App} {msg : Msg} {rest : List Msg} {loop : Loop} :
      a.filer.pending = msg :: rest → a.loop.receive callbacks msg = some loop →
      App.Step h callbacks a { a with loop, filer := { a.filer with pending := rest } }
  /-- `Add` takes the write lock, files the game, and takes the snapshot for `onChange`. -/
  | add {a : App} {game : Game} (now : Time)
      (order : (a.registry.add game now).registry.games.Order) :
      a.filer = ⟨.discovered game, []⟩ →
      App.Step h callbacks a
        { a with
          registry := (a.registry.add game now).registry
          filer := ⟨.adding ((a.registry.add game now).registry.snapshot order),
            a.registry.addSends h game ((a.registry.add game now).registry.snapshot order)⟩ }
  /-- `onGamesChanged` hands the snapshot to the broadcaster; `Add` returns and unlocks. -/
  | unlock {a : App} {snapshot : List Game} : a.filer = ⟨.adding snapshot, []⟩ →
      App.Step h callbacks a { a with cache := snapshot, filer := ⟨.reading, []⟩ }
  /-- The event loop's own step. -/
  | loop {a : App} {loop : Loop} : a.loop.step h = some loop →
      App.Step h callbacks a { a with loop }
  /-- Another goroutine's Send returns. -/
  | message {a : App} (msg : Msg) {loop : Loop} : a.loop.receive callbacks msg = some loop →
      App.Step h callbacks a { a with loop }

/-- The receive goroutine waits on a Send that the blocked loop never takes. -/
def App.Stuck (h : Handler) (a : App) : Prop :=
  a.loop.blocked h = true ∧ a.filer.pending ≠ []

/-! ### Runs that complete -/

section Runs

variable {h : Handler} {callbacks : Callbacks}

/-- The loop's own steps are steps of the whole. -/
theorem App.reaches_of_loop (registry : Registry) (cache : List Game) (filer : Filer)
    {loop loop' : Loop} (reaches : Loop.Reaches h loop loop') :
    Relation.ReflTransGen (App.Step h callbacks) ⟨registry, cache, loop, filer⟩
      ⟨registry, cache, loop', filer⟩ := by
  induction reaches with
  | refl => exact .refl
  | step stepped _ inductionHypothesis => exact .head (.loop stepped) inductionHypothesis

/-- A waiting loop takes the receive goroutine's Sends one by one, none of them a key, and is
waiting again after each, in the same view. -/
theorem App.delivers (registry : Registry) (cache : List Game) (stage : Stage)
    (pending : List Msg) (quiet : ∀ msg ∈ pending, msg.isKey = false) (model : Model) :
    ∃ model', model'.viewMode = model.viewMode ∧ Relation.ReflTransGen (App.Step h callbacks)
      ⟨registry, cache, .waiting model, ⟨stage, pending⟩⟩
      ⟨registry, cache, .waiting model', ⟨stage, []⟩⟩ := by
  induction pending generalizing model with
  | nil => exact ⟨model, rfl, .refl⟩
  | cons msg rest inductionHypothesis =>
    have notKey : msg.isKey = false := quiet msg (List.mem_cons_self _ _)
    have noEffects : (model.update callbacks msg).effects = [] :=
      model.update_quiet callbacks msg fun key isKey => by simp [isKey, Msg.isKey] at notKey
    obtain ⟨model', view, later⟩ := inductionHypothesis
      (fun following member => quiet following (List.mem_cons_of_mem _ member))
      (model.update callbacks msg).model
    refine ⟨model', view.trans (model.update_viewMode callbacks msg notKey),
      .head (.send rfl rfl) (.head (.loop ?_) later)⟩
    simp only [noEffects, Loop.step]

/-- With an event loop that waits for messages, a game the receive goroutine decodes is filed
to the end: the registry holds it, the broadcaster holds the snapshot `Add` took, and the lock
is free again. -/
theorem App.files (registry : Registry) (cache : List Game) (model : Model) (game : Game)
    (now : Time) (order : (registry.add game now).registry.games.Order) :
    ∃ model', Relation.ReflTransGen (App.Step h callbacks)
      ⟨registry, cache, .waiting model, ⟨.reading, []⟩⟩
      ⟨(registry.add game now).registry, (registry.add game now).registry.snapshot order,
        .waiting model', ⟨.reading, []⟩⟩ := by
  obtain ⟨discovered, -, logged⟩ := @App.delivers h callbacks registry cache
    (.discovered game) _ (h.debug_not_key _ _) model
  obtain ⟨added, -, sent⟩ := @App.delivers h callbacks
    (registry.add game now).registry cache (.adding _) _
    (registry.addSends_not_key h game ((registry.add game now).registry.snapshot order))
    discovered
  have filing := @App.Step.add h callbacks ⟨registry, cache, .waiting discovered,
    ⟨.discovered game, []⟩⟩ game now order rfl
  exact ⟨added,
    .head (.decode game rfl) (logged.trans (.head filing (sent.tail (.unlock rfl))))⟩

end Runs

/-! ### Runs that block -/

section Blocked

variable {h : Handler} {callbacks : Callbacks} {a b : App}

/-- A stuck receive goroutine and a blocked loop take no step, and no other goroutine can move
either of them. -/
theorem App.not_step_of_stuck (stuck : a.Stuck h) : ¬ App.Step h callbacks a b := by
  obtain ⟨blocked, waiting⟩ := stuck
  intro step
  cases step with
  | decode _ idle => exact waiting (by rw [idle])
  | send _ received => simp [(Loop.blocked_receive h callbacks _ blocked).2] at received
  | add _ _ filed => exact waiting (by rw [filed])
  | unlock done => exact waiting (by rw [done])
  | loop stepped => simp [(Loop.blocked_receive h callbacks .other blocked).1] at stepped
  | message msg received => simp [(Loop.blocked_receive h callbacks msg blocked).2] at received

/-- Nothing happens after a state is stuck. -/
theorem App.eq_of_reaches_stuck (stuck : a.Stuck h)
    (reaches : Relation.ReflTransGen (App.Step h callbacks) a b) : b = a := by
  rcases reaches.cases_head with rfl | ⟨_, step, _⟩
  · rfl
  · exact absurd step (App.not_step_of_stuck stuck)

/-- With the handler `runExec` installs, a loop blocked while the receive goroutine reads its
socket stops the goroutine at the next game's "discovered game" record, before `Add`: from
then on the registry and the broadcaster's games never change, and every reader of the
registry returns. -/
theorem App.blocked_loop_registry_frozen
    (blocked : a.loop.blocked runExecHandler = true) (idle : a.filer = ⟨.reading, []⟩)
    (reaches : Relation.ReflTransGen (App.Step runExecHandler callbacks) a b) :
    b.registry = a.registry ∧ b.cache = a.cache ∧
      ∀ {β : Type} (reader : Registry → β), b.read reader = some (reader a.registry) := by
  rcases reaches.cases_head with rfl | ⟨c, step, later⟩
  · exact ⟨rfl, rfl, fun _ => by simp [App.read, App.locked, idle]⟩
  · obtain ⟨game, rfl⟩ : ∃ game, c = { a with filer := ⟨.discovered game,
        runExecHandler.debug "discovered game" (discoveredAttrs game)⟩ } := by
      cases step with
      | decode game _ => exact ⟨game, rfl⟩
      | send pending _ => simp [idle] at pending
      | add _ _ filed => simp [idle] at filed
      | unlock done => simp [idle] at done
      | loop stepped =>
        simp [(Loop.blocked_receive _ callbacks .other blocked).1] at stepped
      | message msg received =>
        simp [(Loop.blocked_receive _ callbacks msg blocked).2] at received
    have stuck : App.Stuck runExecHandler { a with filer := ⟨.discovered game,
        runExecHandler.debug "discovered game" (discoveredAttrs game)⟩ } :=
      ⟨blocked, runExecHandler.debug_ne_nil (by decide)⟩
    rw [App.eq_of_reaches_stuck stuck later]
    exact ⟨rfl, rfl, fun _ => rfl⟩

/-- A game a peer at 100.64.0.2 hosts. -/
def discoveredGame : Game :=
  ⟨⟨⟨productTFT, 26⟩, 1, 0, "g", [], 12, 0, 1, 11, 0, 6112⟩, [], .sourceRemote, ⟨100, 64, 0, 2⟩,
    "b", 0, 0⟩

theorem App.blocked_loop_registry_frozen_info :
    let a : App := ⟨newRegistry, [], .updating (newModel 0 Config.default.gameVersion)
      [.log .info "version changed" [("version", "1.28")]], ⟨.reading, []⟩⟩
    let b : App := { a with filer := ⟨.discovered discoveredGame,
      runExecHandler.debug "discovered game" (discoveredAttrs discoveredGame)⟩ }
    a.loop.blocked runExecHandler = true ∧ a.filer = ⟨.reading, []⟩ ∧
      Relation.ReflTransGen (App.Step runExecHandler (runExecCallbacks Config.default)) a b ∧
      b.registry = a.registry ∧ b.cache = a.cache ∧
      ∀ {β : Type} (reader : Registry → β), b.read reader = some (reader a.registry) := by
  intro a b
  have blocked : a.loop.blocked runExecHandler = true := by decide
  have reaches : Relation.ReflTransGen (App.Step runExecHandler (runExecCallbacks Config.default))
      a b := .single (.decode discoveredGame rfl)
  exact ⟨blocked, rfl, reaches, App.blocked_loop_registry_frozen blocked rfl reaches⟩

/-- With the handler and callbacks `runExec` installs, from a loop waiting in the list view
and a receive goroutine reading its socket, there is a run in which the goroutine files a
game, a `[` key press lands between its "discovered game" record and `Add`, and the
goroutine then blocks in `Add`'s Sends holding the registry's write lock: nothing moves
after, and no reader of the registry, such as the proxy's `FindByHostCounter`, returns. -/
theorem App.version_key_holds_registry_lock (cfg : Config) (registry : Registry)
    (cache : List Game) (model : Model) (listed : model.viewMode = .list) (game : Game)
    (now : Time) (order : (registry.add game now).registry.games.Order) :
    ∃ b, Relation.ReflTransGen (App.Step runExecHandler (runExecCallbacks cfg))
        ⟨registry, cache, .waiting model, ⟨.reading, []⟩⟩ b ∧
      b.registry = (registry.add game now).registry ∧
      ∀ c, Relation.ReflTransGen (App.Step runExecHandler (runExecCallbacks cfg)) b c →
        ∀ {β : Type} (reader : Registry → β), c.read reader = none := by
  obtain ⟨logged, view, delivered⟩ := @App.delivers runExecHandler
    (runExecCallbacks cfg) registry cache (.discovered game) _
    (runExecHandler.debug_not_key _ _) model
  let key : KeyMsg := ⟨.other, "["⟩
  obtain ⟨blocked, reaches, isBlocked⟩ := logged.handleKey_blocks cfg key (view.trans listed)
    (by decide) (.inl (List.mem_cons_self _ _))
  let b : App := ⟨(registry.add game now).registry, cache, blocked,
    ⟨.adding ((registry.add game now).registry.snapshot order),
      registry.addSends runExecHandler game ((registry.add game now).registry.snapshot order)⟩⟩
  have stuck : b.Stuck runExecHandler := ⟨isBlocked, registry.addSends_ne_nil _ _ _⟩
  have filing := @App.Step.add runExecHandler (runExecCallbacks cfg)
    ⟨registry, cache, blocked, ⟨.discovered game, []⟩⟩ game now order rfl
  refine ⟨b, .head (.decode game rfl) (delivered.trans (.head (.message (.key key) rfl)
    ((App.reaches_of_loop _ _ _ reaches).tail filing))), rfl, ?_⟩
  intro c later _ reader
  rw [App.eq_of_reaches_stuck stuck later]
  rfl

theorem App.version_key_holds_registry_lock_first :
    (newModel 0 Config.default.gameVersion).viewMode = .list ∧
      ∃ b, Relation.ReflTransGen (App.Step runExecHandler (runExecCallbacks Config.default))
        ⟨newRegistry, [], .waiting (newModel 0 Config.default.gameVersion), ⟨.reading, []⟩⟩ b ∧
      b.registry = (newRegistry.add discoveredGame 0).registry ∧
      ∀ c, Relation.ReflTransGen (App.Step runExecHandler (runExecCallbacks Config.default)) b c →
        ∀ {β : Type} (reader : Registry → β), c.read reader = none :=
  ⟨rfl, App.version_key_holds_registry_lock Config.default newRegistry [] _ rfl discoveredGame 0
    (GoMap.Order.stored _)⟩

end Blocked

end Wc3ts

import Wc3ts.Config.Version
import Wc3ts.Daemon.Run

/-!
`tui/model.go`, `tui/update.go` and `tui/log.go`: the terminal UI as a Bubble Tea program.

The program has one event loop. It takes one message at a time from an unbuffered channel
and runs `Update` to completion before it takes the next; `Program.Send` blocks until the
loop takes the message. `Update` reaches outside the model only through the two callbacks
`runExec` installs, and those log through the default logger, whose handler `runExec` has
made a `tui.Handler`: once ready, it Sends every record it is asked to handle on the same
channel.

`Update` is modelled with the effects it performs before it returns: the callbacks' calls
into the probe engine, and the records they log. The loop is a state machine that waits or
is inside `Update`; inside, a record the handler Sends has no receiver, the loop being the
channel's only one, so the loop blocks for good (`Loop.blocked`). The version keys and the
refresh keys reach such a record (`handleKey_blocks`).
-/

namespace Wc3ts

/-! ### Logging -/

/-- `slog.Level`, by the four levels the code logs at. -/
inductive Level where
  | debug
  | info
  | warn
  | error
  deriving DecidableEq, Repr

/-- The level's number: `LevelDebug` is -4, `LevelInfo` 0, `LevelWarn` 4, `LevelError` 8. -/
def Level.toInt : Level → Int
  | .debug => -4
  | .info => 0
  | .warn => 4
  | .error => 8

/-- `Level.String`. -/
def Level.toString : Level → String
  | .debug => "DEBUG"
  | .info => "INFO"
  | .warn => "WARN"
  | .error => "ERROR"

/-- `tui.Handler`, by its level and its ready flag. -/
structure Handler where
  level : Level
  ready : Bool

/-- `Handler.Enabled`. -/
def Handler.enabled (h : Handler) (level : Level) : Bool :=
  decide (h.level.toInt ≤ level.toInt)

/-- The text of the `LogMsg` that `Handle` sends: level, message, then each attribute as
` key=value`. The clock reading it starts with is left out. -/
def Handler.format (level : Level) (message : String) (attrs : List (String × String)) : String :=
  attrs.foldl (fun text attr => text ++ " " ++ attr.1 ++ "=" ++ attr.2)
    (level.toString ++ " " ++ message)

/-- Whether a record reaches `program.Send`: the logger hands it to the handler only if
enabled, and `Handle` drops it until the ready flag is set. -/
def Handler.sends (h : Handler) (level : Level) : Bool :=
  h.enabled level && h.ready

/-! ### Messages and the model -/

/-- `tea.KeyType`, by the two types `handleKey` tests for. -/
inductive KeyType where
  | esc
  | enter
  | other
  deriving DecidableEq, Repr

/-- `tea.KeyMsg`: its type and its `String()`. -/
structure KeyMsg where
  type : KeyType
  string : String
  deriving DecidableEq, Repr

/-- The messages `Update` handles; anything else is ignored. -/
inductive Msg where
  | key (msg : KeyMsg)
  | windowSize (width height : Int)
  | peers (peers : List Peer)
  | games (games : List Game)
  | log (message : String)
  | port (port : Int)
  | other

/-- `ViewMode`. -/
inductive ViewMode where
  | list
  | detailPeer
  | detailGame
  deriving DecidableEq, Repr

/-- `FocusedPanel`. -/
inductive FocusedPanel where
  | peers
  | games
  deriving DecidableEq, Repr

/-- A `table.Model`, by what `Update` reads and sets: the cursor, the focus and the height.
Its rows are always the model's peers or games, one row each. -/
structure Table where
  cursor : Int
  focused : Bool
  height : Int

/-- `MoveUp` and `MoveDown` by `delta` rows: the cursor clamped to the rows. -/
def Table.move (t : Table) (rows : Nat) (delta : Int) : Table :=
  { t with cursor := min (max (t.cursor + delta) 0) ((rows : Int) - 1) }

/-- `tui.Model`, by the fields `Update` reads and writes. The per-peer game counts are
recomputed from the games on every `GamesMsg`, so they are not kept. -/
structure Model where
  peers : List Peer
  games : List Game
  version : GameVersion
  proxyPort : Int
  peerTable : Table
  gameTable : Table
  logs : List String
  logHeight : Int
  width : Int
  height : Int
  ready : Bool
  quitting : Bool
  focus : FocusedPanel
  viewMode : ViewMode
  selectedPeer : Option Peer
  selectedGame : Option Game

/-- `minTableHeight`, `minLogHeight`, `maxLogLines`, `fixedUIHeight`. -/
def minTableHeight : Int := 3
def minLogHeight : Int := 3
def maxLogLines : Nat := 10
def fixedUIHeight : Int := 11

/-- `NewModel`: list view, peers focused, empty tables of the minimum height. -/
def newModel (proxyPort : Int) (gameVersion : GameVersion) : Model :=
  ⟨[], [], gameVersion, proxyPort, ⟨0, true, minTableHeight⟩, ⟨0, false, minTableHeight⟩, [], 0,
    0, 0, false, false, .peers, .list, none, none⟩

/-! ### What `Update` does outside the model -/

/-- A call `Update` makes that leaves the model: into the probe engine, or a log record. -/
inductive Effect where
  | setVersion (version : GameVersion)
  | refresh
  | log (level : Level) (message : String) (attrs : List (String × String))
  deriving DecidableEq, Repr

/-- Whether performing the effect Sends on the program's channel. -/
def Effect.sends (h : Handler) : Effect → Bool
  | .log level _ _ => h.sends level
  | _ => false

/-- `versionCb` and `refreshCb`. -/
structure Callbacks where
  version : UInt32 → List Effect
  refresh : List Effect

/-- The callbacks `runExec` installs: the version callback sets the probe engine's version
and logs at Info; the refresh callback probes and logs at Debug. A probe whose send fails
logs at Debug as well. -/
def runExecCallbacks (cfg : Config) : Callbacks :=
  ⟨fun v => [.setVersion ⟨cfg.gameVersion.product, v⟩,
      .log .info "version changed" [("version", formatVersion v)]],
    [.refresh, .log .debug "manual refresh triggered" []]⟩

/-! ### `Update` -/

/-- What one call of `Update` leaves: the model, the effects it performed in order, and
whether it returned `tea.Quit`. -/
structure Updated where
  model : Model
  effects : List Effect
  quit : Bool

/-- `config.SupportedVersions`. -/
def supportedVersions : List UInt32 := [26, 27, 28]

/-- The index `cycleVersion` moves to: the first supported version if the current one is not
supported, else the current index moved by `delta`, wrapping at both ends. -/
def cycleIndex (current : UInt32) (delta : Int) : Nat :=
  match supportedVersions.indexOf? current with
  | none => 0
  | some index =>
    let moved := (index : Int) + delta
    if moved < 0 then supportedVersions.length - 1
    else if moved ≥ supportedVersions.length then 0
    else moved.toNat

/-- `cycleVersion`: move through the supported versions and call the version callback. -/
def Model.cycleVersion (callbacks : Callbacks) (m : Model) (delta : Int) : Updated :=
  let version := supportedVersions.getD (cycleIndex m.version.version delta) 0
  ⟨{ m with version := { m.version with version } }, callbacks.version version, false⟩

/-- `toggleFocus`. -/
def Model.toggleFocus (m : Model) : Model :=
  match m.focus with
  | .peers => { m with focus := .games, peerTable.focused := false, gameTable.focused := true }
  | .games => { m with focus := .peers, gameTable.focused := false, peerTable.focused := true }

/-- `navigateUp` and `navigateDown`: move the focused table's cursor. -/
def Model.navigate (m : Model) (delta : Int) : Model :=
  match m.focus with
  | .peers => { m with peerTable := m.peerTable.move m.peers.length delta }
  | .games => { m with gameTable := m.gameTable.move m.games.length delta }

/-- The number of Remote games of a peer, as `updatePeerGameCounts` counts them. -/
def Model.peerGames (m : Model) (ip : Addr) : Nat :=
  m.games.countP fun g => g.source = .sourceRemote ∧ g.peerIP.toString = ip.toString

/-- The `less` function `sort.Slice` is given in `sortPeersByGames`: by game count,
descending, then by name. -/
def Model.gamesBefore (m : Model) (first second : Peer) : Bool :=
  Nat.blt (m.peerGames second.ip) (m.peerGames first.ip) ||
    (Nat.beq (m.peerGames first.ip) (m.peerGames second.ip) &&
      @decide _ (String.decLt first.name second.name))

/-- `sortPeersByGames`. -/
def Model.sortPeersByGames (m : Model) : Model :=
  { m with peers := m.peers.mergeSort m.gamesBefore }

/-- `showDetailView`: the item under the focused table's cursor, if there is one. -/
def Model.showDetailView (m : Model) : Model :=
  match m.focus with
  | .peers =>
    match m.peers[m.peerTable.cursor.toNat]? with
    | some peer =>
      if 0 ≤ m.peerTable.cursor then { m with selectedPeer := some peer, viewMode := .detailPeer }
      else m
    | none => m
  | .games =>
    match m.games[m.gameTable.cursor.toNat]? with
    | some g =>
      if 0 ≤ m.gameTable.cursor then { m with selectedGame := some g, viewMode := .detailGame }
      else m
    | none => m

/-- `handleKey`. -/
def Model.handleKey (callbacks : Callbacks) (m : Model) (msg : KeyMsg) : Updated :=
  if msg.type = .esc then
    if m.viewMode ≠ .list then
      ⟨{ m with viewMode := .list, selectedPeer := none, selectedGame := none }, [], false⟩
    else ⟨m, [], false⟩
  else if m.viewMode ≠ .list then ⟨m, [], false⟩
  else
    match msg.string with
    | "q" | "ctrl+c" => ⟨{ m with quitting := true }, [], true⟩
    | "tab" => ⟨m.toggleFocus, [], false⟩
    | "up" | "k" => ⟨m.navigate (-1), [], false⟩
    | "down" | "j" => ⟨m.navigate 1, [], false⟩
    | "[" | "-" => m.cycleVersion callbacks (-1)
    | "]" | "+" | "=" => m.cycleVersion callbacks 1
    | "s" => ⟨m.sortPeersByGames, [], false⟩
    | "r" => ⟨m, callbacks.refresh, false⟩
    | _ =>
      if msg.type = .enter then ⟨m.showDetailView, callbacks.refresh, false⟩
      else ⟨m, [], false⟩

/-- The heights a `WindowSizeMsg` sets: a share of what the fixed lines leave, each at least
its minimum; nothing changes if nothing is left. -/
def Model.resize (m : Model) (width height : Int) : Model :=
  let m := { m with width, height, ready := true }
  let available := height - fixedUIHeight
  if available > 0 then
    { m with
      logHeight := max (available * 30 / 100) minLogHeight
      peerTable.height := max (available * 35 / 100) minTableHeight
      gameTable.height := max (available * 35 / 100) minTableHeight }
  else m

/-- `Update`. -/
def Model.update (callbacks : Callbacks) (m : Model) : Msg → Updated
  | .key msg => m.handleKey callbacks msg
  | .windowSize width height => ⟨m.resize width height, [], false⟩
  | .peers peers => ⟨{ m with peers := sortPeersByOS peers }, [], false⟩
  | .games games => ⟨{ m with games }, [], false⟩
  | .log message =>
    let logs := m.logs ++ [message]
    ⟨{ m with logs := logs.drop (logs.length - maxLogLines) }, [], false⟩
  | .port port => ⟨{ m with proxyPort := port }, [], false⟩
  | .other => ⟨m, [], false⟩

/-! ### The event loop -/

/-- The program's event loop: waiting on its channel, or inside `Update` with the effects it
has still to perform. -/
inductive Loop where
  | waiting (model : Model)
  | updating (model : Model) (effects : List Effect)

/-- Another goroutine's `Send` completes only while the loop waits on the channel. -/
def Loop.receive (callbacks : Callbacks) (msg : Msg) : Loop → Option Loop
  | .waiting model =>
    let updated := model.update callbacks msg
    some (.updating updated.model updated.effects)
  | .updating _ _ => none

/-- The loop's own next step: perform the next effect, or return from `Update`. An effect that
Sends cannot complete: the loop itself is the channel's only receiver. -/
def Loop.step (h : Handler) : Loop → Option Loop
  | .waiting _ => none
  | .updating model [] => some (.waiting model)
  | .updating model (effect :: rest) =>
    if effect.sends h then none else some (.updating model rest)

/-- Blocked inside `Update`: the loop can take no step and, not waiting, takes no message. -/
def Loop.blocked (h : Handler) : Loop → Bool
  | .waiting _ => false
  | .updating model effects => (Loop.step h (.updating model effects)).isNone

/-- The states the loop reaches by its own steps. -/
inductive Loop.Reaches (h : Handler) : Loop → Loop → Prop
  | refl (loop : Loop) : Loop.Reaches h loop loop
  | step {loop next final : Loop} : loop.step h = some next → Loop.Reaches h next final →
      Loop.Reaches h loop final

/-! ### When `Update` returns -/

/-- Inside `Update`, the loop returns to the channel exactly when no effect left Sends; if
one does, it blocks for good before it. -/
theorem Loop.updating_returns_iff (h : Handler) (model : Model) (effects : List Effect) :
    Loop.Reaches h (.updating model effects) (.waiting model) ↔
      ∀ effect ∈ effects, effect.sends h = false := by
  induction effects with
  | nil => exact ⟨fun _ => by simp, fun _ => .step rfl (.refl _)⟩
  | cons effect rest inductionHypothesis =>
    constructor
    · intro reaches
      cases reaches with
      | step stepped later =>
        simp only [Loop.step] at stepped
        split at stepped
        · cases stepped
        · rename_i quiet
          cases stepped
          simp only [List.mem_cons, forall_eq_or_imp]
          exact ⟨by simpa using quiet, inductionHypothesis.mp later⟩
    · intro quiet
      have first : effect.sends h = false := quiet effect (List.mem_cons_self _ _)
      exact .step (by simp [Loop.step, first])
        (inductionHypothesis.mpr fun other member => quiet other (List.mem_cons_of_mem _ member))

/-- If an effect Sends, the loop reaches a state where it is blocked. -/
theorem Loop.updating_blocks (h : Handler) (model : Model) (effects : List Effect)
    (sending : ∃ effect ∈ effects, effect.sends h = true) :
    ∃ blocked, Loop.Reaches h (.updating model effects) blocked ∧ blocked.blocked h = true := by
  induction effects with
  | nil => simp at sending
  | cons effect rest inductionHypothesis =>
    by_cases first : effect.sends h = true
    · exact ⟨_, .refl _, by simp [Loop.blocked, Loop.step, first]⟩
    · obtain ⟨other, member, sends⟩ := sending
      have later : ∃ effect ∈ rest, effect.sends h = true := by
        rcases List.mem_cons.mp member with rfl | member
        · exact absurd sends first
        · exact ⟨other, member, sends⟩
      obtain ⟨blocked, reaches, isBlocked⟩ := inductionHypothesis later
      exact ⟨blocked, .step (by simp [Loop.step, first]) reaches, isBlocked⟩

/-- Once blocked, the loop stays so: it takes no step, and no message. -/
theorem Loop.blocked_receive (h : Handler) (callbacks : Callbacks) (msg : Msg) {loop : Loop}
    (blocked : loop.blocked h = true) : loop.step h = none ∧ loop.receive callbacks msg = none := by
  cases loop with
  | waiting model => cases blocked
  | updating model effects => exact ⟨Option.isNone_iff_eq_none.mp blocked, rfl⟩

/-- Every other message leaves `Update` without an effect, so the loop returns to the channel. -/
theorem Model.update_quiet (callbacks : Callbacks) (m : Model) (msg : Msg)
    (quiet : ∀ key, msg = .key key → m.viewMode = .list → key.type ≠ .esc →
      key.string ∉ ["[", "-", "]", "+", "=", "r"] ∧ key.type ≠ .enter) :
    (m.update callbacks msg).effects = [] := by
  cases msg with
  | key key =>
    show (m.handleKey callbacks key).effects = []
    by_cases esc : key.type = .esc
    · rw [Model.handleKey, if_pos esc]
      split <;> rfl
    · by_cases listed : m.viewMode = .list
      · obtain ⟨unbound, notEnter⟩ := quiet key rfl listed esc
        rw [Model.handleKey, if_neg esc, if_neg fun different => different listed]
        split
        all_goals first
          | rfl
          | exact (if_neg notEnter).symm ▸ rfl
          | exact absurd (by simp only [List.mem_cons, *, true_or, or_true]) unbound
      · rw [Model.handleKey, if_neg esc, if_pos listed]
  | _ => rfl

/-! ### The keys that block -/

/-- The handler `runExec` installs, once `SetReady` has run: level Debug, ready. -/
def runExecHandler : Handler := ⟨.debug, true⟩

/-- In the list view, the version keys and the refresh keys make `Update` log through the
callbacks `runExec` installs, and the handler Sends the record. -/
theorem Model.handleKey_sends (cfg : Config) (m : Model) (key : KeyMsg) (listed : m.viewMode = .list)
    (notEsc : key.type ≠ .esc)
    (blocking : key.string ∈ ["[", "-", "]", "+", "=", "r"] ∨ key = ⟨.enter, "enter"⟩) :
    ∃ effect ∈ (m.handleKey (runExecCallbacks cfg) key).effects,
      effect.sends runExecHandler = true := by
  have versionSends : ∀ delta, ∃ effect ∈ (m.cycleVersion (runExecCallbacks cfg) delta).effects,
      effect.sends runExecHandler = true :=
    fun _ => ⟨_, List.mem_cons_of_mem _ (List.mem_singleton_self _), rfl⟩
  have refreshSends :
      ∃ effect ∈ (runExecCallbacks cfg).refresh, effect.sends runExecHandler = true :=
    ⟨_, List.mem_cons_of_mem _ (List.mem_singleton_self _), rfl⟩
  rw [Model.handleKey, if_neg notEsc, if_neg fun different => different listed]
  obtain ⟨type, string⟩ := key
  rcases blocking with member | equal
  · simp only [List.mem_cons, List.mem_singleton, List.not_mem_nil, or_false] at member
    rcases member with rfl | rfl | rfl | rfl | rfl | rfl
    all_goals first | exact versionSends _ | exact refreshSends
  · cases equal
    exact refreshSends

/-- From every model in the list view, the event loop that takes a version key or a refresh
key blocks inside `Update`, for good. -/
theorem Model.handleKey_blocks (cfg : Config) (m : Model) (key : KeyMsg) (listed : m.viewMode = .list)
    (notEsc : key.type ≠ .esc)
    (blocking : key.string ∈ ["[", "-", "]", "+", "=", "r"] ∨ key = ⟨.enter, "enter"⟩) :
    ∃ blocked, Loop.Reaches runExecHandler
      (.updating (m.update (runExecCallbacks cfg) (.key key)).model
        (m.update (runExecCallbacks cfg) (.key key)).effects) blocked ∧
      blocked.blocked runExecHandler = true :=
  Loop.updating_blocks _ _ _ (m.handleKey_sends cfg key listed notEsc blocking)

/-- The first key press that changes the version: from the model `runExec` starts with, `[`
moves to version 28; the version callback sets it, then logs at Info, and the loop, inside
`Update`, blocks on its own channel. -/
theorem version_key_blocks_event_loop :
    (((Loop.waiting (newModel 0 Config.default.gameVersion)).receive (runExecCallbacks Config.default)
      (.key ⟨.other, "["⟩)).bind (Loop.step runExecHandler)).map (Loop.blocked runExecHandler) =
      some true := by
  decide

end Wc3ts

import Mathlib.Data.List.DropRight
import Wc3ts.Tui.EventLoop

/-!
`tui/view.go` and the state `Update` keeps for it. `View` draws the goodbye line, the
initialising line, one of two detail views, or the list view with its Debug Log panel. A
detail view reads the selected peer or game and draws "No peer selected" or "No game selected"
when there is none. The list view's panel shows the last `logHeight` lines of the log buffer
`Update` keeps, `maxLogLines` of them when `logHeight` is not in `1..maxLogLines`.

Every model `Update` reaches from `NewModel`, whatever the messages and callbacks, keeps the
detail views' selection, the tables' focus flags with the focused panel, both tables at least
`minTableHeight` high and at most `maxLogLines` log lines (`Model.Valid`); so `View` never
draws "No peer selected" or "No game selected" (`Model.reachable_valid`). The log buffer holds
the last `maxLogLines` texts of the `LogMsg`s received, and the panel their last
`displayLines` (`Model.reachable_logPanel`).
-/

namespace Wc3ts

/-! ### What `View` draws -/

/-- The number of log lines the list view shows: `logHeight`, or `maxLogLines` when that is
not in `1..maxLogLines`. -/
def Model.displayLines (m : Model) : Nat :=
  if m.logHeight ≤ 0 ∨ m.logHeight > maxLogLines then maxLogLines else m.logHeight.toNat

/-- The lines of the Debug Log panel, before styling. -/
def Model.logPanel (m : Model) : List String :=
  if m.logs = [] then ["  (no logs yet)"]
  else (m.logs.drop (m.logs.length - m.displayLines)).map ("  " ++ ·)

/-- The games `viewPeerDetail` counts and lists for a peer: the Remote games at its address. -/
def Model.hostedBy (m : Model) (ip : Addr) : List Game :=
  m.games.filter fun g => g.source = .sourceRemote ∧ g.peerIP = ip

/-- The screen `View` draws, by its branch and the model's data it shows. The list view's
title, tables, status bar and help line, and the detail views' rows, are styling of these. -/
inductive Screen where
  | goodbye
  | initializing
  | noPeerSelected
  | peerDetail (peer : Peer) (hosted : List Game)
  | noGameSelected
  | gameDetail (game : Game)
  | list (logPanel : List String)
  deriving DecidableEq

/-- `View`, with `viewPeerDetail` and `viewGameDetail`. -/
def Model.view (m : Model) : Screen :=
  if m.quitting then .goodbye
  else if !m.ready then .initializing
  else
    match m.viewMode with
    | .detailPeer =>
      match m.selectedPeer with
      | none => .noPeerSelected
      | some peer => .peerDetail peer (m.hostedBy peer.ip)
    | .detailGame =>
      match m.selectedGame with
      | none => .noGameSelected
      | some g => .gameDetail g
    | .list => .list m.logPanel

/-- The peers table counts a peer's games in a map keyed by the address's text; the detail
view compares addresses. The two counts agree, since distinct addresses print differently. -/
theorem Model.peerGames_eq_length_hostedBy (m : Model) (ip : Addr) :
    m.peerGames ip = (m.hostedBy ip).length := by
  rw [Model.peerGames, Model.hostedBy, List.countP_eq_length_filter]
  congr 2
  funext g
  simp only [Addr.toString_injective.eq_iff]

/-! ### What `handleKey` does to the model -/

/-- What `handleKey` can return: the model unchanged, the list view after Escape, or, in the
list view, one key binding's model with the callbacks it calls. -/
inductive Model.KeyStep (callbacks : Callbacks) (m : Model) : Updated → Prop
  | keep : Model.KeyStep callbacks m ⟨m, [], false⟩
  | back : Model.KeyStep callbacks m
      ⟨{ m with viewMode := .list, selectedPeer := none, selectedGame := none }, [], false⟩
  | quit : m.viewMode = .list → Model.KeyStep callbacks m ⟨{ m with quitting := true }, [], true⟩
  | toggle : m.viewMode = .list → Model.KeyStep callbacks m ⟨m.toggleFocus, [], false⟩
  | navigate (delta : Int) : m.viewMode = .list →
      Model.KeyStep callbacks m ⟨m.navigate delta, [], false⟩
  | version (delta : Int) : m.viewMode = .list →
      Model.KeyStep callbacks m (m.cycleVersion callbacks delta)
  | sort : m.viewMode = .list → Model.KeyStep callbacks m ⟨m.sortPeersByGames, [], false⟩
  | refresh : m.viewMode = .list → Model.KeyStep callbacks m ⟨m, callbacks.refresh, false⟩
  | detail : m.viewMode = .list →
      Model.KeyStep callbacks m ⟨m.showDetailView, callbacks.refresh, false⟩

theorem Model.keyStep_handleKey (callbacks : Callbacks) (m : Model) (key : KeyMsg) :
    m.KeyStep callbacks (m.handleKey callbacks key) := by
  unfold Model.handleKey
  split
  · split
    · exact .back
    · exact .keep
  · split
    · exact .keep
    · rename_i listed
      have listed : m.viewMode = .list := not_not.mp listed
      split
      all_goals first
        | exact .keep
        | exact .quit listed
        | exact .toggle listed
        | exact .navigate _ listed
        | exact .version _ listed
        | exact .sort listed
        | exact .refresh listed
        | (split
           · exact .detail listed
           · exact .keep)

@[simp] theorem Table.move_focused (t : Table) (rows : Nat) (delta : Int) :
    (t.move rows delta).focused = t.focused := rfl

@[simp] theorem Table.move_height (t : Table) (rows : Nat) (delta : Int) :
    (t.move rows delta).height = t.height := rfl

theorem Model.toggleFocus_logs (m : Model) : m.toggleFocus.logs = m.logs := by
  unfold Model.toggleFocus
  split <;> rfl

theorem Model.navigate_logs (m : Model) (delta : Int) : (m.navigate delta).logs = m.logs := by
  unfold Model.navigate
  split <;> rfl

theorem Model.showDetailView_logs (m : Model) : m.showDetailView.logs = m.logs := by
  unfold Model.showDetailView
  repeat' split
  all_goals rfl

theorem Model.resize_logs (m : Model) (width height : Int) :
    (m.resize width height).logs = m.logs := by
  dsimp only [Model.resize]
  split <;> rfl

/-- No key changes the log buffer. -/
theorem Model.KeyStep.logs {callbacks : Callbacks} {m : Model} {updated : Updated}
    (step : m.KeyStep callbacks updated) : updated.model.logs = m.logs := by
  cases step with
  | toggle => exact m.toggleFocus_logs
  | navigate delta => exact m.navigate_logs delta
  | detail => exact m.showDetailView_logs
  | _ => rfl

/-! ### What every reachable model satisfies -/

/-- What holds of every model `Update` reaches from `NewModel`: the tables' focus flags follow
the focused panel, a detail view has its item selected and no other, the list view has
nothing selected, both tables are at least `minTableHeight` high, and the log buffer holds at
most `maxLogLines` lines. -/
structure Model.Valid (m : Model) : Prop where
  peerFocus : m.peerTable.focused = decide (m.focus = .peers)
  gameFocus : m.gameTable.focused = decide (m.focus = .games)
  listed : m.viewMode = .list → m.selectedPeer = none ∧ m.selectedGame = none
  peerSelected : m.viewMode = .detailPeer → m.selectedPeer.isSome ∧ m.selectedGame = none
  gameSelected : m.viewMode = .detailGame → m.selectedGame.isSome ∧ m.selectedPeer = none
  peerHeight : minTableHeight ≤ m.peerTable.height
  gameHeight : minTableHeight ≤ m.gameTable.height
  logs : m.logs.length ≤ maxLogLines

theorem newModel_valid (proxyPort : Int) (gameVersion : GameVersion) :
    (newModel proxyPort gameVersion).Valid :=
  ⟨rfl, rfl, fun _ => ⟨rfl, rfl⟩, nofun, nofun, le_refl _, le_refl _, Nat.zero_le _⟩

section Valid

variable {m : Model}

theorem Model.Valid.toggleFocus (valid : m.Valid) : m.toggleFocus.Valid := by
  unfold Model.toggleFocus
  split
  all_goals exact { valid with peerFocus := rfl, gameFocus := rfl }

theorem Model.Valid.navigate (valid : m.Valid) (delta : Int) : (m.navigate delta).Valid := by
  unfold Model.navigate
  split
  all_goals exact { valid with }

/-- From the list view, `showDetailView` selects one item and shows it, or changes nothing. -/
theorem Model.Valid.showDetailView (valid : m.Valid) (listed : m.viewMode = .list) :
    m.showDetailView.Valid := by
  obtain ⟨noPeer, noGame⟩ := valid.listed listed
  unfold Model.showDetailView
  repeat' split
  all_goals first
    | exact { valid with
        listed := nofun, peerSelected := fun _ => ⟨rfl, noGame⟩, gameSelected := nofun }
    | exact { valid with
        listed := nofun, peerSelected := nofun, gameSelected := fun _ => ⟨rfl, noPeer⟩ }
    | exact { valid with }

theorem Model.KeyStep.valid {callbacks : Callbacks} {updated : Updated}
    (step : m.KeyStep callbacks updated) (valid : m.Valid) : updated.model.Valid := by
  cases step with
  | back => exact { valid with
      listed := fun _ => ⟨rfl, rfl⟩, peerSelected := nofun, gameSelected := nofun }
  | toggle => exact valid.toggleFocus
  | navigate delta => exact valid.navigate delta
  | detail isList => exact valid.showDetailView isList
  | _ => exact { valid with }

/-- `Update` keeps `Valid`, whatever the message and the callbacks. -/
theorem Model.Valid.update (valid : m.Valid) (callbacks : Callbacks) (msg : Msg) :
    (m.update callbacks msg).model.Valid := by
  cases msg with
  | key key => exact (m.keyStep_handleKey callbacks key).valid valid
  | windowSize width height =>
    simp only [Model.update, Model.resize]
    split
    · exact { valid with peerHeight := le_max_right _ _, gameHeight := le_max_right _ _ }
    · exact { valid with }
  | log message =>
    refine { valid with logs := ?_ }
    simp only [Model.update, List.length_drop]
    omega
  | _ => exact { valid with }

/-- A valid model's detail views have something to show. -/
theorem Model.Valid.view_selected (valid : m.Valid) :
    m.view ≠ .noPeerSelected ∧ m.view ≠ .noGameSelected := by
  unfold Model.view
  split
  · exact ⟨nofun, nofun⟩
  split
  · exact ⟨nofun, nofun⟩
  split
  · rename_i detail
    obtain ⟨peer, selected⟩ := Option.isSome_iff_exists.mp (valid.peerSelected detail).1
    simp only [selected]
    exact ⟨nofun, nofun⟩
  · rename_i detail
    obtain ⟨g, selected⟩ := Option.isSome_iff_exists.mp (valid.gameSelected detail).1
    simp only [selected]
    exact ⟨nofun, nofun⟩
  · exact ⟨nofun, nofun⟩

end Valid

/-! ### Runs of `Update` -/

/-- The model after `Update` has handled each message in turn. -/
def Model.updates (callbacks : Callbacks) (m : Model) (msgs : List Msg) : Model :=
  msgs.foldl (fun m msg => (m.update callbacks msg).model) m

theorem Model.Valid.updates {m : Model} (valid : m.Valid) (callbacks : Callbacks)
    (msgs : List Msg) : (m.updates callbacks msgs).Valid := by
  induction msgs generalizing m with
  | nil => exact valid
  | cons msg rest inductionHypothesis => exact inductionHypothesis (valid.update callbacks msg)

/-- In every model `Update` reaches from `NewModel`, whatever the messages and the callbacks,
the tables' focus flags follow the focused panel, each detail view has its item selected and
no other, both tables are at least `minTableHeight` high and at most `maxLogLines` log lines
are kept; so `View` never draws "No peer selected" or "No game selected". -/
theorem Model.reachable_valid (callbacks : Callbacks) (proxyPort : Int) (gameVersion : GameVersion)
    (msgs : List Msg) :
    ((newModel proxyPort gameVersion).updates callbacks msgs).Valid ∧
      ((newModel proxyPort gameVersion).updates callbacks msgs).view ≠ .noPeerSelected ∧
      ((newModel proxyPort gameVersion).updates callbacks msgs).view ≠ .noGameSelected :=
  have valid := (newModel_valid proxyPort gameVersion).updates callbacks msgs
  ⟨valid, valid.view_selected⟩

/-! ### The log buffer and the Debug Log panel -/

/-- The texts of the `LogMsg`s among the messages, in order. -/
def logTexts (msgs : List Msg) : List String :=
  msgs.filterMap fun
    | .log message => some message
    | _ => none

theorem Model.displayLines_le (m : Model) : m.displayLines ≤ maxLogLines := by
  unfold Model.displayLines
  split <;> simp only [maxLogLines] at * <;> omega

/-- Keeping the last `n` of a list's last `n` and more is keeping the last `n` of it all. -/
theorem rtake_append_rtake {α : Type} (front back : List α) (n : Nat) :
    (front.rtake n ++ back).rtake n = (front ++ back).rtake n := by
  simp only [List.rtake_eq_reverse_take_reverse, List.reverse_append, List.reverse_reverse,
    List.take_append_eq_append_take, List.take_take]
  rw [min_eq_left (Nat.sub_le n _)]

theorem rtake_rtake_of_le {α : Type} (l : List α) {d n : Nat} (fewer : d ≤ n) :
    (l.rtake n).rtake d = l.rtake d := by
  simp only [List.rtake_eq_reverse_take_reverse, List.reverse_reverse, List.take_take,
    min_eq_left fewer]

theorem rtake_of_length_le {α : Type} {l : List α} {n : Nat} (fits : l.length ≤ n) :
    l.rtake n = l := by
  rw [List.rtake, Nat.sub_eq_zero_of_le fits, List.drop_zero]

theorem length_rtake_le {α : Type} (l : List α) (n : Nat) : (l.rtake n).length ≤ n := by
  rw [List.rtake, List.length_drop]
  omega

/-- One `Update` keeps the last `maxLogLines` of the buffer and the text it logs, if any. -/
theorem Model.update_logs (callbacks : Callbacks) {m : Model} (fits : m.logs.length ≤ maxLogLines)
    (msg : Msg) :
    (m.update callbacks msg).model.logs = (m.logs ++ logTexts [msg]).rtake maxLogLines := by
  cases msg with
  | log message => rfl
  | key key =>
    simp only [Model.update, (m.keyStep_handleKey callbacks key).logs, logTexts,
      List.filterMap_cons, List.filterMap_nil, List.append_nil, rtake_of_length_le fits]
  | _ =>
    simp only [Model.update, Model.resize_logs, logTexts, List.filterMap_cons, List.filterMap_nil,
      List.append_nil, rtake_of_length_le fits]

/-- `Update` keeps the log buffer as the last `maxLogLines` of every text logged. -/
theorem Model.updates_logs (callbacks : Callbacks) {m : Model} (fits : m.logs.length ≤ maxLogLines)
    (msgs : List Msg) :
    (m.updates callbacks msgs).logs = (m.logs ++ logTexts msgs).rtake maxLogLines := by
  induction msgs generalizing m with
  | nil =>
    simp only [Model.updates, List.foldl_nil, logTexts, List.filterMap_nil, List.append_nil,
      rtake_of_length_le fits]
  | cons msg rest inductionHypothesis =>
    have split : logTexts (msg :: rest) = logTexts [msg] ++ logTexts rest := by
      rw [logTexts, logTexts, logTexts, ← List.filterMap_append, List.singleton_append]
    have logged := m.update_logs callbacks fits msg
    rw [Model.updates, List.foldl_cons, ← Model.updates,
      inductionHypothesis (logged ▸ length_rtake_le _ _), logged, rtake_append_rtake, split,
      List.append_assoc]

/-- From `NewModel`, whatever the messages and the callbacks, the log buffer holds the last
`maxLogLines` texts logged, and the Debug Log panel their last `displayLines`, indented, or
its placeholder while none has been logged. -/
theorem Model.reachable_logPanel (callbacks : Callbacks) (proxyPort : Int)
    (gameVersion : GameVersion) (msgs : List Msg) :
    ((newModel proxyPort gameVersion).updates callbacks msgs).logs =
        (logTexts msgs).rtake maxLogLines ∧
      ((newModel proxyPort gameVersion).updates callbacks msgs).logPanel =
        if logTexts msgs = [] then ["  (no logs yet)"]
        else ((logTexts msgs).rtake
          ((newModel proxyPort gameVersion).updates callbacks msgs).displayLines).map ("  " ++ ·) := by
  have logs := (newModel proxyPort gameVersion).updates_logs callbacks (Nat.zero_le _) msgs
  rw [show (newModel proxyPort gameVersion).logs = [] from rfl, List.nil_append] at logs
  have empty : (logTexts msgs).rtake maxLogLines = [] ↔ logTexts msgs = [] := by
    simp [List.rtake_eq_reverse_take_reverse, maxLogLines]
  refine ⟨logs, ?_⟩
  rw [Model.logPanel, logs]
  by_cases nothing : logTexts msgs = []
  · rw [if_pos (empty.mpr nothing), if_pos nothing]
  · rw [if_neg (mt empty.mp nothing), if_neg nothing]
    exact congrArg (List.map _) (rtake_rtake_of_le _ (Model.displayLines_le _))

end Wc3ts

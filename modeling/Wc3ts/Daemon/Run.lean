import Mathlib.Logic.Relation
import Wc3ts.Peer.Manager
import Wc3ts.Tui.PeerSort

/-!
`cmd/wc3ts/run.go`: the daemon as `runExec` wires it. One registry, filled by the probe
engine's `receiveLoop`; its `onChange` hands every snapshot to the broadcaster; the
discovery's peer lists go to the probe engine; the probe engine probes on its ticker, every
`cfg.ProbeInterval`, and the broadcaster broadcasts on its own, every `BroadcastInterval`.
The terminal UI's callbacks change the probed version and probe at once.

The discovery hands each network map's peer slice to the UI first, whose `Update` sorts it in
place, and then to the probe engine, which keeps the slice itself. So the UI's sort stores into
the list the probe engine probes and searches: the daemon carries the stores the sort has still
to make, each a step of its own, and the probe engine's copy in `OnPeersChanged` may come after
any number of them.

Time is an explicit clock. It advances only up to the next due tick, so no tick is skipped,
and a tick fires only when it is due. The TCP proxy only reads the registry and is left out.
So is the responder, which answers SearchGames from its own socket: the fabric
(`World.respond`) models it.

No step of the daemon removes a registry entry: `Registry.Expire` is never called, and
`cfg.GameTimeout` is never read. So a game stays announced on the LAN at every broadcast tick
after its peer has gone silent (`daemon_announces_silent_game`).
-/

namespace Wc3ts

/-! ### Configuration -/

/-- `config.Config`, by the fields the daemon's wiring concerns. `ShowPeerNames` is read by
nothing. -/
structure Config where
  gameVersion : GameVersion
  probeInterval : Duration
  refreshInterval : Duration
  gameTimeout : Duration

/-- `config.Default`. -/
def Config.default : Config :=
  ⟨⟨productTFT, 26⟩, 2 * second, 3 * second, 10 * second⟩

/-- `lan.BroadcastInterval`. -/
def broadcastInterval : Duration := 3 * second

/-! ### The daemon -/

/-- The state of the services `runExec` starts, with the clock, the next due time of the two
tickers, and the stores the UI's sort has still to make in the probe engine's peer slice. -/
structure Daemon where
  clock : Time
  discovery : Discovery
  manager : Manager
  broadcaster : Broadcaster
  nextProbe : Time
  nextBroadcast : Time
  sorting : List (List Peer)

/-- `runExec` up to `startServices`: `initServices` with the configuration, whose version
the command line has set, and both tickers started at time zero. -/
def Daemon.initial (cfg : Config) (proxyPort : UInt16) : Daemon :=
  ⟨0, newDiscovery, (newManager newRegistry).setVersion cfg.gameVersion, newBroadcaster proxyPort,
    cfg.probeInterval.toNat, broadcastInterval.toNat, []⟩

/-- What can happen next: a network map on the IPN bus, with the number of its stores the UI's
sort has made when `OnPeersChanged` copies the slice; a datagram at the probe engine's socket;
a tick of either ticker; one of the UI's two callbacks; the UI's sort's next store; or time
passing. -/
inductive Event where
  | netMap (nm : NetworkMap) (storesBefore : Nat)
  | ingest (datagram : Bytes) (sender : Addr)
  | probeTick
  | broadcastTick
  | versionChanged (version : UInt32)
  | refresh
  | uiStore
  | advance (duration : Nat)

/-- The iteration orders the runtime picks at one step: the snapshot the registry hands to
`onChange`, and the broadcaster's range over `previousGameKeys`. -/
structure Orders where
  snapshot : (r : Registry) → r.games.Order
  previous : (p : GoMap String UInt32) → p.Order

/-- A turn of `receiveLoop` with `onChange` wired in: when the datagram is filed, the
broadcaster's cache becomes the registry's snapshot. -/
def Daemon.ingest (d : Daemon) (orders : Orders) (datagram : Bytes) (sender : Addr) : Daemon :=
  match deserialize (datagram.take udpBufferSize) with
  | some (.gameInfo info, _) =>
    let manager := d.manager.handleGameInfo info (datagram.take udpBufferSize) sender d.clock
    { d with
      manager
      broadcaster := d.broadcaster.onGamesChanged (manager.registry.snapshot (orders.snapshot _)) }
  | _ => d

/-- One step: the daemon after it and the datagrams it sends, or `none` when the event cannot
happen now (a tick that is not due, time passing a due tick, or a store of a sort that is
done). A network map's slice goes to the UI, which sorts it, and to `OnPeersChanged`, which
finds it as the UI's first `storesBefore` stores have left it.

Any event may come between two stores. In the code the refresh and version callbacks run
inside `Update`, after the sort, so the runs with one of them between two stores are runs of
the model only. The responder's socket is not among the events: the fabric's `World.respond`
answers SearchGames. -/
def Daemon.step (cfg : Config) (orders : Orders) (d : Daemon) :
    Event → Option (Daemon × List Datagram)
  | .netMap nm storesBefore =>
    let update := d.discovery.updateFromNetMap nm
    let changed := d.manager.onPeersChanged (peerSliceAfter update.2 storesBefore)
    some ({ d with
        discovery := update.1
        manager := changed.1
        sorting := (peerSortStores update.2).drop storesBefore }, changed.2)
  | .ingest datagram sender => some (d.ingest orders datagram sender, [])
  | .probeTick =>
    if d.clock = d.nextProbe then
      some ({ d with nextProbe := d.nextProbe + cfg.probeInterval.toNat }, d.manager.probeAllPeers)
    else none
  | .broadcastTick =>
    if d.clock = d.nextBroadcast then
      let tick := d.broadcaster.broadcastGames (orders.previous _)
      some ({ d with
          broadcaster := tick.1, nextBroadcast := d.nextBroadcast + broadcastInterval.toNat },
        tick.2.map fun payload => ⟨⟨Addr.broadcast, defaultPort⟩, payload⟩)
    else none
  | .versionChanged version =>
    some ({ d with manager := d.manager.setVersion ⟨cfg.gameVersion.product, version⟩ }, [])
  | .refresh => some (d, d.manager.probeAllPeers)
  | .uiStore =>
    match d.sorting with
    | [] => none
    | store :: rest => some ({ d with manager.peers := store, sorting := rest }, [])
  | .advance duration =>
    if d.clock + duration ≤ d.nextProbe ∧ d.clock + duration ≤ d.nextBroadcast then
      some ({ d with clock := d.clock + duration }, [])
    else none

/-- A run: the `n`th step uses the orders `schedule n`. The result is the final state and
every datagram sent, with the clock reading at which it was sent; `none` if some event could
not happen. -/
def Daemon.run (cfg : Config) (schedule : Nat → Orders) :
    Nat → Daemon → List Event → Option (Daemon × List (Time × Datagram))
  | _, d, [] => some (d, [])
  | n, d, event :: rest =>
    match d.step cfg (schedule n) event with
    | none => none
    | some (next, sent) =>
      (Daemon.run cfg schedule (n + 1) next rest).map fun result =>
        (result.1, sent.map (d.clock, ·) ++ result.2)

/-! ### The broadcaster's cache follows the registry -/

/-- The broadcaster's cache lists the registry's entries, each once. -/
def Daemon.Synced (d : Daemon) : Prop :=
  d.broadcaster.games.Perm (d.manager.registry.games.entries.map Prod.snd)

theorem Daemon.initial_synced (cfg : Config) (proxyPort : UInt16) :
    (Daemon.initial cfg proxyPort).Synced :=
  List.Perm.refl _

theorem Daemon.ingest_manager (d : Daemon) (orders : Orders) (datagram : Bytes) (sender : Addr) :
    (d.ingest orders datagram sender).manager = d.manager.receive datagram sender d.clock := by
  unfold Daemon.ingest
  split
  · rename_i decoded
    exact (d.manager.receive_of_gameInfo sender d.clock decoded).symm
  · rename_i other
    exact (d.manager.receive_of_not_gameInfo sender d.clock other).symm

theorem Daemon.ingest_synced (d : Daemon) (orders : Orders) (datagram : Bytes) (sender : Addr)
    (synced : d.Synced) : (d.ingest orders datagram sender).Synced := by
  unfold Daemon.ingest
  split
  · exact (orders.snapshot _).property.map Prod.snd
  · exact synced

theorem Daemon.step_synced (cfg : Config) (orders : Orders) (d : Daemon) (event : Event)
    {next : Daemon} {sent : List Datagram} (stepped : d.step cfg orders event = some (next, sent))
    (synced : d.Synced) : next.Synced := by
  cases event with
  | ingest datagram sender =>
    cases stepped
    exact d.ingest_synced orders datagram sender synced
  | probeTick | broadcastTick | uiStore | advance =>
    simp only [Daemon.step] at stepped
    split at stepped <;> cases stepped
    exact synced
  | netMap | versionChanged | refresh =>
    cases stepped
    exact synced

/-! ### No step removes a game -/

/-- Every step but an ingest leaves the registry as it is. -/
theorem Daemon.step_registry (cfg : Config) (orders : Orders) (d : Daemon) (event : Event)
    {next : Daemon} {sent : List Datagram} (stepped : d.step cfg orders event = some (next, sent))
    (notIngest : ∀ datagram sender, event ≠ .ingest datagram sender) :
    next.manager.registry = d.manager.registry := by
  cases event with
  | ingest datagram sender => exact absurd rfl (notIngest datagram sender)
  | probeTick | broadcastTick | uiStore | advance =>
    simp only [Daemon.step] at stepped
    split at stepped <;> cases stepped
    rfl
  | netMap | versionChanged | refresh =>
    cases stepped
    rfl

/-- An ingest only ever files: every key keeps an entry. -/
theorem Daemon.ingest_lookup_isSome (d : Daemon) (orders : Orders) (datagram : Bytes)
    (sender : Addr) (key : String) (present : (d.manager.registry.games.lookup key).isSome) :
    ((d.ingest orders datagram sender).manager.registry.games.lookup key).isSome := by
  rw [Daemon.ingest_manager, Manager.receive]
  split
  · simp only [Manager.handleGameInfo, Registry.lookup_add]
    split <;> simp_all
  · exact present

/-- No step removes a key from the registry. -/
theorem Daemon.step_lookup_isSome (cfg : Config) (orders : Orders) (d : Daemon) (event : Event)
    {next : Daemon} {sent : List Datagram} (stepped : d.step cfg orders event = some (next, sent))
    (key : String) (present : (d.manager.registry.games.lookup key).isSome) :
    (next.manager.registry.games.lookup key).isSome := by
  by_cases ingest : ∃ datagram sender, event = .ingest datagram sender
  · obtain ⟨datagram, sender, rfl⟩ := ingest
    cases stepped
    exact d.ingest_lookup_isSome orders datagram sender key present
  · push_neg at ingest
    rwa [d.step_registry cfg orders event stepped ingest]

/-! ### Where the probe engine's peers sit -/

/-- Every peer of the probe engine's slice, now and in each store the UI's sort has still to
make, satisfies `allowed`. -/
def Daemon.PeersWithin (allowed : Peer → Prop) (d : Daemon) : Prop :=
  (∀ peer ∈ d.manager.peers, allowed peer) ∧ ∀ store ∈ d.sorting, ∀ peer ∈ store, allowed peer

theorem Daemon.initial_peersWithin (cfg : Config) (proxyPort : UInt16) (allowed : Peer → Prop) :
    (Daemon.initial cfg proxyPort).PeersWithin allowed :=
  ⟨nofun, nofun⟩

theorem Daemon.PeersWithin.mono {d : Daemon} {allowed wider : Peer → Prop}
    (holds : d.PeersWithin allowed) (widens : ∀ peer, allowed peer → wider peer) :
    d.PeersWithin wider :=
  ⟨fun peer member => widens peer (holds.1 peer member),
    fun store stored peer member => widens peer (holds.2 store stored peer member)⟩

theorem Daemon.ingest_sorting (d : Daemon) (orders : Orders) (datagram : Bytes) (sender : Addr) :
    (d.ingest orders datagram sender).sorting = d.sorting := by
  unfold Daemon.ingest
  split <;> rfl

/-- A network map leaves only peers of the map's peer list in the probe engine's slice and in
the stores still to come. -/
theorem Daemon.netMap_peersWithin (cfg : Config) (orders : Orders) (d : Daemon)
    {nm : NetworkMap} {storesBefore : Nat} {next : Daemon} {sent : List Datagram}
    (stepped : d.step cfg orders (.netMap nm storesBefore) = some (next, sent)) :
    next.PeersWithin (· ∈ extractPeers nm) := by
  cases stepped
  exact ⟨fun _ member => peerSliceAfter_subset (extractPeers nm) storesBefore member,
    fun _ stored _ member => subset_of_mem_peerSortStores (List.mem_of_mem_drop stored) member⟩

/-- Every step keeps the probe engine's peers within what `allowed` admits, so long as a
network map it takes lists no other peer. -/
theorem Daemon.step_peersWithin (cfg : Config) (orders : Orders) (d : Daemon) (event : Event)
    {next : Daemon} {sent : List Datagram} (stepped : d.step cfg orders event = some (next, sent))
    {allowed : Peer → Prop}
    (mapped : ∀ nm storesBefore, event = .netMap nm storesBefore →
      ∀ peer ∈ extractPeers nm, allowed peer)
    (holds : d.PeersWithin allowed) : next.PeersWithin allowed := by
  cases event with
  | netMap nm storesBefore =>
    exact (d.netMap_peersWithin cfg orders stepped).mono (mapped nm storesBefore rfl)
  | ingest datagram sender =>
    cases stepped
    rw [Daemon.PeersWithin, Daemon.ingest_manager, Manager.receive_peers, Daemon.ingest_sorting]
    exact holds
  | uiStore =>
    simp only [Daemon.step] at stepped
    split at stepped
    · cases stepped
    · rename_i store rest sorting
      cases stepped
      rw [Daemon.PeersWithin, sorting] at holds
      exact ⟨holds.2 store (List.mem_cons_self _ _),
        fun later stored => holds.2 later (List.mem_cons_of_mem _ stored)⟩
  | probeTick | broadcastTick | advance =>
    simp only [Daemon.step] at stepped
    split at stepped <;> cases stepped
    exact holds
  | versionChanged | refresh =>
    cases stepped
    exact holds

/-- What a step sends: a broadcast tick, datagrams to port 6112 of the LAN's broadcast
address; any other step, probes of the probe engine as the step leaves it. -/
theorem Daemon.step_sent (cfg : Config) (orders : Orders) (d : Daemon) (event : Event)
    {next : Daemon} {sent : List Datagram} (stepped : d.step cfg orders event = some (next, sent))
    (datagram : Datagram) (member : datagram ∈ sent) :
    (event = .broadcastTick ∧ datagram.dst = ⟨Addr.broadcast, defaultPort⟩) ∨
      (event ≠ .broadcastTick ∧ datagram ∈ next.manager.probeAllPeers) := by
  cases event with
  | netMap _ | refresh =>
    cases stepped
    exact .inr ⟨nofun, member⟩
  | ingest _ _ | versionChanged _ =>
    cases stepped
    cases member
  | uiStore =>
    simp only [Daemon.step] at stepped
    split at stepped <;> cases stepped
    cases member
  | probeTick | advance =>
    simp only [Daemon.step] at stepped
    split at stepped
    · cases stepped
      first
        | exact .inr ⟨nofun, member⟩
        | cases member
    · cases stepped
  | broadcastTick =>
    simp only [Daemon.step] at stepped
    split at stepped
    · cases stepped
      obtain ⟨payload, -, rfl⟩ := List.mem_map.mp member
      exact .inl ⟨rfl, rfl⟩
    · cases stepped

/-- A broadcast tick sends the packets of the broadcaster's tick. -/
theorem Daemon.broadcastTick_sent (cfg : Config) (orders : Orders) (d : Daemon) {next : Daemon}
    {sent : List Datagram} (stepped : d.step cfg orders .broadcastTick = some (next, sent))
    {datagram : Datagram} (member : datagram ∈ sent) :
    datagram.payload ∈ (d.broadcaster.broadcastGames (orders.previous _)).2 := by
  simp only [Daemon.step] at stepped
  split at stepped
  · cases stepped
    obtain ⟨payload, packet, rfl⟩ := List.mem_map.mp member
    exact packet
  · cases stepped

/-- An ingest keeps the proxy port. -/
theorem Daemon.ingest_proxyPort (d : Daemon) (orders : Orders) (datagram : Bytes) (sender : Addr) :
    (d.ingest orders datagram sender).broadcaster.proxyPort = d.broadcaster.proxyPort := by
  unfold Daemon.ingest
  split <;> rfl

/-- No step changes the proxy port the broadcaster writes into announcements. -/
theorem Daemon.step_proxyPort (cfg : Config) (orders : Orders) (d : Daemon) (event : Event)
    {next : Daemon} {sent : List Datagram} (stepped : d.step cfg orders event = some (next, sent)) :
    next.broadcaster.proxyPort = d.broadcaster.proxyPort := by
  cases event with
  | ingest datagram sender =>
    cases stepped
    exact d.ingest_proxyPort orders datagram sender
  | probeTick | broadcastTick | uiStore | advance =>
    simp only [Daemon.step] at stepped
    split at stepped <;> cases stepped
    rfl
  | netMap | versionChanged | refresh =>
    cases stepped
    rfl

/-! ### A broadcast tick announces every remote game -/

/-- In step with the registry, a broadcast tick sends a RefreshGame for every Remote game the
registry holds. -/
theorem Daemon.broadcastTick_refreshes (cfg : Config) (orders : Orders) (d : Daemon)
    {next : Daemon} {sent : List Datagram}
    (stepped : d.step cfg orders .broadcastTick = some (next, sent)) (synced : d.Synced)
    {g : Game} (filed : d.manager.registry.games.lookup g.key = some g)
    (remote : g.source = .sourceRemote) :
    ⟨⟨Addr.broadcast, defaultPort⟩,
      sendRefreshGame g.info.hostCounter g.info.slotsUsed g.info.slotsAvailable⟩ ∈ sent := by
  simp only [Daemon.step] at stepped
  split at stepped
  · cases stepped
    obtain ⟨withdrawals, packets, -⟩ := broadcastGames_packets d.broadcaster (orders.previous _)
    have cached : g ∈ d.broadcaster.games :=
      synced.symm.subset (List.mem_map.mpr ⟨(g.key, g), GoMap.lookup_eq_some_iff.mp filed, rfl⟩)
    refine List.mem_map.mpr ⟨_, ?_, rfl⟩
    rw [packets]
    refine List.mem_append_left _
      (List.mem_flatMap.mpr ⟨g, List.mem_filter.mpr ⟨cached, by simpa using remote⟩, ?_⟩)
    simp [tickPackets, sendRefreshGame]
  · cases stepped

/-! ### Runs -/

section Runs

variable (cfg : Config) (schedule : Nat → Orders)

/-- The run's first step, and the rest of the run from where it leaves the daemon. -/
theorem Daemon.run_cons {n : Nat} {d final : Daemon} {event : Event} {rest : List Event}
    {sent : List (Time × Datagram)}
    (ran : d.run cfg schedule n (event :: rest) = some (final, sent)) :
    ∃ next stepSent laterSent, d.step cfg (schedule n) event = some (next, stepSent) ∧
      next.run cfg schedule (n + 1) rest = some (final, laterSent) := by
  simp only [Daemon.run] at ran
  split at ran
  · cases ran
  · rename_i next stepSent stepped
    obtain ⟨⟨final', laterSent⟩, later, equal⟩ := Option.map_eq_some'.mp ran
    cases equal
    exact ⟨next, stepSent, laterSent, stepped, later⟩

theorem Daemon.run_synced {n : Nat} {d final : Daemon} {events : List Event}
    {sent : List (Time × Datagram)} (ran : d.run cfg schedule n events = some (final, sent))
    (synced : d.Synced) : final.Synced := by
  induction events generalizing n d sent with
  | nil =>
    cases ran
    exact synced
  | cons event rest inductionHypothesis =>
    obtain ⟨next, _, _, stepped, later⟩ := Daemon.run_cons cfg schedule ran
    exact inductionHypothesis later (d.step_synced cfg _ event stepped synced)

/-- A run with no datagram at the probe engine's socket leaves the registry as it is. -/
theorem Daemon.run_registry {n : Nat} {d final : Daemon} {events : List Event}
    {sent : List (Time × Datagram)} (ran : d.run cfg schedule n events = some (final, sent))
    (silent : ∀ event ∈ events, ∀ datagram sender, event ≠ .ingest datagram sender) :
    final.manager.registry = d.manager.registry := by
  induction events generalizing n d sent with
  | nil =>
    cases ran
    rfl
  | cons event rest inductionHypothesis =>
    obtain ⟨next, _, _, stepped, later⟩ := Daemon.run_cons cfg schedule ran
    rw [inductionHypothesis later fun other member => silent other (List.mem_cons_of_mem _ member),
      d.step_registry cfg _ event stepped (silent event (List.mem_cons_self _ _))]

/-- Once a Remote game is filed, and however long its peer stays silent, every broadcast
tick announces it again: nothing in the daemon takes it out of the registry or out of the
broadcaster's cache. -/
theorem Daemon.silent_game_refreshed {n : Nat} {d final next : Daemon} {events : List Event}
    {sent : List (Time × Datagram)} {tickSent : List Datagram} (synced : d.Synced) {g : Game}
    (filed : d.manager.registry.games.lookup g.key = some g) (remote : g.source = .sourceRemote)
    (ran : d.run cfg schedule n events = some (final, sent))
    (silent : ∀ event ∈ events, ∀ datagram sender, event ≠ .ingest datagram sender)
    (tick : final.step cfg (schedule (n + events.length)) .broadcastTick = some (next, tickSent)) :
    ⟨⟨Addr.broadcast, defaultPort⟩,
      sendRefreshGame g.info.hostCounter g.info.slotsUsed g.info.slotsAvailable⟩ ∈ tickSent :=
  final.broadcastTick_refreshes cfg _ tick (Daemon.run_synced cfg schedule ran synced)
    (by rw [Daemon.run_registry cfg schedule ran silent]; exact filed) remote

end Runs

/-! ### What the daemon probes after a network map -/

/-- A step of the daemon that takes no network map. -/
def Daemon.QuietStep (cfg : Config) (d next : Daemon) : Prop :=
  ∃ orders event sent, (∀ nm storesBefore, event ≠ .netMap nm storesBefore) ∧
    d.step cfg orders event = some (next, sent)

section Probes

variable (cfg : Config) {nm : NetworkMap}

/-- Steps without a network map keep the probe engine's peers within what `allowed` admits. -/
theorem Daemon.quiet_peersWithin {d d' : Daemon} {allowed : Peer → Prop}
    (reaches : Relation.ReflTransGen (Daemon.QuietStep cfg) d d') (holds : d.PeersWithin allowed) :
    d'.PeersWithin allowed := by
  induction reaches with
  | refl => exact holds
  | tail _ quietStep within =>
    obtain ⟨orders, event, sent, quiet, stepped⟩ := quietStep
    exact Daemon.step_peersWithin cfg orders _ event stepped
      (fun nm storesBefore mapped => absurd mapped (quiet nm storesBefore)) within

/-- A step without a network map, from a daemon whose peers sit at probe addresses of `nm`,
sends LAN broadcasts and probe targets of `nm` under the version the step leaves. -/
theorem Daemon.step_sent_probeTargets {orders : Orders} {d next : Daemon} {event : Event}
    {sent : List Datagram} (stepped : d.step cfg orders event = some (next, sent))
    (quiet : ∀ nm' storesBefore, event ≠ .netMap nm' storesBefore)
    (holds : d.PeersWithin fun peer => peer.ip ∈ probeIPs nm) :
    ∀ datagram ∈ sent, datagram.dst = ⟨Addr.broadcast, defaultPort⟩ ∨
      datagram ∈ probeTargets nm next.manager.version := by
  have within := d.step_peersWithin cfg orders event stepped
    (fun nm' storesBefore mapped => absurd mapped (quiet nm' storesBefore)) holds
  intro datagram member
  rcases d.step_sent cfg orders event stepped datagram member with ⟨-, broadcast⟩ | ⟨-, probe⟩
  · exact .inl broadcast
  · exact .inr (next.manager.probeAllPeers_subset within.1 datagram probe)

/-- After a network map, and until the next one, every datagram the daemon's probe engine and
broadcaster send is a LAN broadcast or one of the map's probe targets under the probe engine's
version at that step; the map's own step sends its probe targets under the version the daemon
holds. No node the map does not list as probed, and no other address of a probed node, is
probed, whatever stores of the UI's sort come between. -/
theorem Daemon.probes_after_netMap {orders orders' : Orders} {d₀ d d' next : Daemon}
    {storesBefore : Nat} {event : Event} {mapSent sent : List Datagram}
    (mapped : d₀.step cfg orders (.netMap nm storesBefore) = some (d, mapSent))
    (reaches : Relation.ReflTransGen (Daemon.QuietStep cfg) d d')
    (quiet : ∀ nm' storesBefore', event ≠ .netMap nm' storesBefore')
    (stepped : d'.step cfg orders' event = some (next, sent)) :
    (∀ datagram ∈ mapSent, datagram ∈ probeTargets nm d.manager.version) ∧
      ∀ datagram ∈ sent, datagram.dst = ⟨Addr.broadcast, defaultPort⟩ ∨
        datagram ∈ probeTargets nm next.manager.version := by
  have atMap : d.PeersWithin fun peer => peer.ip ∈ probeIPs nm :=
    (d₀.netMap_peersWithin cfg orders mapped).mono fun _ => ip_mem_of_mem_extractPeers
  refine ⟨fun datagram member => ?_,
    Daemon.step_sent_probeTargets cfg stepped quiet (Daemon.quiet_peersWithin cfg reaches atMap)⟩
  rcases d₀.step_sent cfg orders _ mapped datagram member with ⟨mapTick, -⟩ | ⟨-, probe⟩
  · cases mapTick
  · exact d.manager.probeAllPeers_subset atMap.1 datagram probe

end Probes

/-- The orders of a runtime that ranges over maps in the order they are stored. -/
def storedOrders : Orders := ⟨fun r => GoMap.Order.stored r.games, GoMap.Order.stored⟩

/-- A network map whose Linux node is listed before its Windows node, both online. -/
def linuxWindowsMap : NetworkMap :=
  ⟨none, [⟨true, some true, [], some "linux", [.v4 ⟨100, 64, 0, 2⟩], "a"⟩,
    ⟨true, some true, [], some "windows", [.v4 ⟨100, 64, 0, 3⟩], "b"⟩]⟩

theorem Daemon.probes_after_netMap_linux_windows :
    ∃ d d' next mapSent sent,
      (Daemon.initial Config.default 6113).step Config.default storedOrders
          (.netMap linuxWindowsMap 0) = some (d, mapSent) ∧
        Relation.ReflTransGen (Daemon.QuietStep Config.default) d d' ∧
        d'.step Config.default storedOrders .probeTick = some (next, sent) ∧
        (∀ datagram ∈ mapSent, datagram ∈ probeTargets linuxWindowsMap d.manager.version) ∧
        ∀ datagram ∈ sent, datagram.dst = ⟨Addr.broadcast, defaultPort⟩ ∨
          datagram ∈ probeTargets linuxWindowsMap next.manager.version := by
  obtain ⟨d, mapSent, stored, _, d', _, next, sent, mapped, sorted, waited, ticked⟩ :
      ∃ d mapSent stored storeSent d' waitSent next sent,
        (Daemon.initial Config.default 6113).step Config.default storedOrders
            (.netMap linuxWindowsMap 0) = some (d, mapSent) ∧
          d.step Config.default storedOrders .uiStore = some (stored, storeSent) ∧
          stored.step Config.default storedOrders (.advance 2000000000) = some (d', waitSent) ∧
          d'.step Config.default storedOrders .probeTick = some (next, sent) :=
    ⟨_, _, _, _, _, _, _, _, rfl, rfl, rfl, rfl⟩
  have reaches : Relation.ReflTransGen (Daemon.QuietStep Config.default) d d' :=
    .tail (.single ⟨_, .uiStore, _, fun _ _ => nofun, sorted⟩)
      ⟨_, .advance 2000000000, _, fun _ _ => nofun, waited⟩
  have quiet : ∀ nm storesBefore, Event.probeTick ≠ .netMap nm storesBefore := fun _ _ => nofun
  exact ⟨d, d', next, mapSent, sent, mapped, reaches, ticked,
    Daemon.probes_after_netMap Config.default mapped reaches quiet ticked⟩

/-! ### A probe round during the UI's sort -/

/-- `OnPeersChanged` copies the slice before the UI's sort stores into it and probes the Linux
node, then the Windows node. The probe tick at 2 s comes after the sort's first store, which
put the Linux node over the Windows one: it probes the Linux node twice and the Windows node
not at all. The one at 4 s, after the sort, probes them in OS order. -/
theorem probe_tick_mid_sort_skips_peer :
    ((Daemon.initial Config.default 6113).run Config.default (fun _ => storedOrders) 0
        [.netMap linuxWindowsMap 0, .uiStore, .advance (2 * second.toNat), .probeTick, .uiStore,
          .advance second.toNat, .broadcastTick, .advance second.toNat, .probeTick]).map
      (fun result => result.2.map fun entry => (entry.1 / second.toNat, entry.2.dst.ip)) =
      some [(0, Addr.loopback), (0, ⟨100, 64, 0, 2⟩), (0, ⟨100, 64, 0, 3⟩),
        (2, Addr.loopback), (2, ⟨100, 64, 0, 2⟩), (2, ⟨100, 64, 0, 2⟩),
        (4, Addr.loopback), (4, ⟨100, 64, 0, 3⟩), (4, ⟨100, 64, 0, 2⟩)] := by
  decide

/-! ### A silent peer's game -/

/-- With `config.Default`, a peer answers once, at time zero, and then stays silent while
both tickers keep firing. A sweep with `GameTimeout` would have dropped the game by
`10 s + 2 s + 3 s`; the broadcast tick at 18 s still sends its announcement and its
RefreshGame, and the registry still holds the entry last seen at time zero. -/
theorem daemon_announces_silent_game :
    let cfg : Config := Config.default
    let info : GameInfo := ⟨⟨productTFT, 26⟩, 1, 0, "g", [], 12, 0, 1, 11, 0, 6112⟩
    let datagram := [0xF7, 0x30, 46, 0] ++ info.layout [0x67]
    let s := second.toNat
    let sixSeconds : List Event := [.advance (2 * s), .probeTick, .advance s, .broadcastTick,
      .advance s, .probeTick, .advance (2 * s), .probeTick, .broadcastTick]
    ((Daemon.initial cfg 6113).run cfg (fun _ => ⟨fun r => GoMap.Order.stored r.games,
        GoMap.Order.stored⟩) 0
      (.ingest datagram ⟨100, 64, 0, 2⟩ :: (List.replicate 3 sixSeconds).flatten)).map
        (fun result => ((result.1.manager.registry.games.lookup "100.64.0.2:g").map (·.lastSeen),
          result.2.contains (18 * s, ⟨⟨Addr.broadcast, defaultPort⟩, rewritePort datagram 6113⟩),
          result.2.contains (18 * s, ⟨⟨Addr.broadcast, defaultPort⟩, sendRefreshGame 1 1 11⟩))) =
      some (some 0, true, true) := by
  decide

end Wc3ts

import Wc3ts.Fabric.Network

/-!
Origin fidelity. In every world the fabric reaches, every Remote entry of a node's registry
holds, byte for byte, an announcement produced by the game client of the node at its
`PeerIP`, which is another node, and decodes to the entry's `Info`; so the TCP proxy dials
that node at the game port its own client announced.

The proof is an invariant over the datagrams in flight and the registries. A datagram to a
probe engine carries an announcement of its writer's client, written on loopback within a
node or from the writer's overlay address to another node. A datagram to port 6112 is a
query of a probe engine, on loopback or from one node's overlay address to another's, or a
broadcaster's. Each kind of step keeps the invariant, and the announcement lists only grow.

The same invariant says where the TCP proxy dials: for a Join, to another node, at the game
port its own client announced for a game with the Join's host counter.
-/

namespace Wc3ts

variable {Node : Type}

/-! ### The invariant -/

/-- A datagram to a probe engine: it carries an announcement its writer's client produced,
fits the buffer, and was written on loopback within a node or from the writer's overlay
address to another node. -/
def Tailnet.ReplyFrom (t : Tailnet Node) (announced : Node → List Bytes) (wire : Wire Node) :
    Prop :=
  wire.payload ∈ announced wire.srcNode ∧ wire.payload.length ≤ udpBufferSize ∧
    ((wire.src.ip = Addr.loopback ∧ wire.dstNode = wire.srcNode) ∨
      (wire.src.ip = t.addr wire.srcNode ∧ wire.dstNode ≠ wire.srcNode))

/-- A datagram to port 6112: a probe engine's query, on loopback within a node or from one
node's overlay address to another's, or a broadcaster's datagram. -/
def Tailnet.QueryFrom (t : Tailnet Node) (wire : Wire Node) : Prop :=
  (wire.src.port = t.probePort wire.srcNode ∧
    ((wire.dst.ip = Addr.loopback ∧ wire.src.ip = Addr.loopback ∧
        wire.dstNode = wire.srcNode) ∨
      (wire.dst.ip = t.addr wire.dstNode ∧ wire.src.ip = t.addr wire.srcNode ∧
        wire.dstNode ≠ wire.srcNode))) ∨
    wire.src.port = t.broadcastPort wire.srcNode

/-- A datagram in flight, by the socket it is addressed to. -/
def Tailnet.WireOk (t : Tailnet Node) (announced : Node → List Bytes) (wire : Wire Node) : Prop :=
  (wire.dst.port = t.probePort wire.dstNode → t.ReplyFrom announced wire) ∧
    (wire.dst.port = defaultPort → t.QueryFrom wire)

/-- An entry of node `a`'s registry: it fits the buffer, decodes to its `Info`, and is an
announcement of `a`'s own client if Local, of the client of another node at its `PeerIP` if
Remote. -/
def Tailnet.EntryOk (t : Tailnet Node) (announced : Node → List Bytes) (a : Node) (g : Game) :
    Prop :=
  g.rawData.length ≤ udpBufferSize ∧
    (∃ size, deserialize g.rawData = some (.gameInfo g.info, size)) ∧
    ((g.source = .sourceLocal ∧ g.rawData ∈ announced a) ∨
      (g.source = .sourceRemote ∧
        ∃ c, c ≠ a ∧ g.peerIP = t.addr c ∧ g.rawData ∈ announced c))

/-- What holds in every reachable world. -/
structure Tailnet.Invariant (t : Tailnet Node) (w : World Node) : Prop where
  wires : ∀ wire ∈ w.sent, t.WireOk w.announced wire
  entries : ∀ a key g, (w.daemons a).manager.registry.games.lookup key = some g →
    t.EntryOk w.announced a g
  peers : ∀ a, (w.daemons a).PeersWithin fun peer => ∃ c, c ≠ a ∧ peer.ip = t.addr c
  hosted : ∀ a raw, w.hosted a = some raw →
    raw ∈ w.announced a ∧ raw.length ≤ udpBufferSize

/-! ### Facts about addresses and announcement lists -/

section Facts

theorem Tailnet.addr_ne_loopback (t : Tailnet Node) (node : Node) : t.addr node ≠ Addr.loopback :=
  fun same => by simpa [same, Addr.isLoopback, Addr.loopback] using t.notLoopback node

theorem Tailnet.nodeAt_addr (t : Tailnet Node) (node : Node) : t.nodeAt (t.addr node) = some node :=
  (t.nodeAt_eq_some_iff _ _).mpr rfl

variable {t : Tailnet Node}

/-- A query's source port is never 6112. -/
theorem Tailnet.QueryFrom.src_port_ne {wire : Wire Node} (query : t.QueryFrom wire) :
    wire.src.port ≠ defaultPort := by
  rcases query with ⟨probe, -⟩ | broadcast
  · exact probe ▸ t.probePort_ne_defaultPort _
  · exact broadcast ▸ t.broadcastPort_ne_defaultPort _

variable {announced announced' : Node → List Bytes}

theorem Tailnet.WireOk.mono (grows : ∀ n, announced n ⊆ announced' n) {wire : Wire Node}
    (ok : t.WireOk announced wire) : t.WireOk announced' wire :=
  ⟨fun toProbe => let reply := ok.1 toProbe; ⟨grows _ reply.1, reply.2⟩, ok.2⟩

theorem Tailnet.EntryOk.mono (grows : ∀ n, announced n ⊆ announced' n) {a : Node} {g : Game}
    (ok : t.EntryOk announced a g) : t.EntryOk announced' a g := by
  obtain ⟨fits, decodes, ⟨isLocal, member⟩ | ⟨remote, c, other, at_, member⟩⟩ := ok
  · exact ⟨fits, decodes, .inl ⟨isLocal, grows _ member⟩⟩
  · exact ⟨fits, decodes, .inr ⟨remote, c, other, at_, grows _ member⟩⟩

end Facts

/-! ### Each step keeps the invariant -/

section Steps

variable (t : Tailnet Node) (cfg : Config) {w : World Node}

theorem Tailnet.invariant_initial (proxyPort : Node → UInt16) :
    t.Invariant (World.initial cfg proxyPort) where
  wires := by simp [World.initial]
  entries := by simp [World.initial, Daemon.initial, newManager, Manager.setVersion, newRegistry]
  peers a := Daemon.initial_peersWithin cfg (proxyPort a) _
  hosted := by simp [World.initial]

variable {t}

/-- New datagrams that satisfy the invariant's condition keep it. -/
theorem Tailnet.Invariant.send (holds : t.Invariant w) {more : List (Wire Node)}
    (ok : ∀ wire ∈ more, t.WireOk w.announced wire) :
    t.Invariant { w with sent := w.sent ++ more } where
  wires wire member := (List.mem_append.mp member).elim (holds.wires wire) (ok wire)
  entries := holds.entries
  peers := holds.peers
  hosted := holds.hosted

/-- A node's daemon replaced by one whose entries and peers satisfy the invariant keeps it. -/
theorem Tailnet.Invariant.setDaemon [DecidableEq Node] (holds : t.Invariant w) {n : Node}
    {next : Daemon}
    (entries : ∀ key g, next.manager.registry.games.lookup key = some g →
      t.EntryOk w.announced n g)
    (peers : next.PeersWithin fun peer => ∃ c, c ≠ n ∧ peer.ip = t.addr c) :
    t.Invariant { w with daemons := Function.update w.daemons n next } where
  wires := holds.wires
  entries a := by
    by_cases here : a = n
    · subst here
      simpa only [Function.update_same] using entries
    · simpa only [Function.update_noteq here] using holds.entries a
  peers a := by
    by_cases here : a = n
    · subst here
      simpa only [Function.update_same] using peers
    · simpa only [Function.update_noteq here] using holds.peers a
  hosted := holds.hosted

variable (t)

/-- A routed probe or broadcast is a query or a broadcaster's datagram. -/
theorem Tailnet.route_queryFrom (n : Node) (d : Daemon) (event : Event)
    (peers : ∀ peer ∈ d.manager.peers, ∃ c, c ≠ n ∧ peer.ip = t.addr c)
    (datagram : Datagram)
    (sent : (event = .broadcastTick ∧ datagram.dst = ⟨Addr.broadcast, defaultPort⟩) ∨
      (event ≠ .broadcastTick ∧ datagram ∈ d.manager.probeAllPeers))
    {wire : Wire Node} (routed : t.route n (t.portOf n event) datagram = some wire) :
    wire.dst = datagram.dst ∧ datagram.dst.port = defaultPort ∧ t.QueryFrom wire := by
  rcases sent with ⟨rfl, toBroadcast⟩ | ⟨notTick, probe⟩
  · simp only [Tailnet.route, toBroadcast, show Addr.broadcast ≠ Addr.loopback by decide,
      if_false, if_true, Option.some.injEq] at routed
    subst routed
    exact ⟨toBroadcast.symm, by rw [toBroadcast], .inr rfl⟩
  · have port : t.portOf n event = t.probePort n := by
      cases event <;> first | rfl | exact absurd rfl notTick
    obtain ⟨-, -, toPort, local_ | ⟨peer, peerMember, -, peerIP⟩⟩ :=
      mem_probeAllPeers _ _ probe
    · simp only [Tailnet.route, local_, if_true, port, Option.some.injEq] at routed
      subst routed
      exact ⟨rfl, toPort, .inl ⟨rfl, .inl ⟨local_, rfl, rfl⟩⟩⟩
    · obtain ⟨c, other, at_⟩ := peers peer peerMember
      simp only [Tailnet.route, ← peerIP, at_, t.addr_ne_loopback, t.notBroadcast, if_false,
        t.nodeAt_addr, Option.map_some', port, Option.some.injEq] at routed
      subst routed
      exact ⟨rfl, toPort, .inl ⟨rfl, .inr ⟨by rw [← peerIP, at_], rfl, other⟩⟩⟩

theorem Tailnet.invariant_daemonStep [DecidableEq Node] (n : Node) (orders : Orders)
    (event : Event) (notIngest : ∀ datagram sender, event ≠ .ingest datagram sender)
    (overlayPeers : ∀ nm storesBefore, event = .netMap nm storesBefore →
      ∀ view ∈ nm.peers, ∀ ip, NodeAddr.v4 ip ∈ view.addresses → ∃ c, c ≠ n ∧ t.addr c = ip)
    (holds : t.Invariant w) : t.Invariant (w.daemonStep t cfg n orders event) := by
  unfold World.daemonStep
  split
  · rename_i next out stepped
    have nextPeers := (w.daemons n).step_peersWithin cfg orders event stepped
      (fun nm storesBefore mapped peer member => by
        obtain ⟨-, view, viewMember, address⟩ :=
          updateFromNetMap_peers newDiscovery nm peer member
        obtain ⟨c, other, at_⟩ := overlayPeers nm storesBefore mapped view viewMember peer.ip address
        exact ⟨c, other, at_.symm⟩) (holds.peers n)
    have registry := (w.daemons n).step_registry cfg orders event stepped notIngest
    refine (holds.setDaemon (by simpa only [registry] using holds.entries n) nextPeers).send
      fun wire new => ?_
    obtain ⟨datagram, out_, routed⟩ := List.mem_filterMap.mp new
    obtain ⟨toDst, toPort, query⟩ := t.route_queryFrom n next event nextPeers.1 datagram
      ((w.daemons n).step_sent cfg orders event stepped datagram out_) routed
    exact ⟨fun toProbe => absurd (toProbe.symm.trans (toDst ▸ toPort))
      (t.probePort_ne_defaultPort _), fun _ => query⟩
  · exact holds

theorem Tailnet.invariant_ingest [DecidableEq Node] (n : Node) (orders : Orders)
    (wire : Wire Node) (member : wire ∈ w.sent)
    (toProbeEngine : wire.dstNode = n ∧ wire.dst.port = t.probePort n)
    (holds : t.Invariant w) : t.Invariant (w.ingest n orders wire) := by
  obtain ⟨fromClient, fits, origin⟩ :=
    (holds.wires wire member).1 (toProbeEngine.1 ▸ toProbeEngine.2)
  refine holds.setDaemon (fun key g found => ?_)
    (by simpa only [Daemon.PeersWithin, Daemon.ingest_manager, Manager.receive_peers,
      Daemon.ingest_sorting] using holds.peers n)
  rw [Daemon.ingest_manager] at found
  rcases Manager.receive_lookup _ found with old | ⟨info, size, decoded, rfl⟩
  · exact holds.entries n key g old
  rw [List.take_of_length_le fits] at decoded ⊢
  refine ⟨by simpa using fits, ⟨size, by simpa using decoded⟩, ?_⟩
  simp only [Registry.stamped_source, Registry.stamped_rawData, Registry.stamped_peerIP,
    Manager.gameOf_source, Manager.gameOf_rawData, Manager.gameOf_peerIP]
  rcases origin with ⟨loopback, local_⟩ | ⟨overlay, other⟩
  · refine .inl ⟨by simp [loopback, Addr.isLoopback, Addr.loopback], ?_⟩
    rwa [← toProbeEngine.1, local_]
  · exact .inr ⟨by simp [overlay, t.notLoopback], wire.srcNode,
      fun same => other (toProbeEngine.1.trans same.symm), overlay, fromClient⟩

theorem Tailnet.invariant_respond (n : Node)
    (order : (w.daemons n).manager.registry.games.Order) (wire : Wire Node)
    (member : wire ∈ w.sent)
    (toResponder : wire.dstNode = n ∧ wire.dst = ⟨t.addr n, defaultPort⟩)
    (holds : t.Invariant w) : t.Invariant (w.respond n order wire) := by
  have query := (holds.wires wire member).2 (by rw [toResponder.2])
  refine holds.send fun reply new => ?_
  obtain ⟨answer, answered, rfl⟩ := List.mem_map.mp new
  obtain ⟨toQuerier, g, found, isLocal, payload⟩ := mem_respond _ _ _ _ answer answered
  obtain ⟨fits, -, ⟨-, fromClient⟩ | ⟨remote, -⟩⟩ := holds.entries n g.key g found
  · refine ⟨fun toProbe => ⟨payload ▸ fromClient, payload ▸ fits, ?_⟩,
      fun toGame => absurd (toQuerier ▸ toGame) query.src_port_ne⟩
    rcases query with ⟨-, ⟨loopback, -⟩ | ⟨-, -, other⟩⟩ | broadcast
    · rw [toResponder.2] at loopback
      exact absurd loopback (t.addr_ne_loopback n)
    · exact .inr ⟨by simp [toResponder.2], fun same => other (toResponder.1.trans same.symm)⟩
    · simp only [toQuerier] at toProbe
      exact absurd (toProbe.symm.trans broadcast) (t.probePort_ne_broadcastPort _)
  · rw [isLocal] at remote
    cases remote

theorem Tailnet.invariant_answer (n : Node) (wire : Wire Node) (member : wire ∈ w.sent)
    (toClient : wire.dstNode = n ∧ wire.dst.port = defaultPort) (holds : t.Invariant w) :
    t.Invariant (w.answer n wire) := by
  unfold World.answer
  split
  · rename_i raw hosting
    obtain ⟨fromClient, fits⟩ := holds.hosted n raw hosting
    have query := (holds.wires wire member).2 toClient.2
    refine holds.send fun reply new => ?_
    rw [List.mem_singleton] at new
    subst new
    refine ⟨fun toProbe => ⟨fromClient, fits, ?_⟩,
      fun toGame => absurd toGame query.src_port_ne⟩
    rcases query with ⟨-, ⟨loopback, -, local_⟩ | ⟨overlay, -, other⟩⟩ | broadcast
    · exact .inl ⟨loopback, local_.symm.trans toClient.1⟩
    · exact .inr ⟨by rw [overlay, toClient.1], fun same => other (toClient.1.trans same.symm)⟩
    · exact absurd (toProbe.symm.trans broadcast) (t.probePort_ne_broadcastPort _)
  · exact holds

theorem Tailnet.invariant_host [DecidableEq Node] (n : Node) (raw : Bytes)
    (fits : raw.length ≤ udpBufferSize) (holds : t.Invariant w) : t.Invariant (w.host n raw) := by
  have grows := w.announced_subset_host n raw
  refine ⟨fun wire member => (holds.wires wire member).mono grows,
    fun a key g found => (holds.entries a key g found).mono grows, holds.peers, fun a other => ?_⟩
  by_cases here : a = n
  · subst here
    simp only [World.host, Function.update_same, Option.some.injEq]
    rintro rfl
    exact ⟨List.mem_cons_self _ _, fits⟩
  · simpa only [World.host, Function.update_noteq here] using holds.hosted a other

theorem Tailnet.invariant_unhost [DecidableEq Node] (n : Node) (holds : t.Invariant w) :
    t.Invariant (w.unhost n) := by
  refine ⟨holds.wires, holds.entries, holds.peers, fun a raw => ?_⟩
  by_cases here : a = n
  · subst here
    simp [World.unhost]
  · simpa only [World.unhost, Function.update_noteq here] using holds.hosted a raw

theorem Tailnet.invariant_step [DecidableEq Node] {w w' : World Node}
    (step : World.Step t cfg w w') (holds : t.Invariant w) : t.Invariant w' := by
  cases step with
  | daemon n orders event notIngest overlayPeers =>
    exact t.invariant_daemonStep cfg n orders event notIngest overlayPeers holds
  | ingest n orders wire member toProbeEngine =>
    exact t.invariant_ingest n orders wire member toProbeEngine holds
  | respond n order wire member toResponder =>
    exact t.invariant_respond n order wire member toResponder holds
  | answer n wire member toClient _ => exact t.invariant_answer n wire member toClient holds
  | host n raw fits => exact t.invariant_host n raw fits holds
  | unhost n => exact t.invariant_unhost n holds

theorem Tailnet.invariant_reachable [DecidableEq Node] {proxyPort : Node → UInt16}
    (reachable : World.Reachable t cfg proxyPort w) : t.Invariant w := by
  induction reachable with
  | initial => exact t.invariant_initial cfg proxyPort
  | step _ step inductionHypothesis => exact t.invariant_step cfg step inductionHypothesis

end Steps

/-! ### Two nodes -/

/-- Node 0 at 100.64.0.1 and node 1 at 100.64.0.2. -/
def pairAddr (node : Fin 2) : Addr := if node = 0 then ⟨100, 64, 0, 1⟩ else ⟨100, 64, 0, 2⟩

/-- Two nodes whose probe engines use port 50000 and broadcasters port 50001. -/
def pairTailnet : Tailnet (Fin 2) where
  addr := pairAddr
  nodeAt ip := if ip = pairAddr 0 then some 0 else if ip = pairAddr 1 then some 1 else none
  nodeAt_eq_some_iff ip node := by
    by_cases first : ip = pairAddr 0
    · subst first
      revert node
      decide
    by_cases second : ip = pairAddr 1
    · subst second
      revert node
      decide
    simp only [if_neg first, if_neg second]
    refine ⟨nofun, fun same => ?_⟩
    unfold pairAddr at same
    split at same
    · exact (first same.symm).elim
    · exact (second same.symm).elim
  notLoopback := by decide
  notBroadcast := by decide
  lanAddr _ := ⟨192, 168, 1, 10⟩
  probePort _ := 50000
  broadcastPort _ := 50001
  probePort_ne_defaultPort := by decide
  broadcastPort_ne_defaultPort := by decide
  probePort_ne_broadcastPort := by decide

/-- The orders the map keeps its entries in. -/
def pairOrders : Orders := ⟨fun r => GoMap.Order.stored r.games, GoMap.Order.stored⟩

/-- The announcement of node 1's client: a 46-byte GameInfo frame for the game "g" on port
6112. -/
def pairAnnouncement : Bytes :=
  [0xF7, 0x30, 46, 0] ++
    GameInfo.layout ⟨⟨productTFT, 26⟩, 1, 0, "g", [], 12, 0, 1, 11, 0, 6112⟩ [0x67]

/-- The probe of `config.Default`'s version. -/
def pairProbe : Bytes := SearchGame.serialize ⟨Config.default.gameVersion, 0⟩

/-- Node 0's network map: node 1, online, under its overlay address. -/
def pairNetMap : NetworkMap :=
  ⟨none, [⟨true, some true, [], some "linux", [.v4 (pairAddr 1)], "b"⟩]⟩

theorem pairNetMap_peers : extractPeers pairNetMap = [⟨"b", pairAddr 1, true, "linux"⟩] := by
  decide

/-- Node 1's probe of itself, its client's answer, node 0's probe of node 1, and node 1's
responder's answer. -/
def pairLoopbackProbe : Wire (Fin 2) :=
  ⟨1, ⟨Addr.loopback, 50000⟩, 1, ⟨Addr.loopback, defaultPort⟩, pairProbe⟩

def pairLoopbackAnswer : Wire (Fin 2) :=
  ⟨1, ⟨Addr.loopback, defaultPort⟩, 1, ⟨Addr.loopback, 50000⟩, pairAnnouncement⟩

def pairOverlayProbe : Wire (Fin 2) :=
  ⟨0, ⟨pairAddr 0, 50000⟩, 1, ⟨pairAddr 1, defaultPort⟩, pairProbe⟩

def pairOverlayAnswer : Wire (Fin 2) :=
  ⟨1, ⟨pairAddr 1, defaultPort⟩, 0, ⟨pairAddr 0, 50000⟩, pairAnnouncement⟩

/-- Node 1's client hosts the game and answers its own daemon's loopback probe, which files it
as Local; node 0 learns of node 1 from its network map and probes it; node 1's responder
answers from the overlay address, and node 0 files the game as Remote. -/
def pairWorld : World (Fin 2) :=
  let hosting := (World.initial Config.default fun _ => 6113).host 1 pairAnnouncement
  let probed := hosting.daemonStep pairTailnet Config.default 1 pairOrders .refresh
  let filedLocal := (probed.answer 1 pairLoopbackProbe).ingest 1 pairOrders pairLoopbackAnswer
  let joined := filedLocal.daemonStep pairTailnet Config.default 0 pairOrders (.netMap pairNetMap 0)
  (joined.respond 1 (GoMap.Order.stored _) pairOverlayProbe).ingest 0 pairOrders pairOverlayAnswer

theorem pairWorld_reachable :
    World.Reachable pairTailnet Config.default (fun _ => 6113) pairWorld := by
  have start : World.Reachable pairTailnet Config.default (fun _ => 6113)
      (World.initial Config.default fun _ => 6113) := .initial
  have overlay : ∀ nm storesBefore, Event.netMap pairNetMap 0 = .netMap nm storesBefore →
      ∀ view ∈ nm.peers, ∀ ip, NodeAddr.v4 ip ∈ view.addresses →
        ∃ c, c ≠ 0 ∧ pairTailnet.addr c = ip := by
    rintro _ _ ⟨⟩ view member ip address
    simp only [pairNetMap, List.mem_singleton] at member
    subst member
    simp only [List.mem_singleton, NodeAddr.v4.injEq] at address
    exact ⟨1, by decide, address.symm⟩
  have hosting := start.step (.host _ 1 pairAnnouncement (by decide))
  have probed := hosting.step (.daemon _ 1 pairOrders .refresh (fun _ _ => nofun) fun _ _ => nofun)
  have answered := probed.step (.answer _ 1 pairLoopbackProbe (by decide) ⟨rfl, rfl⟩
    ⟨⟨Config.default.gameVersion, 0⟩, 16, by decide⟩)
  have filedLocal :=
    answered.step (.ingest _ 1 pairOrders pairLoopbackAnswer (by decide) ⟨rfl, rfl⟩)
  have joined :=
    filedLocal.step (.daemon _ 0 pairOrders (.netMap pairNetMap 0) (fun _ _ => nofun) overlay)
  have responded := joined.step (.respond _ 1 (GoMap.Order.stored _) pairOverlayProbe (by
    simp only [World.daemonStep, Daemon.step, Discovery.updateFromNetMap, pairNetMap_peers]
    decide) ⟨rfl, rfl⟩)
  exact responded.step (.ingest _ 0 pairOrders pairOverlayAnswer (by
    simp only [World.respond, World.daemonStep, Daemon.step, Discovery.updateFromNetMap,
      pairNetMap_peers]
    decide) ⟨rfl, rfl⟩)

/-- The game node 0 files. -/
def pairGame : Game :=
  ⟨⟨⟨productTFT, 26⟩, 1, 0, "g", [], 12, 0, 1, 11, 0, 6112⟩, pairAnnouncement,
    .sourceRemote, pairAddr 1, "b", 0, 0⟩

theorem pairWorld_filed :
    (pairWorld.daemons 0).manager.registry.games.lookup pairGame.key = some pairGame := by
  simp only [pairWorld, World.ingest, World.respond, World.daemonStep, Daemon.step,
    Discovery.updateFromNetMap, pairNetMap_peers]
  decide

/-! ### Origin fidelity -/

/-- In every reachable world, a Remote entry of node `a`'s registry holds an announcement of
the client of another node `c`, the node at its `PeerIP`, and decodes to its `Info`; the proxy
dials `c` at the game port of that announcement. -/
theorem origin_fidelity [DecidableEq Node] (t : Tailnet Node) (cfg : Config)
    (proxyPort : Node → UInt16) (w : World Node) (reachable : World.Reachable t cfg proxyPort w)
    (a : Node) (g : Game) (filed : (w.daemons a).manager.registry.games.lookup g.key = some g)
    (remote : g.source = .sourceRemote) :
    ∃ c, c ≠ a ∧ g.peerIP = t.addr c ∧ g.rawData ∈ w.announced c ∧
      (∃ size, deserialize g.rawData = some (.gameInfo g.info, size)) ∧
      connectToRemote g = ⟨t.addr c, g.info.gamePort⟩ := by
  obtain ⟨-, decodes, ⟨isLocal, -⟩ | ⟨-, c, other, at_, member⟩⟩ :=
    (t.invariant_reachable cfg reachable).entries a g.key g filed
  · rw [remote] at isLocal
    cases isLocal
  · exact ⟨c, other, at_, member, decodes, by rw [connectToRemote, at_]⟩

theorem origin_fidelity_pair :
    World.Reachable pairTailnet Config.default (fun _ => 6113) pairWorld ∧
      (pairWorld.daemons 0).manager.registry.games.lookup pairGame.key = some pairGame ∧
      pairGame.source = .sourceRemote ∧
      ∃ c, c ≠ 0 ∧ pairGame.peerIP = pairTailnet.addr c ∧
        pairGame.rawData ∈ pairWorld.announced c ∧
        (∃ size, deserialize pairGame.rawData = some (.gameInfo pairGame.info, size)) ∧
        connectToRemote pairGame = ⟨pairTailnet.addr c, pairGame.info.gamePort⟩ :=
  ⟨pairWorld_reachable, pairWorld_filed, rfl,
    origin_fidelity pairTailnet Config.default _ pairWorld pairWorld_reachable 0 pairGame
      pairWorld_filed rfl⟩

/-! ### No game travels more than one hop -/

/-- In every reachable world, every datagram written to a node's probe engine carries an
announcement of its writer's own game client, written on loopback within a node or from the
writer's overlay address to another node: a responder answers only with its own node's
games, so no node relays a game another node announced. -/
theorem Tailnet.probe_replies_from_writer [DecidableEq Node] (t : Tailnet Node) (cfg : Config)
    {proxyPort : Node → UInt16} {w : World Node} (reachable : World.Reachable t cfg proxyPort w)
    (wire : Wire Node) (member : wire ∈ w.sent)
    (toProbeEngine : wire.dst.port = t.probePort wire.dstNode) :
    wire.payload ∈ w.announced wire.srcNode ∧
      ((wire.src.ip = Addr.loopback ∧ wire.dstNode = wire.srcNode) ∨
        (wire.src.ip = t.addr wire.srcNode ∧ wire.dstNode ≠ wire.srcNode)) :=
  have reply := ((t.invariant_reachable cfg reachable).wires wire member).1 toProbeEngine
  ⟨reply.1, reply.2.2⟩

theorem Tailnet.probe_replies_from_writer_pair :
    World.Reachable pairTailnet Config.default (fun _ => 6113) pairWorld ∧
      pairOverlayAnswer ∈ pairWorld.sent ∧
      pairOverlayAnswer.dst.port = pairTailnet.probePort pairOverlayAnswer.dstNode ∧
      pairOverlayAnswer.payload ∈ pairWorld.announced pairOverlayAnswer.srcNode ∧
      ((pairOverlayAnswer.src.ip = Addr.loopback ∧
          pairOverlayAnswer.dstNode = pairOverlayAnswer.srcNode) ∨
        (pairOverlayAnswer.src.ip = pairTailnet.addr pairOverlayAnswer.srcNode ∧
          pairOverlayAnswer.dstNode ≠ pairOverlayAnswer.srcNode)) := by
  have member : pairOverlayAnswer ∈ pairWorld.sent := by decide
  have toProbeEngine : pairOverlayAnswer.dst.port = pairTailnet.probePort pairOverlayAnswer.dstNode :=
    rfl
  exact ⟨pairWorld_reachable, member, toProbeEngine, pairTailnet.probe_replies_from_writer
    Config.default pairWorld_reachable pairOverlayAnswer member toProbeEngine⟩

/-! ### The proxy dials the origin -/

/-- In every reachable world, when node `a`'s TCP proxy dials for a Join, whatever the Join
decoder, it dials another node `c` at the game port of an announcement `c`'s client produced
for a game with the Join's host counter, and writes there the bytes the client sent first. -/
theorem Tailnet.proxy_dials_origin [DecidableEq Node] (t : Tailnet Node) (cfg : Config)
    {proxyPort : Node → UInt16} {w : World Node} (reachable : World.Reachable t cfg proxyPort w)
    (a : Node) (order : (w.daemons a).manager.registry.games.Order)
    (joinHostCounter : Bytes → Option UInt32) (received : Bytes) {dial : Endpoint} {sent : Bytes}
    (handled : handleConnection (w.daemons a).manager.registry order joinHostCounter received =
      some (dial, sent)) :
    sent = readInitialPacket received ∧
      ∃ c, c ≠ a ∧ ∃ raw ∈ w.announced c, ∃ info size,
      deserialize raw = some (.gameInfo info, size) ∧
      joinHostCounter (readInitialPacket received) = some info.hostCounter ∧
      dial = ⟨t.addr c, info.gamePort⟩ := by
  obtain ⟨hostCounter, remoteGame, join, found, rfl, rfl⟩ :=
    (handleConnection_eq_some_iff _ _ _ _).mp handled
  obtain ⟨filed, remote, counter⟩ := Registry.findByHostCounter_some _ _ _ found
  obtain ⟨-, ⟨size, decodes⟩, ⟨isLocal, -⟩ | ⟨-, c, other, at_, member⟩⟩ :=
    (t.invariant_reachable cfg reachable).entries a _ _ filed
  · rw [remote] at isLocal
    cases isLocal
  · exact ⟨rfl, c, other, _, member, _, size, decodes, counter ▸ join,
      by rw [connectToRemote, at_]⟩


theorem Tailnet.proxy_dials_origin_pair :
    World.Reachable pairTailnet Config.default (fun _ => 6113) pairWorld ∧
      handleConnection (pairWorld.daemons 0).manager.registry (GoMap.Order.stored _)
        (fun _ => some 1) [] = some (connectToRemote pairGame, []) ∧
      [] = readInitialPacket [] ∧
      ∃ c, c ≠ 0 ∧ ∃ raw ∈ pairWorld.announced c, ∃ info size,
        deserialize raw = some (.gameInfo info, size) ∧ some 1 = some info.hostCounter ∧
        connectToRemote pairGame = ⟨pairTailnet.addr c, info.gamePort⟩ := by
  have handled : handleConnection (pairWorld.daemons 0).manager.registry (GoMap.Order.stored _)
      (fun _ => some 1) [] = some (connectToRemote pairGame, []) := by
    decide
  exact ⟨pairWorld_reachable, handled, pairTailnet.proxy_dials_origin Config.default
    pairWorld_reachable 0 (GoMap.Order.stored _) (fun _ => some 1) [] handled⟩

end Wc3ts

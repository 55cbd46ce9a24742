import Wc3ts.Fabric.Origin

/-!
What a node's game client hears on its LAN. In every world the fabric reaches, each datagram
a node's broadcaster has written is the announcement of another node's client, byte for byte
but for its last two bytes, which hold this node's own TCP proxy port; or a RefreshGame; or a
DecreateGame. The game client dials the source of an announcement at the port it carries, so
it reaches the node's own proxy, which dials the origin (`Tailnet.proxy_dials_origin`).

The proof adds to the origin invariant what each broadcaster keeps: its cache lists the
registry's entries, and its proxy port is the one its node started with.
-/

namespace Wc3ts

variable {Node : Type}

/-! ### The invariant -/

/-- A datagram a broadcaster writes: the announcement of another node's client with the
broadcasting node's proxy port in its last two bytes, a RefreshGame or a DecreateGame. -/
def BroadcastFrom (proxyPort : Node → UInt16) (announced : Node → List Bytes)
    (wire : Wire Node) : Prop :=
  (∃ c, c ≠ wire.srcNode ∧ ∃ raw ∈ announced c, 4 ≤ raw.length ∧
      wire.payload = raw.take (raw.length - 2) ++ le16 (proxyPort wire.srcNode)) ∨
    (∃ hostCounter slotsUsed slotsAvailable,
      wire.payload = sendRefreshGame hostCounter slotsUsed slotsAvailable) ∨
    ∃ hostCounter, wire.payload = sendDecreateGame hostCounter

/-- What holds of the broadcasters in every reachable world. -/
structure Tailnet.LanInvariant (t : Tailnet Node) (proxyPort : Node → UInt16) (w : World Node) :
    Prop where
  synced : ∀ n, (w.daemons n).Synced
  proxy : ∀ n, (w.daemons n).broadcaster.proxyPort = proxyPort n
  broadcasts : ∀ wire ∈ w.sent, wire.src.port = t.broadcastPort wire.srcNode →
    BroadcastFrom proxyPort w.announced wire

theorem BroadcastFrom.mono {proxyPort : Node → UInt16}
    {announced announced' : Node → List Bytes} (grows : ∀ n, announced n ⊆ announced' n)
    {wire : Wire Node} (written : BroadcastFrom proxyPort announced wire) :
    BroadcastFrom proxyPort announced' wire := by
  rcases written with ⟨c, other, raw, member, long, payload⟩ | counters
  · exact .inl ⟨c, other, raw, grows c member, long, payload⟩
  · exact .inr counters

section Steps

variable {t : Tailnet Node} {proxyPort : Node → UInt16} {w : World Node}

/-- New datagrams none of which a broadcaster wrote keep the invariant. -/
theorem Tailnet.LanInvariant.send (lan : t.LanInvariant proxyPort w) {more : List (Wire Node)}
    (ok : ∀ wire ∈ more, wire.src.port = t.broadcastPort wire.srcNode →
      BroadcastFrom proxyPort w.announced wire) :
    t.LanInvariant proxyPort { w with sent := w.sent ++ more } where
  synced := lan.synced
  proxy := lan.proxy
  broadcasts wire member := (List.mem_append.mp member).elim (lan.broadcasts wire) (ok wire)

/-- A node's daemon replaced by one in step with its registry, with the node's proxy port,
keeps the invariant. -/
theorem Tailnet.LanInvariant.setDaemon [DecidableEq Node] (lan : t.LanInvariant proxyPort w)
    {n : Node} {next : Daemon} (synced : next.Synced)
    (proxy : next.broadcaster.proxyPort = proxyPort n) :
    t.LanInvariant proxyPort { w with daemons := Function.update w.daemons n next } where
  synced a := by
    by_cases here : a = n
    · subst here
      simpa only [Function.update_same] using synced
    · simpa only [Function.update_noteq here] using lan.synced a
  proxy a := by
    by_cases here : a = n
    · subst here
      simpa only [Function.update_same] using proxy
    · simpa only [Function.update_noteq here] using lan.proxy a
  broadcasts := lan.broadcasts

/-- A datagram written from port 6112, as the responder and the game client write, is no
broadcaster's. -/
theorem Tailnet.not_broadcast_of_defaultPort {wire : Wire Node}
    (fromGamePort : wire.src.port = defaultPort)
    (fromBroadcaster : wire.src.port = t.broadcastPort wire.srcNode) : False :=
  t.broadcastPort_ne_defaultPort _ (fromBroadcaster.symm.trans fromGamePort)

variable (t) (cfg : Config)

theorem Tailnet.lanInvariant_initial :
    t.LanInvariant proxyPort (World.initial cfg proxyPort) where
  synced n := Daemon.initial_synced cfg (proxyPort n)
  proxy _ := rfl
  broadcasts := by simp [World.initial]

/-- A cached remote game of a node's broadcaster is an announcement of another node's
client. -/
theorem Tailnet.cached_from_origin (holds : t.Invariant w) (lan : t.LanInvariant proxyPort w)
    {n : Node} {g : Game} (cached : g ∈ (w.daemons n).broadcaster.games)
    (remote : g.source = .sourceRemote) : ∃ c, c ≠ n ∧ g.rawData ∈ w.announced c := by
  obtain ⟨⟨key, entry⟩, member, rfl⟩ := List.mem_map.mp ((lan.synced n).subset cached)
  obtain ⟨-, -, ⟨isLocal, -⟩ | ⟨-, c, other, -, fromClient⟩⟩ :=
    holds.entries n key _ (GoMap.lookup_eq_some_iff.mpr member)
  · rw [remote] at isLocal
    cases isLocal
  · exact ⟨c, other, fromClient⟩

theorem Tailnet.lanInvariant_daemonStep [DecidableEq Node] (n : Node) (orders : Orders)
    (event : Event) (holds : t.Invariant w) (lan : t.LanInvariant proxyPort w) :
    t.LanInvariant proxyPort (w.daemonStep t cfg n orders event) := by
  unfold World.daemonStep
  split
  · rename_i next out stepped
    refine (lan.setDaemon ((w.daemons n).step_synced cfg orders event stepped (lan.synced n))
      (((w.daemons n).step_proxyPort cfg orders event stepped).trans (lan.proxy n))).send
      fun wire new fromBroadcaster => ?_
    obtain ⟨datagram, out_, routed⟩ := List.mem_filterMap.mp new
    obtain ⟨srcNode, srcPort, payload⟩ := Tailnet.route_some routed
    simp only [srcNode, srcPort] at fromBroadcaster
    cases event with
    | broadcastTick =>
      have packet := (w.daemons n).broadcastTick_sent cfg orders stepped out_
      simp only [BroadcastFrom, srcNode, payload]
      rcases mem_broadcastGames _ _ packet with
        ⟨g, cached, remote, ⟨long, rewritten⟩ | refresh⟩ | ⟨hostCounter, decreate⟩
      · obtain ⟨c, other, fromClient⟩ := t.cached_from_origin holds lan cached remote
        exact .inl ⟨c, other, g.rawData, fromClient, long, by rw [rewritten, lan.proxy n]⟩
      · exact .inr (.inl ⟨_, _, _, refresh⟩)
      · exact .inr (.inr ⟨hostCounter, decreate⟩)
    | _ => exact absurd fromBroadcaster (t.probePort_ne_broadcastPort n)
  · exact lan

theorem Tailnet.lanInvariant_ingest [DecidableEq Node] (n : Node) (orders : Orders)
    (wire : Wire Node) (lan : t.LanInvariant proxyPort w) :
    t.LanInvariant proxyPort (w.ingest n orders wire) :=
  lan.setDaemon ((w.daemons n).ingest_synced orders wire.payload wire.src.ip (lan.synced n))
    (((w.daemons n).ingest_proxyPort orders wire.payload wire.src.ip).trans (lan.proxy n))

theorem Tailnet.lanInvariant_respond (n : Node)
    (order : (w.daemons n).manager.registry.games.Order) (wire : Wire Node)
    (lan : t.LanInvariant proxyPort w) : t.LanInvariant proxyPort (w.respond n order wire) :=
  lan.send fun reply new fromBroadcaster => by
    obtain ⟨answer, -, rfl⟩ := List.mem_map.mp new
    exact (t.not_broadcast_of_defaultPort rfl fromBroadcaster).elim

theorem Tailnet.lanInvariant_answer (n : Node) (wire : Wire Node)
    (lan : t.LanInvariant proxyPort w) : t.LanInvariant proxyPort (w.answer n wire) := by
  unfold World.answer
  split
  · refine lan.send fun reply new fromBroadcaster => ?_
    rw [List.mem_singleton] at new
    subst new
    exact (t.not_broadcast_of_defaultPort rfl fromBroadcaster).elim
  · exact lan

theorem Tailnet.lanInvariant_host [DecidableEq Node] (n : Node) (raw : Bytes)
    (lan : t.LanInvariant proxyPort w) : t.LanInvariant proxyPort (w.host n raw) where
  synced := lan.synced
  proxy := lan.proxy
  broadcasts wire member fromBroadcaster :=
    (lan.broadcasts wire member fromBroadcaster).mono (w.announced_subset_host n raw)

theorem Tailnet.lanInvariant_step [DecidableEq Node] {w w' : World Node}
    (step : World.Step t cfg w w') (holds : t.Invariant w) (lan : t.LanInvariant proxyPort w) :
    t.LanInvariant proxyPort w' := by
  cases step with
  | daemon n orders event => exact t.lanInvariant_daemonStep cfg n orders event holds lan
  | ingest n orders wire => exact t.lanInvariant_ingest n orders wire lan
  | respond n order wire => exact t.lanInvariant_respond n order wire lan
  | answer n wire => exact t.lanInvariant_answer n wire lan
  | host n raw => exact t.lanInvariant_host n raw lan
  | unhost n => exact ⟨lan.synced, lan.proxy, lan.broadcasts⟩

theorem Tailnet.lanInvariant_reachable [DecidableEq Node]
    (reachable : World.Reachable t cfg proxyPort w) : t.LanInvariant proxyPort w := by
  induction reachable with
  | initial => exact t.lanInvariant_initial cfg
  | step before step inductionHypothesis =>
    exact t.lanInvariant_step cfg step (t.invariant_reachable cfg before) inductionHypothesis

end Steps

/-! ### What the LAN hears -/

/-- In every reachable world, every datagram a node's broadcaster has written onto its LAN is
the announcement of another node's client, unchanged but for its last two bytes, which hold
this node's proxy port; or a RefreshGame; or a DecreateGame. -/
theorem Tailnet.lan_broadcasts_from_origin [DecidableEq Node] (t : Tailnet Node) (cfg : Config)
    {proxyPort : Node → UInt16} {w : World Node} (reachable : World.Reachable t cfg proxyPort w)
    (wire : Wire Node) (member : wire ∈ w.sent)
    (fromBroadcaster : wire.src.port = t.broadcastPort wire.srcNode) :
    BroadcastFrom proxyPort w.announced wire :=
  (t.lanInvariant_reachable cfg reachable).broadcasts wire member fromBroadcaster


/-- Node 0 of `pairWorld` lets two seconds pass, probes, lets one more second pass, and
broadcasts. -/
def pairBroadcastWorld : World (Fin 2) :=
  let step (w : World (Fin 2)) (event : Event) :=
    w.daemonStep pairTailnet Config.default 0 pairOrders event
  step (step (step (step pairWorld (.advance 2000000000)) .probeTick) (.advance 1000000000))
    .broadcastTick

theorem Tailnet.lan_broadcasts_from_origin_pair :
    World.Reachable pairTailnet Config.default (fun _ => 6113) pairBroadcastWorld ∧
      ∃ wire ∈ pairBroadcastWorld.sent, wire.src.port = pairTailnet.broadcastPort wire.srcNode ∧
        BroadcastFrom (fun _ => 6113) pairBroadcastWorld.announced wire := by
  have reachable : World.Reachable pairTailnet Config.default (fun _ => 6113) pairBroadcastWorld :=
    (((pairWorld_reachable.step (.daemon _ 0 pairOrders (.advance 2000000000) (fun _ _ => nofun)
      fun _ _ => nofun)).step (.daemon _ 0 pairOrders .probeTick (fun _ _ => nofun) fun _ _ => nofun)).step
      (.daemon _ 0 pairOrders (.advance 1000000000) (fun _ _ => nofun) fun _ _ => nofun)).step
      (.daemon _ 0 pairOrders .broadcastTick (fun _ _ => nofun) fun _ _ => nofun)
  have written : ∃ wire ∈ pairBroadcastWorld.sent,
      wire.src.port = pairTailnet.broadcastPort wire.srcNode := by
    decide
  obtain ⟨wire, member, fromBroadcaster⟩ := written
  exact ⟨reachable, wire, member, fromBroadcaster,
    pairTailnet.lan_broadcasts_from_origin Config.default reachable wire member fromBroadcaster⟩

end Wc3ts

import Wc3ts.Daemon.Run
import Wc3ts.Proxy.Tcp

/-!
The fabric: any number of nodes on a tailnet, each running the daemon of `runExec` (the
probe engine, its registry and the broadcaster), the query responder bound to the node's
overlay address on port 6112, and one unmodified game client listening on port 6112, which
answers a SearchGame only with the raw announcement of the game it hosts itself.

Every datagram any of them writes is added to the fabric's record of datagrams in flight and
stays there: the network may deliver it to its destination socket any number of times, in
any order, or never. A datagram to `127.0.0.1` stays on its node, one to the broadcast
address goes to its node's LAN, one to an overlay address goes to the node that has it.

The client's announcements are recorded as they are produced, in a list that only grows; it
exists in the model only, to state where a registry entry's bytes came from.
-/

namespace Wc3ts

variable {Node : Type}

/-! ### The tailnet -/

/-- The nodes' addressing. Each node has one overlay IPv4 address, never a loopback or the
broadcast address, and `nodeAt` finds the node at an overlay address. Each node's probe
engine and broadcaster have their own ephemeral ports, neither of them 6112; broadcasts leave
from the node's LAN address. -/
structure Tailnet (Node : Type) where
  addr : Node → Addr
  nodeAt : Addr → Option Node
  nodeAt_eq_some_iff : ∀ ip node, nodeAt ip = some node ↔ addr node = ip
  notLoopback : ∀ node, (addr node).isLoopback = false
  notBroadcast : ∀ node, addr node ≠ Addr.broadcast
  lanAddr : Node → Addr
  probePort : Node → UInt16
  broadcastPort : Node → UInt16
  probePort_ne_defaultPort : ∀ node, probePort node ≠ defaultPort
  broadcastPort_ne_defaultPort : ∀ node, broadcastPort node ≠ defaultPort
  probePort_ne_broadcastPort : ∀ node, probePort node ≠ broadcastPort node

/-- A datagram in flight: the node and endpoint it was written from, the node and endpoint
it is addressed to, and its bytes. -/
structure Wire (Node : Type) where
  srcNode : Node
  src : Endpoint
  dstNode : Node
  dst : Endpoint
  payload : Bytes
  deriving DecidableEq

/-- Where a datagram a node's daemon writes from the given port goes: on loopback to the
node itself, to the broadcast address onto the node's LAN, to an overlay address to the node
that has it; to any other address nowhere. -/
def Tailnet.route (t : Tailnet Node) (n : Node) (port : UInt16) (datagram : Datagram) :
    Option (Wire Node) :=
  if datagram.dst.ip = Addr.loopback then
    some ⟨n, ⟨Addr.loopback, port⟩, n, datagram.dst, datagram.payload⟩
  else if datagram.dst.ip = Addr.broadcast then
    some ⟨n, ⟨t.lanAddr n, port⟩, n, datagram.dst, datagram.payload⟩
  else (t.nodeAt datagram.dst.ip).map fun c =>
    ⟨n, ⟨t.addr n, port⟩, c, datagram.dst, datagram.payload⟩

/-- A routed datagram leaves from its node, at the socket it was written from, with its
bytes. -/
theorem Tailnet.route_some {t : Tailnet Node} {n : Node} {port : UInt16} {datagram : Datagram}
    {wire : Wire Node} (routed : t.route n port datagram = some wire) :
    wire.srcNode = n ∧ wire.src.port = port ∧ wire.payload = datagram.payload := by
  unfold Tailnet.route at routed
  split_ifs at routed
  · cases routed
    exact ⟨rfl, rfl, rfl⟩
  · cases routed
    exact ⟨rfl, rfl, rfl⟩
  · obtain ⟨c, -, rfl⟩ := Option.map_eq_some'.mp routed
    exact ⟨rfl, rfl, rfl⟩

/-- The socket a daemon step writes from: the broadcaster's for a broadcast tick, the probe
engine's otherwise. -/
def Tailnet.portOf (t : Tailnet Node) (n : Node) : Event → UInt16
  | .broadcastTick => t.broadcastPort n
  | _ => t.probePort n

/-! ### The world -/

/-- Every node's daemon, the game each client hosts, every announcement each client has
produced, and every datagram written so far. -/
structure World (Node : Type) where
  daemons : Node → Daemon
  hosted : Node → Option Bytes
  announced : Node → List Bytes
  sent : List (Wire Node)

/-- Every daemon as `runExec` starts it, no game hosted, nothing sent. -/
def World.initial (cfg : Config) (proxyPort : Node → UInt16) : World Node :=
  ⟨fun n => Daemon.initial cfg (proxyPort n), fun _ => none, fun _ => [], []⟩

section Steps

variable [DecidableEq Node] (t : Tailnet Node) (cfg : Config)

/-- A step of one node's daemon that reads no datagram: what it writes is routed. -/
def World.daemonStep (w : World Node) (n : Node) (orders : Orders) (event : Event) : World Node :=
  match (w.daemons n).step cfg orders event with
  | some (next, out) =>
    { w with
      daemons := Function.update w.daemons n next
      sent := w.sent ++ out.filterMap (t.route n (t.portOf n event)) }
  | none => w

/-- The probe engine of a node reads a datagram. -/
def World.ingest (w : World Node) (n : Node) (orders : Orders) (wire : Wire Node) : World Node :=
  { w with
    daemons := Function.update w.daemons n ((w.daemons n).ingest orders wire.payload wire.src.ip) }

/-- The responder of a node reads a datagram and answers it, from its overlay address. -/
def World.respond (w : World Node) (n : Node) (order : (w.daemons n).manager.registry.games.Order)
    (wire : Wire Node) : World Node :=
  { w with
    sent := w.sent ++ (Wc3ts.respond _ order wire.payload wire.src).map fun reply =>
      ⟨n, ⟨wire.dst.ip, defaultPort⟩, wire.srcNode, reply.dst, reply.payload⟩ }

/-- The game client of a node answers a SearchGame with the announcement of the game it
hosts, if any, from the address the query reached. -/
def World.answer (w : World Node) (n : Node) (wire : Wire Node) : World Node :=
  match w.hosted n with
  | some raw =>
    { w with
      sent := w.sent ++ [⟨n, ⟨wire.dst.ip, defaultPort⟩, wire.srcNode, wire.src, raw⟩] }
  | none => w

/-- The game client of a node starts hosting a game: it produces its announcement. -/
def World.host (w : World Node) (n : Node) (raw : Bytes) : World Node :=
  { w with
    hosted := Function.update w.hosted n (some raw)
    announced := Function.update w.announced n (raw :: w.announced n) }

/-- Hosting only adds announcements. -/
theorem World.announced_subset_host (w : World Node) (n : Node) (raw : Bytes) (node : Node) :
    w.announced node ⊆ (w.host n raw).announced node := by
  by_cases here : node = n
  · subst here
    simp [World.host]
  · simp [World.host, Function.update_noteq here]

/-- The game client of a node stops hosting. -/
def World.unhost (w : World Node) (n : Node) : World Node :=
  { w with hosted := Function.update w.hosted n none }

/-- The fabric's steps. A network map lists other nodes only, under their overlay addresses;
a datagram is read only by the socket it is addressed to; a client answers only a SearchGame;
an announcement fits the probe engine's buffer, as a game client's GameInfo does. -/
inductive World.Step : World Node → World Node → Prop
  | daemon (w : World Node) (n : Node) (orders : Orders) (event : Event)
      (notIngest : ∀ datagram sender, event ≠ .ingest datagram sender)
      (overlayPeers : ∀ nm storesBefore, event = .netMap nm storesBefore →
        ∀ view ∈ nm.peers, ∀ ip, NodeAddr.v4 ip ∈ view.addresses → ∃ c, c ≠ n ∧ t.addr c = ip) :
      World.Step w (w.daemonStep t cfg n orders event)
  | ingest (w : World Node) (n : Node) (orders : Orders) (wire : Wire Node)
      (member : wire ∈ w.sent)
      (toProbeEngine : wire.dstNode = n ∧ wire.dst.port = t.probePort n) :
      World.Step w (w.ingest n orders wire)
  | respond (w : World Node) (n : Node) (order : (w.daemons n).manager.registry.games.Order)
      (wire : Wire Node) (member : wire ∈ w.sent)
      (toResponder : wire.dstNode = n ∧ wire.dst = ⟨t.addr n, defaultPort⟩) :
      World.Step w (w.respond n order wire)
  | answer (w : World Node) (n : Node) (wire : Wire Node) (member : wire ∈ w.sent)
      (toClient : wire.dstNode = n ∧ wire.dst.port = defaultPort)
      (query : ∃ pkt size, deserialize wire.payload = some (.searchGame pkt, size)) :
      World.Step w (w.answer n wire)
  | host (w : World Node) (n : Node) (raw : Bytes) (fits : raw.length ≤ udpBufferSize) :
      World.Step w (w.host n raw)
  | unhost (w : World Node) (n : Node) : World.Step w (w.unhost n)

/-- The worlds the fabric reaches from its start. -/
inductive World.Reachable (proxyPort : Node → UInt16) : World Node → Prop
  | initial : World.Reachable proxyPort (World.initial cfg proxyPort)
  | step {w w' : World Node} : World.Reachable proxyPort w → World.Step t cfg w w' →
      World.Reachable proxyPort w'

end Steps

end Wc3ts

import Wc3ts.Game.Registry
import Wc3ts.Lan.Broadcaster
import Wc3ts.Tailscale.Discovery

/-!
`peer/manager.go` and `peer/responder.go`: the probe engine and the query responder.

The probe engine sends a SearchGame to `127.0.0.1:6112` and to port 6112 of every online
peer, and files every GameInfo that comes back in the registry, with the datagram's bytes as
`RawData`: a game answering from a loopback address is Local, any other Remote, under the
sender's address. The responder answers a SearchGame with the raw bytes of every Local game.
A probe engine holding peers of a network map probes only the map's `probeTargets`.

`receiveLoop` keeps the whole datagram, but the decoder reads only the frame its header
declares. When the two differ, the port rewrite of `sendRawGameInfo`, which targets the last
two bytes of `RawData`, misses the frame's `GamePort` field: `announcement_of_exact_frame`
and `announcement_of_padded_frame` are the two cases.
-/

namespace Wc3ts

/-! ### Sockets -/

/-- `udpBufferSize`: the probe engine's receive buffer; a longer datagram is cut to it. -/
def udpBufferSize : Nat := 512

/-- A UDP endpoint. -/
structure Endpoint where
  ip : Addr
  port : UInt16
  deriving DecidableEq, Repr

/-- A datagram a component writes: its destination and its bytes. -/
structure Datagram where
  dst : Endpoint
  payload : Bytes
  deriving DecidableEq, Repr

/-! ### The probe engine -/

/-- `peer.Manager`, by the state its methods read and write. -/
structure Manager where
  registry : Registry
  version : GameVersion
  peers : List Peer

/-- `NewManager`: the zero `GameVersion`, no peers. -/
def newManager (registry : Registry) : Manager := ⟨registry, ⟨0, 0⟩, []⟩

/-- `SetVersion`. -/
def Manager.setVersion (m : Manager) (version : GameVersion) : Manager := { m with version }

/-- `probeLocal`: a SearchGame with host counter 0 to `127.0.0.1:6112`. -/
def probeLocal (version : GameVersion) : Datagram :=
  ⟨⟨Addr.loopback, defaultPort⟩, SearchGame.serialize ⟨version, 0⟩⟩

/-- `probePeer`: a SearchGame with host counter 0 to port 6112 of the peer. -/
def probePeer (peerIP : Addr) (version : GameVersion) : Datagram :=
  ⟨⟨peerIP, defaultPort⟩, SearchGame.serialize ⟨version, 0⟩⟩

/-- `probeAllPeers` (and `Refresh`): nothing before a version is known, else localhost, then
every online peer in list order. -/
def Manager.probeAllPeers (m : Manager) : List Datagram :=
  if m.version.version = 0 then []
  else
    probeLocal m.version :: (m.peers.filter (·.online)).map fun peer => probePeer peer.ip m.version

/-- `OnPeersChanged`: replace the peer list, then probe. The code keeps the caller's slice,
which the console sorts in place; the list here is what the slice holds at the call, and the
daemon's model writes the sort's stores into it afterwards. -/
def Manager.onPeersChanged (m : Manager) (peers : List Peer) : Manager × List Datagram :=
  let updated := { m with peers }
  (updated, updated.probeAllPeers)

/-- `findPeerName`: the name of the first peer at the address, or `""`. -/
def Manager.findPeerName (m : Manager) (ip : Addr) : String :=
  ((m.peers.find? (·.ip = ip)).map (·.name)).getD ""

/-- The game `handleGameInfo` passes to `Add`: Local under the name `"local"` when the
sender is a loopback address, Remote under the peer's name otherwise; both timestamps are the
zero time. -/
def Manager.gameOf (m : Manager) (pkt : GameInfo) (rawData : Bytes) (peerIP : Addr) : Game :=
  if peerIP.isLoopback then ⟨pkt, rawData, .sourceLocal, peerIP, "local", 0, 0⟩
  else ⟨pkt, rawData, .sourceRemote, peerIP, m.findPeerName peerIP, 0, 0⟩

/-- `handleGameInfo`: `Add` the game at the call's time. -/
def Manager.handleGameInfo (m : Manager) (pkt : GameInfo) (rawData : Bytes) (peerIP : Addr)
    (now : Time) : Manager :=
  { m with registry := (m.registry.add (m.gameOf pkt rawData peerIP) now).registry }

/-- One turn of `receiveLoop`: the datagram cut to the buffer is `RawData`; if it decodes as a
GameInfo it is handled, anything else is dropped. -/
def Manager.receive (m : Manager) (datagram : Bytes) (sender : Addr) (now : Time) : Manager :=
  let rawData := datagram.take udpBufferSize
  match deserialize rawData with
  | some (.gameInfo info, _) => m.handleGameInfo info rawData sender now
  | _ => m

/-! ### The query responder -/

/-- `onSearchGame`: to the querier, the raw bytes of every Local game in the snapshot's
order, skipping games without raw bytes. -/
def onSearchGame (r : Registry) (order : r.games.Order) (requester : Endpoint) : List Datagram :=
  (r.localGames order).filterMap fun g =>
    if g.rawData.isEmpty then none else some ⟨requester, g.rawData⟩

/-- The responder's packet loop: a datagram that decodes as a SearchGame is answered, any
other is dropped. -/
def respond (r : Registry) (order : r.games.Order) (datagram : Bytes) (sender : Endpoint) :
    List Datagram :=
  match deserialize datagram with
  | some (.searchGame _, _) => onSearchGame r order sender
  | _ => []

/-! ### What probing sends -/

/-- Every probe is the SearchGame of the current version with host counter 0, to port 6112
of localhost or of an online peer; there are none before a version is known. -/
theorem mem_probeAllPeers (m : Manager) (datagram : Datagram)
    (sent : datagram ∈ m.probeAllPeers) :
    m.version.version ≠ 0 ∧ datagram.payload = SearchGame.serialize ⟨m.version, 0⟩ ∧
      datagram.dst.port = defaultPort ∧
      (datagram.dst.ip = Addr.loopback ∨
        ∃ peer ∈ m.peers, peer.online ∧ peer.ip = datagram.dst.ip) := by
  unfold Manager.probeAllPeers at sent
  split at sent
  · cases sent
  · rename_i known
    rcases List.mem_cons.mp sent with rfl | member
    · exact ⟨known, rfl, rfl, .inl rfl⟩
    · obtain ⟨peer, peerMember, rfl⟩ := List.mem_map.mp member
      obtain ⟨peerMember, online⟩ := List.mem_filter.mp peerMember
      exact ⟨known, rfl, rfl, .inr ⟨peer, peerMember, by simpa using online, rfl⟩⟩

/-- The probes the documentation describes for a network map and a version: none before a
version is known; else the version's SearchGame with host counter 0 to `127.0.0.1:6112`, then
one to port 6112 of each probed node of the map, in the map's order, at its first IPv4
address. -/
def probeTargets (nm : NetworkMap) (v : GameVersion) : List Datagram :=
  if v.version = 0 then []
  else ⟨⟨Addr.loopback, defaultPort⟩, SearchGame.serialize ⟨v, 0⟩⟩ ::
    (probeIPs nm).map fun ip => ⟨⟨ip, defaultPort⟩, SearchGame.serialize ⟨v, 0⟩⟩

/-- A probe engine whose peers all sit at first IPv4 addresses of probed nodes of a map sends
only the map's probe targets. -/
theorem Manager.probeAllPeers_subset (m : Manager) {nm : NetworkMap}
    (within : ∀ peer ∈ m.peers, peer.ip ∈ probeIPs nm) :
    ∀ datagram ∈ m.probeAllPeers, datagram ∈ probeTargets nm m.version := by
  unfold Manager.probeAllPeers probeTargets
  split
  · exact fun _ => id
  · intro datagram sent
    rcases List.mem_cons.mp sent with rfl | probed
    · exact List.mem_cons_self _ _
    · obtain ⟨peer, member, rfl⟩ := List.mem_map.mp probed
      exact List.mem_cons_of_mem _
        (List.mem_map.mpr ⟨peer.ip, within peer (List.mem_of_mem_filter member), rfl⟩)

/-- The responder answers the querier only, with the raw bytes of Local games it holds. -/
theorem mem_respond (r : Registry) (order : r.games.Order) (datagram : Bytes) (sender : Endpoint)
    (reply : Datagram) (sent : reply ∈ respond r order datagram sender) :
    reply.dst = sender ∧ ∃ g, r.games.lookup g.key = some g ∧ g.source = .sourceLocal ∧
      reply.payload = g.rawData := by
  unfold respond at sent
  split at sent
  · obtain ⟨g, member, answered⟩ := List.mem_filterMap.mp sent
    obtain ⟨found, isLocal⟩ := (r.mem_localGames order g).mp member
    split at answered
    · cases answered
    · cases answered
      exact ⟨rfl, g, found, isLocal, rfl⟩
  · cases sent

/-! ### What ingesting files -/

/-- Filing a game leaves the peer list, so the next game is built alike. -/
@[simp] theorem Manager.handleGameInfo_gameOf (m : Manager) (pkt : GameInfo) (rawData : Bytes)
    (peerIP : Addr) (now : Time) : (m.handleGameInfo pkt rawData peerIP now).gameOf = m.gameOf :=
  rfl

section GameOf

variable (m : Manager) (pkt : GameInfo) (rawData : Bytes) (peerIP : Addr)

@[simp] theorem Manager.gameOf_info : (m.gameOf pkt rawData peerIP).info = pkt := by
  unfold Manager.gameOf; split <;> rfl

@[simp] theorem Manager.gameOf_rawData : (m.gameOf pkt rawData peerIP).rawData = rawData := by
  unfold Manager.gameOf; split <;> rfl

@[simp] theorem Manager.gameOf_peerIP : (m.gameOf pkt rawData peerIP).peerIP = peerIP := by
  unfold Manager.gameOf; split <;> rfl

@[simp] theorem Manager.gameOf_source :
    (m.gameOf pkt rawData peerIP).source =
      if peerIP.isLoopback then .sourceLocal else .sourceRemote := by
  unfold Manager.gameOf; split <;> rfl

end GameOf

/-- Receiving leaves the peer list. -/
@[simp] theorem Manager.receive_peers (m : Manager) (datagram : Bytes) (sender : Addr)
    (now : Time) : (m.receive datagram sender now).peers = m.peers := by
  dsimp only [Manager.receive]; split <;> rfl

/-- A datagram that decodes as a GameInfo is handled with the datagram cut to the buffer as
`RawData` and the sender as `PeerIP`. -/
theorem Manager.receive_of_gameInfo (m : Manager) {datagram : Bytes} {info : GameInfo} {size : Nat}
    (sender : Addr) (now : Time)
    (decoded : deserialize (datagram.take udpBufferSize) = some (.gameInfo info, size)) :
    m.receive datagram sender now =
      m.handleGameInfo info (datagram.take udpBufferSize) sender now := by
  simp only [Manager.receive, decoded]

/-- Any other datagram changes nothing. -/
theorem Manager.receive_of_not_gameInfo (m : Manager) {datagram : Bytes} (sender : Addr)
    (now : Time)
    (other : ∀ info size, deserialize (datagram.take udpBufferSize) ≠ some (.gameInfo info, size)) :
    m.receive datagram sender now = m := by
  dsimp only [Manager.receive]
  split
  · rename_i info size decoded
    exact absurd decoded (other info size)
  · rfl

/-- What a turn of `receiveLoop` can file: every entry after it was there before, or is the
datagram cut to the buffer, decoded, and filed under the sender's address. -/
theorem Manager.receive_lookup (m : Manager) {datagram : Bytes} {sender : Addr} {now : Time}
    {key : String} {g : Game}
    (found : (m.receive datagram sender now).registry.games.lookup key = some g) :
    m.registry.games.lookup key = some g ∨ ∃ info size,
      deserialize (datagram.take udpBufferSize) = some (.gameInfo info, size) ∧
        g = m.registry.stamped (m.gameOf info (datagram.take udpBufferSize) sender) now := by
  by_cases gameInfo : ∃ info size,
      deserialize (datagram.take udpBufferSize) = some (.gameInfo info, size)
  · obtain ⟨info, size, decoded⟩ := gameInfo
    rw [m.receive_of_gameInfo sender now decoded, Manager.handleGameInfo,
      Registry.lookup_add] at found
    split at found
    · exact .inr ⟨info, size, decoded, (Option.some.inj found).symm⟩
    · exact .inl found
  · push_neg at gameInfo
    rw [m.receive_of_not_gameInfo sender now gameInfo] at found
    exact .inl found

/-- A refresh through the probe engine: `handleGameInfo` passes the zero `FirstSeen`, and
`Add` keeps the caller's `FirstSeen` for a key it already holds, so the second filing of a
game stamps `FirstSeen` with the zero time, not with the time of the first. -/
theorem Manager.handleGameInfo_twice (m : Manager) (pkt : GameInfo) (rawData : Bytes)
    (peerIP : Addr) (first last : Time) :
    ((m.handleGameInfo pkt rawData peerIP first).handleGameInfo pkt rawData peerIP
        last).registry.games.lookup (m.gameOf pkt rawData peerIP).key =
      some { m.gameOf pkt rawData peerIP with firstSeen := 0, lastSeen := last } := by
  have filed : (m.handleGameInfo pkt rawData peerIP first).registry.games.lookup
      (m.gameOf pkt rawData peerIP).key =
        some (m.registry.stamped (m.gameOf pkt rawData peerIP) first) := by
    simp [Manager.handleGameInfo, Registry.lookup_add]
  have zero : (m.gameOf pkt rawData peerIP).firstSeen = 0 := by
    unfold Manager.gameOf
    split <;> rfl
  rw [Manager.handleGameInfo, Registry.lookup_add, if_pos (by simp), Registry.stamped,
    Manager.handleGameInfo_gameOf, filed]
  simp [zero]

theorem refresh_keeps_zero_firstSeen :
    let pkt : GameInfo := ⟨⟨productTFT, 26⟩, 1, 0, "dota", [], 12, 0, 1, 11, 0, 6112⟩
    let host : Addr := ⟨100, 64, 0, 2⟩
    let m := ((newManager newRegistry).handleGameInfo pkt [] host 1).handleGameInfo pkt [] host 2
    ((m.registry.games.lookup "100.64.0.2:dota").map fun g => (g.firstSeen, g.lastSeen)) =
      some (0, 2) := by
  simp only [show "100.64.0.2:dota" = ((newManager newRegistry).gameOf
    ⟨⟨productTFT, 26⟩, 1, 0, "dota", [], 12, 0, 1, 11, 0, 6112⟩ [] ⟨100, 64, 0, 2⟩).key by decide,
    Manager.handleGameInfo_twice, Option.map_some']

/-- Two peers host at once, and their game clients, counting independently, both use host
counter 1: the registry that ingests both answers holds two Remote games with that host
counter, and `FindByHostCounter` returns one or the other depending on the order the map is
ranged in. -/
theorem shared_hostCounter_two_origins :
    let pkt : GameInfo := ⟨⟨productTFT, 26⟩, 1, 0, "dota", [], 12, 0, 1, 11, 0, 6112⟩
    let r := (((newManager newRegistry).handleGameInfo pkt [] ⟨100, 64, 0, 2⟩ 1).handleGameInfo
      pkt [] ⟨100, 64, 0, 3⟩ 2).registry
    (r.findByHostCounter 1 (GoMap.Order.stored _)).map (·.peerIP) = some ⟨100, 64, 0, 3⟩ ∧
      (r.findByHostCounter 1 ⟨r.games.entries.reverse, List.reverse_perm _⟩).map (·.peerIP) =
        some ⟨100, 64, 0, 2⟩ := by
  decide

/-! ### The announcement of an ingested game -/

/-- A GameInfo frame that fills the whole of `RawData`, as game clients send them: the
announcement is `RawData` with the frame's `GamePort` field holding the proxy port, and it
decodes to the same GameInfo with that port. -/
theorem announcement_of_exact_frame {rawData : Bytes} {info : GameInfo} (proxyPort : UInt16)
    (decoded : deserialize rawData = some (.gameInfo info, rawData.length)) :
    rewritePort rawData proxyPort = rawData.take (rawData.length - 2) ++ le16 proxyPort ∧
      deserialize (rewritePort rawData proxyPort) =
        some (.gameInfo { info with gamePort := proxyPort }, rawData.length) := by
  obtain ⟨pid, lo, hi, rest, rfl, sized, large, -, body⟩ := deserialize_some decoded
  simp only [List.length_cons] at sized
  rw [List.take_of_length_le (by simp [sized]), List.drop_succ_cons, List.drop_succ_cons,
    List.drop_succ_cons, List.drop_succ_cons, List.drop_zero,
    deserializeBody_eq_gameInfo_iff] at body
  obtain ⟨rfl, infoDecoded⟩ := body
  obtain ⟨name, fresh, freshSettings, named, layout⟩ :=
    GameInfo.deserialize_eq_some_iff.mp infoDecoded
  rw [layout] at sized ⊢
  have long :
      portFieldSize ≤ (protocolSig :: pidGameInfo :: lo :: hi :: info.layout name).length := by
    simp [portFieldSize]
  have rewritten :
      rewritePort (protocolSig :: pidGameInfo :: lo :: hi :: info.layout name) proxyPort =
        protocolSig :: pidGameInfo :: lo :: hi :: { info with gamePort := proxyPort }.layout name := by
    have shift : (protocolSig :: pidGameInfo :: lo :: hi :: info.layout name).length - 2 =
        (info.layout name).length - 2 + 4 := by
      simp only [List.length_cons, GameInfo.length_layout]
      omega
    rw [rewritePort_eq _ _ long, GameInfo.layout_gamePort info name proxyPort, shift]
    rfl
  have newDecoded : GameInfo.deserialize ({ info with gamePort := proxyPort }.layout name) =
      some { info with gamePort := proxyPort } :=
    GameInfo.deserialize_eq_some_iff.mpr ⟨name, fresh, freshSettings, named, rfl⟩
  have sameLength : ({ info with gamePort := proxyPort }.layout name).length =
      (info.layout name).length := by simp only [GameInfo.length_layout]
  refine ⟨rewritePort_eq _ _ long, ?_⟩
  rw [rewritten, deserialize_frame _ _ _ _ (by rw [sameLength]; omega), deserializeBody,
    if_pos rfl, newDecoded, sameLength]
  rfl

/-- A datagram with at least two bytes past the frame its header declares: the rewrite lands
past the frame, so the announcement decodes to the very packet the origin sent, `GamePort`
included, and not to one carrying the proxy port. -/
theorem announcement_of_padded_frame {rawData : Bytes} {pkt : Packet} {size : Nat}
    (proxyPort : UInt16) (decoded : deserialize rawData = some (pkt, size))
    (padded : size + 2 ≤ rawData.length) :
    deserialize (rewritePort rawData proxyPort) = some (pkt, size) := by
  rw [rewritePort_eq _ _ (by simp [portFieldSize]; omega)]
  exact deserialize_append (deserialize_take decoded (by omega)) _

/-- A GameInfo frame followed by one stray byte, from a peer: the rewrite overwrites the
frame's last byte and the stray one, so the announcement decodes to a `GamePort` made of the
origin port's low byte and the proxy port's low byte, 57824, instead of the proxy port 6113. -/
theorem stray_byte_corrupts_gamePort :
    let info : GameInfo := ⟨⟨productTFT, 26⟩, 1, 0, "g", [], 12, 0, 1, 11, 0, 6112⟩
    let datagram := [0xF7, 0x30, 46, 0] ++ info.layout [0x67] ++ [0]
    let m := (newManager newRegistry).receive datagram ⟨100, 64, 0, 2⟩ 1
    deserialize datagram = some (.gameInfo info, 46) ∧
      (m.registry.games.lookup "100.64.0.2:g").map
          (fun g => (sendRawGameInfo 6113 g).map deserialize) =
        some [some (.gameInfo { info with gamePort := 57824 }, 46)] := by
  decide

end Wc3ts

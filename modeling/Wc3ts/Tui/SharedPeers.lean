import Wc3ts.Tui.EventLoop

/-!
`cmd/wc3ts/run.go`'s `onPeersChanged` hands one peer slice to two goroutines. It Sends
`PeersMsg{peers}` to the program, whose event loop runs `Update`: `m.peers = msg.Peers`, then
`sortPeersByOS`, which sorts that slice in place with `sort.Slice`. Once the Send has
returned, the discovery goroutine calls the probe engine's `OnPeersChanged(peers)`, which keeps
the same slice and calls `probeAllPeers`; that copies it under the probe engine's lock, which
the event loop never takes. `findPeerName`, in the receive goroutine, reads it under the same
lock.

`sort.Slice` stores into the slice one element at a time (`sortSliceStores`, in
`Wc3ts.Tui.PeerSort`): between the second and the third store of a swap the slice holds one
element twice and lacks another, and a copy or a lookup then misses it.

So from every list of at most 12 peers with distinct addresses that the sort has to reorder,
there is an interleaving in which the probe round `OnPeersChanged` starts sends no SearchGame
to an online peer, and a GameInfo from that peer is filed under an empty peer name
(`sortPeersByOS_race`).
-/

namespace Wc3ts

/-! ### The probe round and the lookup during the sort -/

/-- From every list of at most 12 peers, online, at distinct non-loopback addresses, that
`sortPeersByOS` has to reorder, the sort passes through a slice that lacks one of the peers:
a `probeAllPeers` that copies the shared slice then sends that peer no SearchGame, though the
round over the list `OnPeersChanged` was given probes it, and a GameInfo from it is filed with
an empty peer name. -/
theorem sortPeersByOS_race (m : Manager) {peers : List Peer} (short : peers.length ≤ 12)
    (distinct : (peers.map Peer.ip).Nodup) (online : ∀ p ∈ peers, p.online = true)
    (overlay : ∀ p ∈ peers, p.ip.isLoopback = false) (known : m.version.version ≠ 0)
    {i : Nat} {x y : Peer} (behind : peers[i + 1]? = some x) (ahead : peers[i]? = some y)
    (outOfOrder : osBefore x y = true) :
    ∃ stores, sortSliceStores osBefore peers = some stores ∧ ∃ seen ∈ stores, ∃ p ∈ peers,
      probePeer p.ip m.version ∈ { m with peers }.probeAllPeers ∧
      probePeer p.ip m.version ∉ { m with peers := seen }.probeAllPeers ∧
      ∀ info rawData, ({ m with peers := seen }.gameOf info rawData p.ip).peerName = "" := by
  obtain ⟨k, x', y', behind', ahead', outOfOrder', before⟩ :=
    exists_first_descent osBefore behind ahead outOfOrder
  have long : k + 1 < peers.length := (List.getElem?_eq_some_iff.mp behind').1
  have member : x' ∈ peers := List.getElem?_mem behind'
  have absent := ne_of_mem_set distinct behind' ahead'
  refine ⟨_, if_pos short, peers.set (k + 1) y',
    mem_insertionSortStores osBefore behind' ahead' outOfOrder' before _ 1 (by omega) (by omega)
      (by omega), x', member, ?_, fun probed => ?_, fun info rawData => ?_⟩
  · simp only [Manager.probeAllPeers, if_neg known, List.mem_cons, List.mem_map, List.mem_filter]
    exact .inr ⟨x', ⟨member, online x' member⟩, rfl⟩
  · obtain ⟨-, -, -, loopback | ⟨peer, inSeen, -, sameIP⟩⟩ := mem_probeAllPeers _ _ probed
    · have isLoopback : x'.ip.isLoopback = true := by
        rw [show x'.ip = Addr.loopback from loopback]
        rfl
      rw [overlay x' member] at isLoopback
      cases isLoopback
    · exact absent peer inSeen sameIP
  · have none : (peers.set (k + 1) y').find? (·.ip = x'.ip) = none :=
      List.find?_eq_none.mpr fun z inSeen => by simpa using absent z inSeen
    simp only [Manager.gameOf, overlay x' member, Manager.findPeerName, none]
    rfl

/-- A Linux peer listed before a Windows peer, as a network map may list them. -/
def racePeers : List Peer :=
  [⟨"a", ⟨100, 64, 0, 2⟩, true, "linux"⟩, ⟨"b", ⟨100, 64, 0, 3⟩, true, "windows"⟩]

theorem sortPeersByOS_race_linux_windows :
    osBefore ⟨"b", ⟨100, 64, 0, 3⟩, true, "windows"⟩ ⟨"a", ⟨100, 64, 0, 2⟩, true, "linux"⟩ = true ∧
      ∃ stores, sortSliceStores osBefore racePeers = some stores ∧ ∃ seen ∈ stores,
        ∃ p ∈ racePeers,
        let m := (newManager newRegistry).setVersion Config.default.gameVersion
        probePeer p.ip m.version ∈ { m with peers := racePeers }.probeAllPeers ∧
        probePeer p.ip m.version ∉ { m with peers := seen }.probeAllPeers ∧
        ∀ info rawData, ({ m with peers := seen }.gameOf info rawData p.ip).peerName = "" :=
  ⟨by decide, @sortPeersByOS_race _ racePeers (by decide) (by decide) (by decide) (by decide)
    (by decide) 0 _ _ rfl rfl (by decide)⟩

end Wc3ts

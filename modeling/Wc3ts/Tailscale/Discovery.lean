import Wc3ts.Game.Game

/-!
`tailscale/discovery.go`: the peer list the probe engine works from. Each network map the
Tailscale daemon publishes on its IPN bus replaces the list with the map's peers that are
online, are not Mullvad exit nodes, do not run a mobile OS and have an IPv4 address, each
under its first IPv4 address; the new list is handed to `onChange`. The self address comes
from the map's own node, first IPv4 address, and is kept when the map carries none.

The network map belongs to the Tailscale client library; it is modelled by the fields
`extractPeer` and `extractSelfIP` read. The last section states the filter as the
documentation does (`NodeView.probed`), apart from the code's, and shows that every peer the
list holds passes it, under the node's first IPv4 address (`ip_mem_of_mem_extractPeers`).
-/

namespace Wc3ts

/-! ### The network map -/

/-- An address of a tailnet node: IPv4, which wc3ts uses, or IPv6, which it skips. -/
inductive NodeAddr where
  | v4 (addr : Addr)
  | v6 (groups : List UInt16)
  deriving DecidableEq, Repr

/-- `netip.Addr.Is4`, returning the address when it is one. -/
def NodeAddr.is4 : NodeAddr → Option Addr
  | .v4 addr => some addr
  | .v6 _ => none

/-- `tailcfg.NodeView`, by the fields `extractPeer` reads: validity, the online flag (absent
when unknown), the ACL tags, the OS from the host info (absent when the host info is not
valid), the addresses in order, and the computed name. -/
structure NodeView where
  valid : Bool
  online : Option Bool
  tags : List String
  hostinfoOS : Option String
  addresses : List NodeAddr
  computedName : String
  deriving DecidableEq, Repr

/-- `netmap.NetworkMap`: the node itself (absent when not valid) and its peers. -/
structure NetworkMap where
  selfNode : Option NodeView
  peers : List NodeView
  deriving DecidableEq, Repr

/-- `tailscale.Peer`. -/
structure Peer where
  name : String
  ip : Addr
  online : Bool
  os : String
  deriving DecidableEq, Repr

/-! ### Discovery -/

/-- `mullvadExitNodeTag`. -/
def mullvadExitNodeTag : String := "tag:mullvad-exit-node"

/-- The first IPv4 address in a list of addresses. -/
def firstIPv4 (addresses : List NodeAddr) : Option Addr :=
  addresses.findSome? NodeAddr.is4

/-- `extractPeer`: the peer a node contributes, if valid, online, not a Mullvad exit node,
not an iOS or Android device, and with an IPv4 address. -/
def extractPeer (p : NodeView) : Option Peer :=
  if !p.valid then none
  else
    let online := p.online.getD false
    if !online then none
    else if mullvadExitNodeTag ∈ p.tags then none
    else
      let os := p.hostinfoOS.getD ""
      let osLower := stringsToLower os
      if osLower = "ios" ∨ osLower = "android" then none
      else (firstIPv4 p.addresses).map fun addr => ⟨p.computedName, addr, online, os⟩

/-- `extractPeers`: the peers in the map's order. -/
def extractPeers (nm : NetworkMap) : List Peer :=
  nm.peers.filterMap extractPeer

/-- `tailscale.Discovery`, by the state its methods change. -/
structure Discovery where
  peers : List Peer
  selfIP : Option Addr

/-- `NewDiscovery`: no peers, self address not yet known. -/
def newDiscovery : Discovery := ⟨[], none⟩

/-- `extractSelfIP`: the self node's first IPv4 address, if it has one. -/
def Discovery.extractSelfIP (d : Discovery) (nm : NetworkMap) : Discovery :=
  match nm.selfNode.bind fun node => firstIPv4 node.addresses with
  | some addr => { d with selfIP := some addr }
  | none => d

/-- `updateFromNetMap`: the new state, and the peer list passed to `onChange`. -/
def Discovery.updateFromNetMap (d : Discovery) (nm : NetworkMap) : Discovery × List Peer :=
  let peers := extractPeers nm
  ({ d.extractSelfIP nm with peers }, peers)

/-! ### What a peer list holds -/

theorem firstIPv4_mem {addresses : List NodeAddr} {addr : Addr}
    (found : firstIPv4 addresses = some addr) : NodeAddr.v4 addr ∈ addresses := by
  obtain ⟨node, member, isFour⟩ := List.exists_of_findSome?_eq_some found
  cases node <;> simp_all [NodeAddr.is4]

/-- A peer comes from a valid, online node that is no Mullvad exit node and runs no mobile
OS, under the node's computed name, its OS, and its first IPv4 address. -/
theorem extractPeer_some {p : NodeView} {peer : Peer} (extracted : extractPeer p = some peer) :
    p.valid = true ∧ p.online = some true ∧ mullvadExitNodeTag ∉ p.tags ∧
      stringsToLower (p.hostinfoOS.getD "") ≠ "ios" ∧
      stringsToLower (p.hostinfoOS.getD "") ≠ "android" ∧
      peer = ⟨p.computedName, peer.ip, true, p.hostinfoOS.getD ""⟩ ∧
      firstIPv4 p.addresses = some peer.ip := by
  simp only [extractPeer] at extracted
  split_ifs at extracted with invalid offline tagged mobile
  obtain ⟨addr, found, rfl⟩ := Option.map_eq_some'.mp extracted
  cases viewOnline : p.online with
  | none => simp [viewOnline] at offline
  | some flag => simp_all [not_or]

/-- Every peer handed to `onChange` is online, and sits at an IPv4 address of a node of the
map's peer list. -/
theorem updateFromNetMap_peers (d : Discovery) (nm : NetworkMap) (peer : Peer)
    (member : peer ∈ (d.updateFromNetMap nm).2) :
    peer.online = true ∧ ∃ node ∈ nm.peers, NodeAddr.v4 peer.ip ∈ node.addresses := by
  obtain ⟨node, nodeMember, extracted⟩ := List.mem_filterMap.mp member
  obtain ⟨-, -, -, -, -, shape, found⟩ := extractPeer_some extracted
  exact ⟨by rw [shape], node, nodeMember, firstIPv4_mem found⟩

/-! ### Which nodes the probe engine hears of -/

/-- Whether a text is `word` in any letter case. -/
def equalsIgnoringCase (text word : String) : Bool :=
  text.data.map Char.toLower == word.data

/-- The node's first IPv4 address. -/
def NodeView.ipv4 (p : NodeView) : Option Addr :=
  (p.addresses.filterMap NodeAddr.is4).head?

/-- The nodes the documentation says are probed, in its words: valid, online, not tagged
`tag:mullvad-exit-node`, with a host OS that is neither iOS nor Android in any letter case,
and with an IPv4 address. -/
def NodeView.probed (p : NodeView) : Bool :=
  p.valid && p.online == some true && !p.tags.contains "tag:mullvad-exit-node" &&
    !(equalsIgnoringCase (p.hostinfoOS.getD "") "ios" ||
      equalsIgnoringCase (p.hostinfoOS.getD "") "android") &&
    p.ipv4.isSome

/-- The addresses the documentation has probed for a network map: the first IPv4 address of
each probed node, in the map's order. -/
def probeIPs (nm : NetworkMap) : List Addr :=
  (nm.peers.filter NodeView.probed).filterMap NodeView.ipv4

/-- `unicode.ToLower` lowers a rune as ASCII does whenever that gives an ASCII rune. -/
theorem unicodeToLower_of_ascii {c : Char} (ascii : c.toLower.toNat < 128) :
    unicodeToLower c = c.toLower := by
  unfold unicodeToLower
  split_ifs with special kelvin
  · simp [Char.toLower, special] at ascii
  · simp [Char.toLower, kelvin] at ascii
  · rfl

/-- A text that is an ASCII word in any letter case is that word once `strings.ToLower` has
lowered it. -/
theorem stringsToLower_of_equalsIgnoringCase {text word : String}
    (equal : equalsIgnoringCase text word = true) (ascii : ∀ w ∈ word.data, w.toNat < 128) :
    stringsToLower text = word := by
  have lowered : text.data.map Char.toLower = word.data := by
    simpa [equalsIgnoringCase] using equal
  unfold stringsToLower
  rw [List.map_congr_left fun c member =>
    unicodeToLower_of_ascii (ascii _ (lowered ▸ List.mem_map_of_mem _ member)), lowered]

theorem head?_filterMap_is4 (addresses : List NodeAddr) :
    (addresses.filterMap NodeAddr.is4).head? = firstIPv4 addresses := by
  induction addresses with
  | nil => rfl
  | cons address rest inductionHypothesis =>
    cases address <;> simp [NodeAddr.is4, firstIPv4, List.findSome?, ← inductionHypothesis]

/-- Every peer a node yields passes the documentation's filter, under the node's first IPv4
address. The converse fails only for OS texts spelled with `İ` (U+0130), which
`strings.ToLower` lowers to `i`. -/
theorem extractPeer_probed {p : NodeView} {peer : Peer} (extracted : extractPeer p = some peer) :
    p.probed = true ∧ p.ipv4 = some peer.ip := by
  obtain ⟨valid, online, untagged, notIOS, notAndroid, -, found⟩ := extractPeer_some extracted
  have ipv4 : p.ipv4 = some peer.ip := (head?_filterMap_is4 _).trans found
  have notMobile : ∀ word, stringsToLower (p.hostinfoOS.getD "") ≠ word →
      (∀ w ∈ word.data, w.toNat < 128) → equalsIgnoringCase (p.hostinfoOS.getD "") word = false :=
    fun word other ascii => Bool.eq_false_iff.mpr fun equal =>
      other (stringsToLower_of_equalsIgnoringCase equal ascii)
  refine ⟨?_, ipv4⟩
  simp only [NodeView.probed, valid, online, notMobile _ notIOS (by decide),
    notMobile _ notAndroid (by decide), ipv4]
  simpa [mullvadExitNodeTag] using untagged

/-- The address of every peer of a map's peer list is the first IPv4 address of a probed
node of the map. -/
theorem ip_mem_of_mem_extractPeers {nm : NetworkMap} {peer : Peer}
    (member : peer ∈ extractPeers nm) : peer.ip ∈ probeIPs nm := by
  obtain ⟨p, nodeMember, extracted⟩ := List.mem_filterMap.mp member
  obtain ⟨probed, ipv4⟩ := extractPeer_probed extracted
  exact List.mem_filterMap.mpr ⟨p, List.mem_filter.mpr ⟨nodeMember, probed⟩, ipv4⟩

end Wc3ts

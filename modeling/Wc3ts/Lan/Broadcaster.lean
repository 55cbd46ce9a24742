import Wc3ts.Game.Game
import Wc3ts.Game.GoMap

/-!
`lan.Broadcaster`: on every tick it announces the cached remote games on the LAN and
withdraws the ones announced at the previous tick that are gone. An announcement is the
game's preserved `RawData` with its last two bytes overwritten by the TCP proxy's port,
followed by a RefreshGame with the current slot counts; a withdrawal is a DecreateGame with
the host counter the game was announced under. A tick's effect is the list of datagrams it
writes to `255.255.255.255:6112`, in the order it writes them.

`broadcastGames_spec` is the whole tick, end to end. `cancellations_of_ticks` is what two
consecutive ticks say about withdrawals: they are tracked by key, not by host counter.
-/

namespace Wc3ts

/-- `lan.DefaultPort`. -/
def defaultPort : UInt16 := 6112

/-- `minPacketSize`. -/
def minPacketSize : Nat := 4

/-- `portFieldSize`. -/
def portFieldSize : Nat := 2

/-- `lan.Broadcaster`: the cached games, the keys announced at the last tick with their host
counters, and the proxy port. The socket and the broadcast address never change. -/
structure Broadcaster where
  games : List Game
  previousGameKeys : GoMap String UInt32
  proxyPort : UInt16

/-- `NewBroadcaster`. -/
def newBroadcaster (proxyPort : UInt16) : Broadcaster := ⟨[], GoMap.empty, proxyPort⟩

/-- `OnGamesChanged`: replace the cache; the next tick uses it. -/
def Broadcaster.onGamesChanged (b : Broadcaster) (games : List Game) : Broadcaster :=
  { b with games }

/-! ### The three packets -/

/-- The copy `sendRawGameInfo` sends: `data[portIdx] = byte(port)`,
`data[portIdx+1] = byte(port >> 8)` with `portIdx = len(data) - portFieldSize`. -/
def rewritePort (data : Bytes) (port : UInt16) : Bytes :=
  let portIdx := data.length - portFieldSize
  (data.set portIdx port.toUInt8).set (portIdx + 1) (port >>> 8).toUInt8

/-- `sendRawGameInfo`: nothing for a packet shorter than `minPacketSize`, else the copy with
the port rewritten. -/
def sendRawGameInfo (proxyPort : UInt16) (g : Game) : List Bytes :=
  if g.rawData.length < minPacketSize then [] else [rewritePort g.rawData proxyPort]

/-- `sendRefreshGame`: `F7 32 10 00`, then the three counters. -/
def sendRefreshGame (hostCounter slotsUsed slotsAvailable : UInt32) : Bytes :=
  [0xF7, 0x32, 0x10, 0x00] ++ le32 hostCounter ++ le32 slotsUsed ++ le32 slotsAvailable

/-- `sendDecreateGame`: `F7 33 08 00`, then the host counter. -/
def sendDecreateGame (hostCounter : UInt32) : Bytes :=
  [0xF7, 0x33, 0x08, 0x00] ++ le32 hostCounter

/-! ### One tick -/

/-- The first loop of `broadcastGames`: for each remote game in cache order, record its key
and host counter in `currentKeys`, then send its announcement and a RefreshGame. -/
def announce (proxyPort : UInt16) : List Game → GoMap String UInt32 → GoMap String UInt32 × List Bytes
  | [], currentKeys => (currentKeys, [])
  | g :: rest, currentKeys =>
    if g.source ≠ .sourceRemote then announce proxyPort rest currentKeys
    else
      let later := announce proxyPort rest (currentKeys.insert g.key g.info.hostCounter)
      (later.1, sendRawGameInfo proxyPort g ++
        [sendRefreshGame g.info.hostCounter g.info.slotsUsed g.info.slotsAvailable] ++ later.2)

/-- The second loop: a DecreateGame for each previous key that is not current, in the order
the range visits `previousGameKeys`. -/
def cancel (currentKeys : GoMap String UInt32) (previous : List (String × UInt32)) : List Bytes :=
  previous.filterMap fun entry =>
    if (currentKeys.lookup entry.1).isSome then none else some (sendDecreateGame entry.2)

/-- `broadcastGames`: both loops, then `previousGameKeys = currentKeys`. -/
def Broadcaster.broadcastGames (b : Broadcaster) (order : b.previousGameKeys.Order) :
    Broadcaster × List Bytes :=
  let announced := announce b.proxyPort b.games GoMap.empty
  ({ b with previousGameKeys := announced.1 }, announced.2 ++ cancel announced.1 order.val)

/-! ### The packets' bytes -/

/-- The rewrite replaces exactly the last two bytes by the port in little-endian. -/
theorem rewritePort_eq (data : Bytes) (port : UInt16) (long : portFieldSize ≤ data.length) :
    rewritePort data port = data.take (data.length - 2) ++ le16 port := by
  have twoBytes : 2 ≤ data.length := long
  obtain ⟨first, second, last⟩ : ∃ first second, data.drop (data.length - 2) = [first, second] :=
    List.length_eq_two.mp (by simp; omega)
  have split : data = data.take (data.length - 2) ++ [first, second] := by
    rw [← last, List.take_append_drop]
  have frontLength : (data.take (data.length - 2)).length = data.length - 2 := by simp
  conv_lhs => rw [split]
  generalize data.take (data.length - 2) = front at frontLength ⊢
  simp only [rewritePort, portFieldSize, List.length_append, List.length_cons, List.length_nil]
  rw [show front.length + (0 + 1 + 1) - 2 = front.length by omega,
    List.set_append_right _ _ (le_refl _), Nat.sub_self, List.set_append_right _ _ (by omega),
    show front.length + 1 - front.length = 1 by omega]
  rfl

/-- Every remote game's announcement and refresh, in cache order. -/
theorem announce_packets (proxyPort : UInt16) (games : List Game) (currentKeys : GoMap String UInt32) :
    (announce proxyPort games currentKeys).2 =
      (games.filter (·.source = .sourceRemote)).flatMap fun g =>
        sendRawGameInfo proxyPort g ++
          [sendRefreshGame g.info.hostCounter g.info.slotsUsed g.info.slotsAvailable] := by
  induction games generalizing currentKeys with
  | nil => rfl
  | cons g rest inductionHypothesis =>
    by_cases remote : g.source = .sourceRemote
    · simp [announce, remote, inductionHypothesis]
    · simp [announce, remote, inductionHypothesis]

/-- With distinct keys, `currentKeys` ends up mapping each remote game's key to its host
counter, on top of what it held. -/
theorem announce_lookup (proxyPort : UInt16) (games : List Game) (currentKeys : GoMap String UInt32)
    (distinct : (games.map Game.key).Nodup) (key : String) :
    (announce proxyPort games currentKeys).1.lookup key =
      (((games.filter (·.source = .sourceRemote)).find? (·.key = key)).map (·.info.hostCounter)).or
        (currentKeys.lookup key) := by
  induction games generalizing currentKeys with
  | nil => simp [announce]
  | cons g rest inductionHypothesis =>
    simp only [List.map_cons, List.nodup_cons, List.mem_map] at distinct
    by_cases remote : g.source = .sourceRemote
    · simp only [announce, remote, ne_eq, not_true_eq_false, if_false, List.filter_cons,
        decide_True, if_true, List.find?_cons, inductionHypothesis _ distinct.2, GoMap.lookup_insert]
      by_cases same : g.key = key
      · subst key
        have absent : ((rest.filter (·.source = .sourceRemote)).find? (·.key = g.key)) = none :=
          List.find?_eq_none.mpr fun other member equal =>
            distinct.1 ⟨other, (List.mem_filter.mp member).1, by simpa using equal⟩
        simp [absent]
      · simp [same, Ne.symm same]
    · simp [announce, remote, inductionHypothesis _ distinct.2]

/-- Whatever the keys' distinctness, a key is current after the first loop iff a cached remote
game has it or it was current before. -/
theorem announce_lookup_isSome (proxyPort : UInt16) (games : List Game)
    (currentKeys : GoMap String UInt32) (key : String) :
    ((announce proxyPort games currentKeys).1.lookup key).isSome ↔
      key ∈ (games.filter (·.source = .sourceRemote)).map Game.key ∨
        (currentKeys.lookup key).isSome := by
  induction games generalizing currentKeys with
  | nil => simp [announce]
  | cons g rest inductionHypothesis =>
    by_cases remote : g.source = .sourceRemote
    · rcases eq_or_ne key g.key with same | other
      · subst same
        simp [announce, remote, inductionHypothesis, GoMap.lookup_insert]
      · simp [announce, remote, inductionHypothesis, GoMap.lookup_insert, other, Ne.symm other]
    · simp [announce, remote, inductionHypothesis]

theorem cancel_eq (currentKeys : GoMap String UInt32) (previous : List (String × UInt32)) :
    cancel currentKeys previous =
      (previous.filter fun entry => (currentKeys.lookup entry.1).isNone).map
        fun entry => sendDecreateGame entry.2 := by
  induction previous with
  | nil => rfl
  | cons entry rest inductionHypothesis =>
    cases found : currentKeys.lookup entry.1 <;>
      simp [cancel, found, List.filter_cons, ← inductionHypothesis]

/-- The withdrawals of a tick, whatever order the range takes: one DecreateGame for each
previous key that is not current, with the host counter it was recorded under. -/
theorem cancel_perm (currentKeys : GoMap String UInt32) (previous : GoMap String UInt32)
    (order : previous.Order) :
    (cancel currentKeys order.val).Perm
      ((previous.entries.filter fun entry => (currentKeys.lookup entry.1).isNone).map
        fun entry => sendDecreateGame entry.2) := by
  rw [cancel_eq]
  exact (order.property.filter _).map _

/-- The packets one Remote game of the cache contributes to a tick, byte by byte: if `RawData`
has at least four bytes, the announcement, which is `RawData` with its last two bytes replaced
by the proxy port in little-endian order; then the 16-byte RefreshGame (`F7 32 10 00`, the
host counter, the used slots and the available slots). -/
def tickPackets (proxyPort : UInt16) (g : Game) : List Bytes :=
  (if 4 ≤ g.rawData.length then [g.rawData.take (g.rawData.length - 2) ++ le16 proxyPort] else []) ++
    [[0xF7, 0x32, 0x10, 0x00] ++ le32 g.info.hostCounter ++ le32 g.info.slotsUsed ++
      le32 g.info.slotsAvailable]

theorem sendRawGameInfo_append_refresh (proxyPort : UInt16) (g : Game) :
    sendRawGameInfo proxyPort g ++
      [sendRefreshGame g.info.hostCounter g.info.slotsUsed g.info.slotsAvailable] =
      tickPackets proxyPort g := by
  unfold sendRawGameInfo tickPackets
  by_cases short : g.rawData.length < minPacketSize
  · rw [if_pos short, if_neg (by simp [minPacketSize] at short; omega)]
    rfl
  · rw [if_neg short, if_pos (by simp [minPacketSize] at short; omega),
      rewritePort_eq _ _ (by simp [minPacketSize, portFieldSize] at short ⊢; omega)]
    rfl

/-- A tick writes the remote games' packets in cache order, then one DecreateGame for each
previous key that no cached remote game has. -/
theorem broadcastGames_packets (b : Broadcaster) (order : b.previousGameKeys.Order) :
    ∃ withdrawals, (b.broadcastGames order).2 =
        (b.games.filter (·.source = .sourceRemote)).flatMap (tickPackets b.proxyPort) ++
          withdrawals ∧
      withdrawals.Perm ((b.previousGameKeys.entries.filter fun entry =>
        entry.1 ∉ (b.games.filter (·.source = .sourceRemote)).map Game.key).map
          fun entry => sendDecreateGame entry.2) := by
  refine ⟨cancel (announce b.proxyPort b.games GoMap.empty).1 order.val,
    by simp only [Broadcaster.broadcastGames, announce_packets, sendRawGameInfo_append_refresh], ?_⟩
  have current : ∀ key, ((announce b.proxyPort b.games GoMap.empty).1.lookup key).isNone =
      decide (key ∉ (b.games.filter (·.source = .sourceRemote)).map Game.key) := fun key => by
    rw [Bool.eq_iff_iff, Option.isNone_iff_eq_none, decide_eq_true_iff,
      ← Option.not_isSome_iff_eq_none, announce_lookup_isSome]
    simp
  simpa only [current] using cancel_perm (announce b.proxyPort b.games GoMap.empty).1 _ order

/-- What a tick can write: the announcement or the RefreshGame of a cached remote game, the
announcement being the game's `RawData` with the proxy port in its last two bytes, or a
DecreateGame. -/
theorem mem_broadcastGames (b : Broadcaster) (order : b.previousGameKeys.Order) {payload : Bytes}
    (sent : payload ∈ (b.broadcastGames order).2) :
    (∃ g ∈ b.games, g.source = .sourceRemote ∧
      ((4 ≤ g.rawData.length ∧
          payload = g.rawData.take (g.rawData.length - 2) ++ le16 b.proxyPort) ∨
        payload = sendRefreshGame g.info.hostCounter g.info.slotsUsed g.info.slotsAvailable)) ∨
      ∃ hostCounter, payload = sendDecreateGame hostCounter := by
  obtain ⟨withdrawals, packets, perm⟩ := broadcastGames_packets b order
  rcases List.mem_append.mp (packets ▸ sent) with announced | withdrawn
  · obtain ⟨g, cached, inPackets⟩ := List.mem_flatMap.mp announced
    obtain ⟨member, remote⟩ := List.mem_filter.mp cached
    refine .inl ⟨g, member, of_decide_eq_true remote, ?_⟩
    rcases List.mem_append.mp inPackets with rewritten | refresh
    · split at rewritten
      · exact .inl ⟨‹_›, List.mem_singleton.mp rewritten⟩
      · cases rewritten
    · exact .inr (List.mem_singleton.mp refresh)
  · obtain ⟨entry, -, rfl⟩ := List.mem_map.mp (perm.subset withdrawn)
    exact .inr ⟨entry.2, rfl⟩

/-- A tick keeps the proxy port. -/
@[simp] theorem broadcastGames_proxyPort (b : Broadcaster) (order : b.previousGameKeys.Order) :
    (b.broadcastGames order).1.proxyPort = b.proxyPort :=
  rfl

/-- With distinct keys, a tick leaves `previousGameKeys` mapping exactly the remote games' keys
to their host counters. -/
theorem broadcastGames_lookup_eq_some_iff (b : Broadcaster) (order : b.previousGameKeys.Order)
    (distinct : (b.games.map Game.key).Nodup) (key : String) (hostCounter : UInt32) :
    (b.broadcastGames order).1.previousGameKeys.lookup key = some hostCounter ↔
      ∃ g ∈ b.games,
        g.source = .sourceRemote ∧ g.key = key ∧ g.info.hostCounter = hostCounter := by
  simp only [Broadcaster.broadcastGames, announce_lookup _ _ _ distinct, GoMap.lookup_empty,
    Option.or_none, Option.map_eq_some']
  constructor
  · rintro ⟨g, found, rfl⟩
    have member := List.mem_filter.mp (List.mem_of_find?_eq_some found)
    exact ⟨g, member.1, by simpa using member.2, by simpa using List.find?_some found, rfl⟩
  · rintro ⟨g, member, remote, rfl, rfl⟩
    have remoteMember : g ∈ b.games.filter (·.source = .sourceRemote) :=
      List.mem_filter.mpr ⟨member, by simpa using remote⟩
    obtain ⟨other, found⟩ : ∃ other,
        (b.games.filter (·.source = .sourceRemote)).find? (·.key = g.key) = some other :=
      Option.isSome_iff_exists.mp
      (List.find?_isSome.mpr ⟨g, remoteMember, decide_eq_true rfl⟩)
    have otherMember := (List.mem_filter.mp (List.mem_of_find?_eq_some found)).1
    have sameKey : other.key = g.key := by simpa using List.find?_some found
    exact ⟨other, found, by rw [List.inj_on_of_nodup_map distinct otherMember member sameKey]⟩

/-- One tick, end to end: first each remote game's announcement (its raw packet with the proxy
port in the last two bytes, if it has at least four bytes) and its RefreshGame, in cache
order; then, in whatever order the range visits `previousGameKeys`, one DecreateGame for each
previous key that no cached remote game has. The little-endian fields decode back to their
values, the cache is untouched, and `previousGameKeys` ends up mapping exactly the remote
games' keys to their host counters. -/
theorem broadcastGames_spec (b : Broadcaster) (order : b.previousGameKeys.Order)
    (distinct : (b.games.map Game.key).Nodup) :
    (∃ withdrawals, (b.broadcastGames order).2 =
        (b.games.filter (·.source = .sourceRemote)).flatMap (tickPackets b.proxyPort) ++
          withdrawals ∧
      withdrawals.Perm ((b.previousGameKeys.entries.filter fun entry =>
        entry.1 ∉ (b.games.filter (·.source = .sourceRemote)).map Game.key).map
          fun entry => [0xF7, 0x33, 0x08, 0x00] ++ le32 entry.2)) ∧
    (le16 b.proxyPort).map UInt8.toNat = [b.proxyPort.toNat % 256, b.proxyPort.toNat / 256] ∧
    (∀ (x : UInt32) (rest : Bytes), readUInt32 (le32 x ++ rest) = some (x, rest)) ∧
    (∀ (x : UInt16) (rest : Bytes), readUInt16 (le16 x ++ rest) = some (x, rest)) ∧
    (b.broadcastGames order).1.games = b.games ∧
    ∀ key hostCounter, (b.broadcastGames order).1.previousGameKeys.lookup key = some hostCounter ↔
      ∃ g ∈ b.games, g.source = .sourceRemote ∧ g.key = key ∧ g.info.hostCounter = hostCounter := by
  have highByte : b.proxyPort.toNat / 256 < 256 := by
    have := uint16_toNat_lt b.proxyPort
    omega
  refine ⟨broadcastGames_packets b order, ?_, readUInt32_le32, readUInt16_le16, rfl,
    broadcastGames_lookup_eq_some_iff b order distinct⟩
  rw [le16_toNat, Nat.mod_eq_of_lt highByte]

theorem broadcastGames_spec_one_remote_game :
    let host : Game := ⟨⟨⟨productTFT, 26⟩, 1, 0, "dota", [], 12, 0, 1, 11, 0, 6112⟩,
      [0xF7, 0x30, 0x06, 0x00, 0xE0, 0x17], .sourceRemote, ⟨100, 64, 0, 2⟩, "peer", 0, 0⟩
    let b := (newBroadcaster defaultPort).onGamesChanged [host]
    (b.games.map Game.key).Nodup ∧
    (∃ withdrawals, (b.broadcastGames (GoMap.Order.stored _)).2 =
        (b.games.filter (·.source = .sourceRemote)).flatMap (tickPackets b.proxyPort) ++
          withdrawals ∧
      withdrawals.Perm ((b.previousGameKeys.entries.filter fun entry =>
        entry.1 ∉ (b.games.filter (·.source = .sourceRemote)).map Game.key).map
          fun entry => [0xF7, 0x33, 0x08, 0x00] ++ le32 entry.2)) ∧
    (le16 b.proxyPort).map UInt8.toNat = [b.proxyPort.toNat % 256, b.proxyPort.toNat / 256] ∧
    (∀ (x : UInt32) (rest : Bytes), readUInt32 (le32 x ++ rest) = some (x, rest)) ∧
    (∀ (x : UInt16) (rest : Bytes), readUInt16 (le16 x ++ rest) = some (x, rest)) ∧
    (b.broadcastGames (GoMap.Order.stored _)).1.games = b.games ∧
    ∀ key hostCounter,
      (b.broadcastGames (GoMap.Order.stored _)).1.previousGameKeys.lookup key = some hostCounter ↔
        ∃ g ∈ b.games, g.source = .sourceRemote ∧ g.key = key ∧ g.info.hostCounter = hostCounter :=
  ⟨by decide, broadcastGames_spec _ _ (by decide)⟩

/-! ### Two ticks -/

/-- With distinct keys, what a tick records is the remote games' keys and host counters. -/
theorem broadcastGames_previousGameKeys_perm (b : Broadcaster) (order : b.previousGameKeys.Order)
    (distinct : (b.games.map Game.key).Nodup) :
    (b.broadcastGames order).1.previousGameKeys.entries.Perm
      ((b.games.filter (·.source = .sourceRemote)).map fun g => (g.key, g.info.hostCounter)) := by
  have remoteDistinct : ((b.games.filter (·.source = .sourceRemote)).map fun g =>
      (g.key, g.info.hostCounter)).Nodup := by
    apply List.Nodup.of_map Prod.fst
    rw [List.map_map]
    exact ((List.filter_sublist _).map Game.key).nodup distinct
  refine (List.perm_ext_iff_of_nodup ((b.broadcastGames order).1.previousGameKeys.nodup.of_map _)
    remoteDistinct).mpr fun entry => ?_
  rw [← GoMap.lookup_eq_some_iff, broadcastGames_lookup_eq_some_iff b order distinct]
  simp [Prod.ext_iff, and_assoc, eq_comm]

/-- Two consecutive ticks, with any cache updates before each: the second tick announces the
games of its cache, then withdraws, once each, exactly the remote games of the first tick
whose key no remote game of the second has, with the host counter they were announced under.
Withdrawals follow keys: a game kept under its key is never withdrawn, whatever its host
counter became. -/
theorem cancellations_of_ticks (b : Broadcaster) (first second : List Game)
    (firstOrder : (b.onGamesChanged first).previousGameKeys.Order)
    (secondOrder : (((b.onGamesChanged first).broadcastGames firstOrder).1.onGamesChanged
      second).previousGameKeys.Order)
    (distinct : (first.map Game.key).Nodup) :
    ∃ withdrawals,
      ((((b.onGamesChanged first).broadcastGames firstOrder).1.onGamesChanged second).broadcastGames
          secondOrder).2 =
        (second.filter (·.source = .sourceRemote)).flatMap (tickPackets b.proxyPort) ++
          withdrawals ∧
      withdrawals.Perm ((((first.filter (·.source = .sourceRemote)).filter fun g =>
          g.key ∉ (second.filter (·.source = .sourceRemote)).map Game.key)).map
        fun g => sendDecreateGame g.info.hostCounter) := by
  obtain ⟨withdrawals, packets, withdrawn⟩ := broadcastGames_packets _ secondOrder
  refine ⟨withdrawals, packets, withdrawn.trans ?_⟩
  have recorded := broadcastGames_previousGameKeys_perm (b.onGamesChanged first) firstOrder distinct
  simpa [List.filter_map, List.map_map, Function.comp_def] using (recorded.filter _).map _

theorem cancellations_of_ticks_game_gone :
    let host : Game := ⟨⟨⟨productTFT, 26⟩, 1, 0, "dota", [], 12, 0, 1, 11, 0, 6112⟩,
      [0xF7, 0x30, 0x06, 0x00, 0xE0, 0x17], .sourceRemote, ⟨100, 64, 0, 2⟩, "peer", 0, 0⟩
    let b := newBroadcaster defaultPort
    ([host].map Game.key).Nodup ∧
    ∃ withdrawals,
      ((((b.onGamesChanged [host]).broadcastGames (GoMap.Order.stored _)).1.onGamesChanged
          []).broadcastGames (GoMap.Order.stored _)).2 =
        (([] : List Game).filter (·.source = .sourceRemote)).flatMap (tickPackets b.proxyPort) ++
          withdrawals ∧
      withdrawals.Perm (((([host].filter (·.source = .sourceRemote)).filter fun g =>
          g.key ∉ (([] : List Game).filter (·.source = .sourceRemote)).map Game.key)).map
        fun g => sendDecreateGame g.info.hostCounter) :=
  ⟨by decide, cancellations_of_ticks _ _ _ _ _ (by decide)⟩

/-- A peer re-hosts a game under the same name with a new host counter between two ticks:
the first tick announces host counter 1, the second announces host counter 2 and sends no
DecreateGame at all, so the game client is never told that game 1 is gone. -/
theorem rehosted_game_not_withdrawn :
    let host : Game := ⟨⟨⟨productTFT, 26⟩, 1, 0, "dota", [], 12, 0, 1, 11, 0, 6112⟩,
      [0xF7, 0x30, 0x06, 0x00, 0xE0, 0x17], .sourceRemote, ⟨100, 64, 0, 2⟩, "peer", 0, 0⟩
    let rehosted : Game := { host with info := { host.info with hostCounter := 2 } }
    let firstTick := ((newBroadcaster defaultPort).onGamesChanged [host]).broadcastGames
      (GoMap.Order.stored _)
    let secondTick := (firstTick.1.onGamesChanged [rehosted]).broadcastGames (GoMap.Order.stored _)
    firstTick.2 = [[0xF7, 0x30, 0x06, 0x00, 0xE0, 0x17], sendRefreshGame 1 1 11] ∧
      secondTick.2 = [[0xF7, 0x30, 0x06, 0x00, 0xE0, 0x17], sendRefreshGame 2 1 11] := by
  decide

end Wc3ts

import Wc3ts.Peer.Manager

/-!
`proxy/tcp.go`: the TCP Join proxy. For each connection it reads one buffer of at most 512
bytes, which should hold a Join; it finds the game by the Join's host counter with
`FindByHostCounter`, dials the game's `PeerIP` at the game's `GamePort`, writes the buffer
there unchanged, and relays the rest of the traffic as it comes.

The protocol library decodes the Join, so its decoder is a parameter here: the host counter
of the Join a buffer holds, or nothing when the buffer is not a Join. The relay copies bytes
without reading them and is left out.
-/

namespace Wc3ts

/-- `maxJoinPacketSize`. -/
def maxJoinPacketSize : Nat := 512

/-- `connectToRemote`: the endpoint the proxy dials for a game. -/
def connectToRemote (g : Game) : Endpoint := ⟨g.peerIP, g.info.gamePort⟩

/-- The one `Read` of `readJoinPacket` into its buffer: the first bytes the client has sent. -/
def readInitialPacket (received : Bytes) : Bytes := received.take maxJoinPacketSize

/-- `handleConnection` up to the relay: the endpoint dialed and the bytes written to it first,
or `none` when the connection is closed, because the buffer is not a Join or no Remote game
has its host counter. -/
def handleConnection (r : Registry) (order : r.games.Order)
    (joinHostCounter : Bytes → Option UInt32) (received : Bytes) : Option (Endpoint × Bytes) :=
  let initialPacket := readInitialPacket received
  match joinHostCounter initialPacket with
  | none => none
  | some hostCounter =>
    (r.findByHostCounter hostCounter order).map fun remoteGame =>
      (connectToRemote remoteGame, initialPacket)

/-! ### What a connection does -/

section Connection

variable (r : Registry) (order : r.games.Order) (joinHostCounter : Bytes → Option UInt32)
  (received : Bytes)

/-- The proxy dials the game `FindByHostCounter` returns for the Join's host counter and
writes the buffer it read there. -/
theorem handleConnection_eq_some_iff {dial : Endpoint} {sent : Bytes} :
    handleConnection r order joinHostCounter received = some (dial, sent) ↔
      ∃ hostCounter remoteGame,
        joinHostCounter (readInitialPacket received) = some hostCounter ∧
        r.findByHostCounter hostCounter order = some remoteGame ∧
        dial = connectToRemote remoteGame ∧ sent = readInitialPacket received := by
  dsimp only [handleConnection]
  split
  · rename_i noJoin
    simp [noJoin]
  · rename_i hostCounter join
    constructor
    · intro handled
      obtain ⟨remoteGame, found, equal⟩ := Option.map_eq_some'.mp handled
      cases equal
      exact ⟨hostCounter, remoteGame, join, found, rfl, rfl⟩
    · rintro ⟨hostCounter', remoteGame, join', found, rfl, rfl⟩
      rw [join, Option.some.injEq] at join'
      rw [join', found]
      rfl

/-- The proxy closes the connection without dialing exactly when the buffer is not a Join or
no Remote game in the registry has the Join's host counter. -/
theorem handleConnection_eq_none_iff :
    handleConnection r order joinHostCounter received = none ↔
      ∀ hostCounter, joinHostCounter (readInitialPacket received) = some hostCounter →
        ∀ game, r.games.lookup game.key = some game → game.source = .sourceRemote →
          game.info.hostCounter ≠ hostCounter := by
  dsimp only [handleConnection]
  split
  · rename_i noJoin
    simp [noJoin]
  · rename_i hostCounter join
    simp only [Option.map_eq_none', join, Option.some.injEq, forall_eq']
    exact r.findByHostCounter_eq_none_iff hostCounter order

/-- A Join that fits the buffer reaches the origin byte for byte. -/
theorem readInitialPacket_of_length_le (fits : received.length ≤ maxJoinPacketSize) :
    readInitialPacket received = received :=
  List.take_of_length_le fits

end Connection

end Wc3ts

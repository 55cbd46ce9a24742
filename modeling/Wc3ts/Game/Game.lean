import Wc3ts.Go.Strings
import Wc3ts.Wire.W3gs

/-!
The game record of `game/game.go`: a decoded announcement, the bytes it arrived as, where it
came from, and when it was seen. Its `Key` is the registry's map key. Addresses are the IPv4
addresses wc3ts meets (the probe engine's `udp4` socket and the tailscale peer list only
yield IPv4), and times are clock readings in nanoseconds.

A key tells games apart whatever their names hold (`Game.key_eq_iff`): a Local key starts
with a letter and a Remote key with a digit, and the first colon of a Remote key ends the
address, which prints injectively.
-/

namespace Wc3ts

/-! ### Addresses -/

/-- `netip.Addr` holding an IPv4 address, octet by octet. -/
structure Addr where
  octet0 : UInt8
  octet1 : UInt8
  octet2 : UInt8
  octet3 : UInt8
  deriving DecidableEq, Repr

/-- `Addr.IsLoopback` on an IPv4 address: the block `127.0.0.0/8`. -/
def Addr.isLoopback (ip : Addr) : Bool :=
  ip.octet0 = 127

/-- `127.0.0.1`, where `probeLocal` sends its query. -/
def Addr.loopback : Addr := ⟨127, 0, 0, 1⟩

/-- `net.IPv4bcast`, the broadcaster's destination. -/
def Addr.broadcast : Addr := ⟨255, 255, 255, 255⟩

/-- `Addr.String` on an IPv4 address: dotted decimal. -/
def Addr.toString (ip : Addr) : String :=
  ip.octet0.toNat.repr ++ "." ++ ip.octet1.toNat.repr ++ "." ++ ip.octet2.toNat.repr ++ "." ++
    ip.octet3.toNat.repr

/-! ### Time -/

/-- `time.Time`, read as nanoseconds on the daemon's clock. The zero `time.Time` is `0`,
before every reading `time.Now` returns. -/
abbrev Time := Nat

/-- `time.Duration`: signed nanoseconds. -/
abbrev Duration := Int

/-- `time.Second`. -/
def second : Duration := 1000000000

/-! ### Games -/

/-- `game.Source`. The code only ever builds the two constants. -/
inductive Source where
  | sourceLocal
  | sourceRemote
  deriving DecidableEq, Repr

/-- `game.Game`. -/
structure Game where
  info : GameInfo
  rawData : Bytes
  source : Source
  peerIP : Addr
  peerName : String
  firstSeen : Time
  lastSeen : Time
  deriving DecidableEq, Repr

/-- `Game.Key`: `"local:" + name` for local games, `peerIP + ":" + name` for the others. -/
def Game.key (g : Game) : String :=
  if g.source = .sourceLocal then "local:" ++ g.info.gameName
  else g.peerIP.toString ++ ":" ++ g.info.gameName

/-- `Game.IsStale`, with the reading `time.Since` takes passed in: more than `timeout` since
the game was last seen. -/
def Game.isStale (g : Game) (timeout : Duration) (now : Time) : Bool :=
  decide ((now : Int) - g.lastSeen > timeout)

/-- The key reads neither timestamp, so stamping a game keeps its key. -/
@[simp] theorem Game.key_stamp (g : Game) (first last : Time) :
    { g with firstSeen := first, lastSeen := last }.key = g.key := rfl

@[simp] theorem Game.key_lastSeen (g : Game) (last : Time) :
    { g with lastSeen := last }.key = g.key := rfl

/-! ### Keys tell games apart -/

/-- An address prints as its four octets in decimal, joined by dots. -/
theorem Addr.toString_data (ip : Addr) :
    ip.toString.data = Nat.toDigits 10 ip.octet0.toNat ++ '.' :: (Nat.toDigits 10 ip.octet1.toNat ++
      '.' :: (Nat.toDigits 10 ip.octet2.toNat ++ '.' :: Nat.toDigits 10 ip.octet3.toNat)) := by
  simp [Addr.toString]

theorem Addr.isDigit_or_dot {ip : Addr} {c : Char} (member : c ∈ ip.toString.data) :
    c.isDigit = true ∨ c = '.' := by
  rw [Addr.toString_data] at member
  simp only [List.mem_append, List.mem_cons] at member
  rcases member with member | rfl | member | rfl | member | rfl | member
  all_goals first | exact .inl (isDigit_of_mem_toDigits member) | exact .inr rfl

/-- No colon in an address: the key's separator is the first colon of a Remote key. -/
theorem Addr.colon_not_mem_toString (ip : Addr) : ':' ∉ ip.toString.data := fun member => by
  rcases Addr.isDigit_or_dot member with digit | dot
  · exact absurd digit (by decide)
  · exact absurd dot (by decide)

theorem Addr.dot_not_mem_toDigits (n : Nat) : '.' ∉ Nat.toDigits 10 n := fun member =>
  absurd (isDigit_of_mem_toDigits member) (by decide)

/-- An address starts with a digit. -/
theorem Addr.toString_head (ip : Addr) :
    ∃ c rest, ip.toString.data = c :: rest ∧ c.isDigit := by
  obtain ⟨c, rest, first⟩ := List.exists_cons_of_ne_nil (toDigits_ne_nil ip.octet0.toNat)
  refine ⟨c, _, by rw [Addr.toString_data, first, List.cons_append], ?_⟩
  exact isDigit_of_mem_toDigits (first ▸ List.mem_cons_self c rest)

/-- Distinct addresses print differently. -/
theorem Addr.toString_injective : Function.Injective Addr.toString := by
  intro ip ip' equal
  have octets := congrArg String.data equal
  simp only [Addr.toString_data] at octets
  obtain ⟨first, octets⟩ := append_cons_inj_of_not_mem (Addr.dot_not_mem_toDigits _)
    (Addr.dot_not_mem_toDigits _) octets
  obtain ⟨second, octets⟩ := append_cons_inj_of_not_mem (Addr.dot_not_mem_toDigits _)
    (Addr.dot_not_mem_toDigits _) octets
  obtain ⟨third, fourth⟩ := append_cons_inj_of_not_mem (Addr.dot_not_mem_toDigits _)
    (Addr.dot_not_mem_toDigits _) octets
  have octet : ∀ x y : UInt8, Nat.toDigits 10 x.toNat = Nat.toDigits 10 y.toNat → x = y :=
    fun x y digits => UInt8.toNat.inj (by
      rw [← decimalValue_toDigits x.toNat, digits, decimalValue_toDigits])
  cases ip
  cases ip'
  simp only [Addr.mk.injEq]
  exact ⟨octet _ _ first, octet _ _ second, octet _ _ third, octet _ _ fourth⟩

theorem Game.key_data (g : Game) : g.key.data =
    if g.source = .sourceLocal then ['l', 'o', 'c', 'a', 'l', ':'] ++ g.info.gameName.data
    else g.peerIP.toString.data ++ ':' :: g.info.gameName.data := by
  unfold Game.key
  split <;> simp

/-- Two games share a key exactly when they have the same source and name and, when Remote,
the same peer address. -/
theorem Game.key_eq_iff (g g' : Game) :
    g.key = g'.key ↔ g.source = g'.source ∧ g.info.gameName = g'.info.gameName ∧
      (g.source = .sourceRemote → g.peerIP = g'.peerIP) := by
  rw [String.ext_iff, Game.key_data, Game.key_data]
  cases source : g.source <;> cases source' : g'.source
  · simp [String.ext_iff]
  · obtain ⟨c, rest, head, digit⟩ := g'.peerIP.toString_head
    simp only [if_true, ite_false, head, List.cons_append, reduceCtorEq, false_and, iff_false]
    intro equal
    rw [← (List.cons.inj equal).1] at digit
    exact absurd digit (by decide)
  · obtain ⟨c, rest, head, digit⟩ := g.peerIP.toString_head
    simp only [if_true, ite_false, head, List.cons_append, reduceCtorEq, false_and, iff_false]
    intro equal
    rw [(List.cons.inj equal).1] at digit
    exact absurd digit (by decide)
  · simp only [reduceCtorEq, if_false, true_and, forall_const]
    constructor
    · intro equal
      obtain ⟨address, name⟩ := append_cons_inj_of_not_mem g.peerIP.colon_not_mem_toString
        g'.peerIP.colon_not_mem_toString equal
      exact ⟨String.ext name, Addr.toString_injective (String.ext address)⟩
    · rintro ⟨name, address⟩
      rw [name, address]

end Wc3ts

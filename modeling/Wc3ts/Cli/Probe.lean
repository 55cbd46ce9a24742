import Wc3ts.Config.Version
import Wc3ts.Peer.Manager

/-!
`cmd/wc3ts/probe.go`: the `probe` subcommand. Its `Exec` checks that a host was given, reads
the version with `ParseVersion` and the product from its name, and sends a SearchGame with
host counter 1 to port 6112 of every host that resolves to an IPv4 address. It then reads
each datagram that comes back into a 4096-byte buffer until the deadline and counts it with
`handlePacket`, which checks length, signature and packet id before it decodes the datagram.

Those checks reject no datagram the decoder reads as a GameInfo, so the command counts
exactly the datagrams the decoder reads as a GameInfo (`receiveResponses_eq_countP`).

Name resolution is the system's: `net.ParseIP` and the resolver are a parameter
(`Resolver`).
-/

namespace Wc3ts

/-! ### The command -/

/-- `w3gs.ProductROC`, the code `WAR3`. -/
def productROC : UInt32 := 0x57415233

/-- The errors of the probe command: `errNoHosts`, the error of `ParseVersion`,
`errUnknownProduct` with the name given, `errPacketTooShort`, an error of the decoder, and
`errNotGameInfo`. -/
inductive ProbeError where
  | noHosts
  | invalidVersion (err : VersionError)
  | unknownProduct (product : String)
  | packetTooShort
  | decode
  | notGameInfo
  deriving DecidableEq, Repr

/-- The product code of a `-product` flag. -/
def productOf (product : String) : Option UInt32 :=
  match product with
  | "W3XP" | "TFT" => some productTFT
  | "WAR3" | "ROC" => some productROC
  | _ => none

/-- The name service the command runs against: `net.ParseIP`, and the resolver's
`LookupIPAddr`, which fails (`none`) or gives the host's addresses. -/
structure Resolver where
  parseIP : String → Option NodeAddr
  lookupIPAddr : String → Option (List NodeAddr)

/-- `resolveHost`, by the address it gives port 6112: the host as `ParseIP` reads it, else the
first IPv4 address the resolver gives; none when the lookup fails or gives no IPv4 address. -/
def resolveHost (resolver : Resolver) (host : String) : Option NodeAddr :=
  match resolver.parseIP host with
  | some ip => some ip
  | none =>
    match resolver.lookupIPAddr host with
    | none => none
    | some ips => (ips.findSome? NodeAddr.is4).map NodeAddr.v4

/-- `sendSearchToHosts`: the datagrams the loop writes, in host order. A host that does not
resolve is skipped; `Send` on the `udp4` socket fails for an IPv6 address, and the loop prints
the error and goes on. -/
def sendSearchToHosts (resolver : Resolver) (hosts : List String) (pkt : SearchGame) :
    List Datagram :=
  hosts.filterMap fun host =>
    match resolveHost resolver host with
    | some (.v4 ip) => some ⟨⟨ip, defaultPort⟩, pkt.serialize⟩
    | _ => none

/-- `probeHosts` up to `receiveResponses`: the SearchGame of the product and version with host
counter 1, sent to the hosts. -/
def probeHosts (resolver : Resolver) (hosts : List String) (product version : UInt32) :
    List Datagram :=
  sendSearchToHosts resolver hosts ⟨⟨product, version⟩, 1⟩

/-- The command's `Exec` up to `receiveResponses`: its checks, then what `probeHosts` sends. -/
def probeExec (resolver : Resolver) (args : List String) (versionStr product : String) :
    Except ProbeError (List Datagram) :=
  if args = [] then .error .noHosts
  else
    match parseVersion versionStr with
    | .error err => .error (.invalidVersion err)
    | .ok version =>
      match productOf product with
      | none => .error (.unknownProduct product)
      | some prod => .ok (probeHosts resolver args prod version)

/-- `parseGameInfo`. -/
def parseGameInfo (data : Bytes) : Except ProbeError GameInfo :=
  if data.length < 4 then .error .packetTooShort
  else
    match deserialize data with
    | none => .error .decode
    | some (.gameInfo info, _) => .ok info
    | some _ => .error .notGameInfo

/-- `handlePacket`: 1 for a GameInfo, 0 for anything else. -/
def handlePacket (data : Bytes) : Nat :=
  if data.length < 4 ∨ data.head? ≠ some protocolSig then 0
  else if data[1]? ≠ some pidGameInfo then 0
  else
    match parseGameInfo data with
    | .ok _ => 1
    | .error _ => 0

/-- The read buffer of `receiveResponses`: a longer datagram is cut to it. -/
def probeBufferSize : Nat := 4096

/-- The count `receiveResponses` reaches over the datagrams read before the deadline. -/
def receiveResponses (datagrams : List Bytes) : Nat :=
  datagrams.foldl (fun gamesFound data => gamesFound + handlePacket (data.take probeBufferSize)) 0

/-- `printSummary`. -/
def printSummary (count : Nat) : String :=
  if count = 0 then "No games found." else "Found " ++ count.repr ++ " game(s)."

/-! ### What the command counts -/

/-- Whether the decoder reads a GameInfo from the front of the bytes. -/
def decodesGameInfo (data : Bytes) : Bool :=
  match deserialize data with
  | some (.gameInfo _, _) => true
  | _ => false

theorem parseGameInfo_eq_ok_iff {data : Bytes} {info : GameInfo} :
    parseGameInfo data = .ok info ↔ ∃ size, deserialize data = some (.gameInfo info, size) := by
  unfold parseGameInfo
  split
  · rename_i short
    refine ⟨nofun, fun ⟨size, decoded⟩ => absurd short ?_⟩
    obtain ⟨_, _, _, _, rfl, -⟩ := deserialize_some decoded
    simp
  · split <;> simp_all

/-- `handlePacket` counts exactly what the decoder reads as a GameInfo: its checks of length,
signature and packet id reject no GameInfo frame. -/
theorem handlePacket_eq (data : Bytes) :
    handlePacket data = if decodesGameInfo data then 1 else 0 := by
  by_cases found : ∃ info size, deserialize data = some (.gameInfo info, size)
  · obtain ⟨info, size, decoded⟩ := found
    have parsed := parseGameInfo_eq_ok_iff.mpr ⟨size, decoded⟩
    have counted : decodesGameInfo data = true := by simp only [decodesGameInfo, decoded]
    obtain ⟨pid, lo, hi, rest, rfl, -, -, -, body⟩ := deserialize_some decoded
    obtain ⟨rfl, -⟩ := deserializeBody_eq_gameInfo_iff.mp body
    rw [handlePacket, if_neg (by simp), if_neg (by simp), parsed, counted, if_pos rfl]
  · have failed : ∀ info, parseGameInfo data ≠ .ok info := fun info parsed =>
      found ⟨info, parseGameInfo_eq_ok_iff.mp parsed⟩
    have notCounted : decodesGameInfo data = false := by
      unfold decodesGameInfo
      split
      · rename_i info size decoded
        exact absurd ⟨info, size, decoded⟩ found
      · rfl
    cases parsed : parseGameInfo data with
    | ok info => exact absurd parsed (failed info)
    | error => simp [handlePacket, parsed, notCounted]

/-- The probe command counts exactly the datagrams, each cut to the read buffer, from which
the decoder reads a GameInfo. -/
theorem receiveResponses_eq_countP (datagrams : List Bytes) :
    receiveResponses datagrams =
      datagrams.countP fun data => decodesGameInfo (data.take probeBufferSize) := by
  have counted : ∀ (start : Nat) (datagrams : List Bytes),
      datagrams.foldl (fun gamesFound data => gamesFound + handlePacket (data.take probeBufferSize))
        start = start + datagrams.countP fun data => decodesGameInfo (data.take probeBufferSize) := by
    intro start datagrams
    induction datagrams generalizing start with
    | nil => rfl
    | cons data rest inductionHypothesis =>
      rw [List.foldl_cons, inductionHypothesis, List.countP_cons, handlePacket_eq]
      split_ifs <;> omega
  rw [receiveResponses, counted, Nat.zero_add]

end Wc3ts

import Wc3ts.Wire.Bytes

/-!
The W3GS packets wc3ts decodes and encodes, and the frame decoder it calls,
`w3gs.Deserialize`. The decoder belongs to the protocol library, not to this repository, so it
is modelled from the wire layout the spec gives: a four-byte header `F7 | pid | size (LE16)`,
then the packet's fields, the header's size covering the whole frame. The decoder reads one
frame from the front of a buffer and reports how many bytes it consumed; bytes past the frame
are not looked at. That last point is what `Wc3ts/Peer/Manager.lean` turns on: the probe
engine keeps the whole datagram, the decoder reads only the frame.
-/

namespace Wc3ts

/-! ### Packets -/

/-- `w3gs.ProtocolSig`, the first byte of every packet. -/
def protocolSig : UInt8 := 0xF7

/-- `w3gs.PidSearchGame`. -/
def pidSearchGame : UInt8 := 0x2F

/-- `w3gs.PidGameInfo`. -/
def pidGameInfo : UInt8 := 0x30

/-- `w3gs.GameVersion`: the product code (a `DWordString`) and the patch number. -/
structure GameVersion where
  product : UInt32
  version : UInt32
  deriving DecidableEq, Repr

/-- `w3gs.ProductTFT`, the code `W3XP` as its `DWordString`. -/
def productTFT : UInt32 := 0x57335850

/-- `w3gs.SearchGame`, the query the probe engine sends. -/
structure SearchGame where
  gameVersion : GameVersion
  hostCounter : UInt32
  deriving DecidableEq, Repr

/-- `w3gs.GameInfo`, a host's announcement of the game it hosts. The encoded stat string
(map path, host name, map settings) is kept as the wire carries it; wc3ts never reads it. -/
structure GameInfo where
  gameVersion : GameVersion
  hostCounter : UInt32
  entryKey : UInt32
  gameName : String
  gameSettings : Bytes
  slotsTotal : UInt32
  gameFlags : UInt32
  slotsUsed : UInt32
  slotsAvailable : UInt32
  uptimeSec : UInt32
  gamePort : UInt16
  deriving DecidableEq, Repr

/-- What `w3gs.Deserialize` returns: the two packet types wc3ts dispatches on, and every
other packet id with its body. -/
inductive Packet where
  | searchGame (pkt : SearchGame)
  | gameInfo (pkt : GameInfo)
  | unknown (pid : UInt8) (body : Bytes)
  deriving DecidableEq, Repr

/-! ### Field readers -/

/-- A NUL-terminated string at the head of a buffer, and the rest after the NUL. -/
def readCString : Bytes → Option (Bytes × Bytes)
  | [] => none
  | byte :: rest =>
    if byte = 0 then some ([], rest) else (readCString rest).map fun (text, tail) => (byte :: text, tail)

/-- The constant zero byte a GameInfo carries after its game name. -/
def readZero : Bytes → Option Bytes
  | [] => none
  | byte :: rest => if byte = 0 then some rest else none

/-- A Go string read from the wire, one character per byte. -/
def latin1 (bytes : Bytes) : String :=
  String.mk (bytes.map fun byte => Char.ofNat byte.toNat)

theorem readZero_eq_some_iff {bytes rest : Bytes} :
    readZero bytes = some rest ↔ bytes = 0 :: rest := by
  match bytes with
  | [] => simp [readZero]
  | byte :: tail => by_cases zero : byte = 0 <;> simp [readZero, zero]

theorem readCString_append (text rest : Bytes) (fresh : 0 ∉ text) :
    readCString (text ++ 0 :: rest) = some (text, rest) := by
  induction text with
  | nil => simp [readCString]
  | cons byte text inductionHypothesis =>
    simp only [List.mem_cons, not_or] at fresh
    simp [readCString, Ne.symm fresh.1, inductionHypothesis fresh.2]

theorem readCString_some {bytes text rest : Bytes}
    (read : readCString bytes = some (text, rest)) : bytes = text ++ 0 :: rest ∧ 0 ∉ text := by
  induction bytes generalizing text with
  | nil => cases read
  | cons byte tail inductionHypothesis =>
    simp only [readCString] at read
    split at read
    · cases read
      simp_all
    · obtain ⟨⟨text', rest'⟩, inner, equal⟩ := Option.map_eq_some'.mp read
      cases equal
      obtain ⟨written, fresh⟩ := inductionHypothesis inner
      simp_all [Ne.symm]

theorem readCString_eq_some_iff {bytes text rest : Bytes} :
    readCString bytes = some (text, rest) ↔ bytes = text ++ 0 :: rest ∧ 0 ∉ text :=
  ⟨readCString_some, fun ⟨written, fresh⟩ => written ▸ readCString_append text rest fresh⟩
/-! ### Packet bodies -/

/-- Modelled from the spec: the body of a SearchGame, as the protocol library decodes it:
product, version, host counter, nothing else. Each read returns the value and the unread rest
of the body. -/
def SearchGame.deserialize (body : Bytes) : Option SearchGame :=
  match readUInt32 body with
  | none => none
  | some (product, body) =>
  match readUInt32 body with
  | none => none
  | some (version, body) =>
  match readUInt32 body with
  | none => none
  | some (hostCounter, body) =>
  if body = [] then some ⟨⟨product, version⟩, hostCounter⟩ else none

/-- Modelled from the spec: the body of a GameInfo, as the protocol library decodes it, field by
field up to the game port that ends the frame. The encoded stat string is kept as the bytes
between the constant zero and the next NUL, not decoded. -/
def GameInfo.deserialize (body : Bytes) : Option GameInfo :=
  match readUInt32 body with
  | none => none
  | some (product, body) =>
  match readUInt32 body with
  | none => none
  | some (version, body) =>
  match readUInt32 body with
  | none => none
  | some (hostCounter, body) =>
  match readUInt32 body with
  | none => none
  | some (entryKey, body) =>
  match readCString body with
  | none => none
  | some (gameName, body) =>
  match readZero body with
  | none => none
  | some body =>
  match readCString body with
  | none => none
  | some (gameSettings, body) =>
  match readUInt32 body with
  | none => none
  | some (slotsTotal, body) =>
  match readUInt32 body with
  | none => none
  | some (gameFlags, body) =>
  match readUInt32 body with
  | none => none
  | some (slotsUsed, body) =>
  match readUInt32 body with
  | none => none
  | some (slotsAvailable, body) =>
  match readUInt32 body with
  | none => none
  | some (uptimeSec, body) =>
  match readUInt16 body with
  | none => none
  | some (gamePort, body) =>
  if body = [] then
    some { gameVersion := ⟨product, version⟩, hostCounter, entryKey, gameName := latin1 gameName,
           gameSettings, slotsTotal, gameFlags, slotsUsed, slotsAvailable, uptimeSec, gamePort }
  else none

/-- Modelled from the spec: the protocol library's dispatch on the packet id. -/
def deserializeBody (pid : UInt8) (body : Bytes) : Option Packet :=
  if pid = pidGameInfo then (GameInfo.deserialize body).map .gameInfo
  else if pid = pidSearchGame then (SearchGame.deserialize body).map .searchGame
  else some (.unknown pid body)

/-- Modelled from the spec: `w3gs.Deserialize`, one frame from the front of `bytes`, and its
length. -/
def deserialize (bytes : Bytes) : Option (Packet × Nat) :=
  match bytes with
  | sig :: pid :: lo :: hi :: _ =>
    let size := lo.toNat + 256 * hi.toNat
    if sig = protocolSig ∧ 4 ≤ size ∧ size ≤ bytes.length then
      (deserializeBody pid ((bytes.take size).drop 4)).map fun pkt => (pkt, size)
    else none
  | _ => none

/-- Modelled from the spec: `SearchGame.Serialize`, the 16-byte query. -/
def SearchGame.serialize (pkt : SearchGame) : Bytes :=
  [protocolSig, pidSearchGame, 16, 0] ++ le32 pkt.gameVersion.product ++
    le32 pkt.gameVersion.version ++ le32 pkt.hostCounter

/-! ### What a successful decode says about the bytes -/

/-- A GameInfo body as the wire carries it, given the game name's bytes: the fields in
order, the name and the encoded settings NUL-terminated with the constant zero between them,
and the game port last. -/
def GameInfo.layout (info : GameInfo) (name : Bytes) : Bytes :=
  le32 info.gameVersion.product ++ le32 info.gameVersion.version ++ le32 info.hostCounter ++
    le32 info.entryKey ++ name ++ [0, 0] ++ info.gameSettings ++ [0] ++ le32 info.slotsTotal ++
    le32 info.gameFlags ++ le32 info.slotsUsed ++ le32 info.slotsAvailable ++
    le32 info.uptimeSec ++ le16 info.gamePort

/-- A layout is the name and the settings inside 41 bytes of fixed-width fields. -/
@[simp] theorem GameInfo.length_layout (info : GameInfo) (name : Bytes) :
    (info.layout name).length = name.length + info.gameSettings.length + 41 := by
  simp only [GameInfo.layout, List.length_append, length_le32, length_le16, List.length_cons,
    List.length_nil]
  omega

/-- Only the last two bytes of a layout depend on the game port. -/
theorem GameInfo.layout_gamePort (info : GameInfo) (name : Bytes) (gamePort : UInt16) :
    { info with gamePort }.layout name =
      (info.layout name).take ((info.layout name).length - 2) ++ le16 gamePort := by
  rw [GameInfo.layout, GameInfo.layout,
    List.take_left' (by simp only [List.length_append, length_le16]; omega)]

/-- The body decoder accepts exactly the layouts: a body decodes to `info` iff it is the
layout of `info` for some NUL-free name bytes that read as its name. -/
theorem GameInfo.deserialize_eq_some_iff {body : Bytes} {info : GameInfo} :
    GameInfo.deserialize body = some info ↔
      ∃ name, 0 ∉ name ∧ 0 ∉ info.gameSettings ∧ info.gameName = latin1 name ∧
        body = info.layout name := by
  constructor
  · intro decoded
    unfold GameInfo.deserialize at decoded
    repeat' split at decoded
    all_goals cases decoded
    simp only [readUInt32_eq_some_iff, readUInt16_eq_some_iff, readZero_eq_some_iff,
      readCString_eq_some_iff] at *
    casesm* _ ∧ _
    subst_vars
    exact ⟨_, ‹_›, ‹_›, rfl, by simp [GameInfo.layout]⟩
  · rintro ⟨name, fresh, freshSettings, named, layout⟩
    rw [layout]
    simp only [GameInfo.deserialize, GameInfo.layout, List.append_assoc, List.cons_append,
      List.nil_append, readUInt32_le32, readCString_append _ _ fresh,
      readCString_append _ _ freshSettings, readZero, readUInt16_le16_nil, if_true, ← named]

/-- A decoded frame: a header whose size field lies within the buffer, and a body decoded
from the bytes that size covers. -/
theorem deserialize_some {bytes : Bytes} {pkt : Packet} {size : Nat}
    (decoded : deserialize bytes = some (pkt, size)) :
    ∃ pid lo hi rest, bytes = protocolSig :: pid :: lo :: hi :: rest ∧
      size = lo.toNat + 256 * hi.toNat ∧ 4 ≤ size ∧ size ≤ bytes.length ∧
      deserializeBody pid ((bytes.take size).drop 4) = some pkt := by
  match bytes, decoded with
  | sig :: pid :: lo :: hi :: rest, decoded =>
    simp only [deserialize] at decoded
    split at decoded
    · rename_i header
      obtain ⟨body, bodyDecoded, equal⟩ := Option.map_eq_some'.mp decoded
      cases equal
      exact ⟨pid, lo, hi, rest, by rw [header.1], rfl, header.2.1, header.2.2, bodyDecoded⟩
    · cases decoded

/-- The decoder never looks past the frame: bytes appended to a datagram change nothing. -/
theorem deserialize_append {bytes : Bytes} {pkt : Packet} {size : Nat}
    (decoded : deserialize bytes = some (pkt, size)) (extra : Bytes) :
    deserialize (bytes ++ extra) = some (pkt, size) := by
  obtain ⟨pid, lo, hi, rest, rfl, rfl, large, within, body⟩ := deserialize_some decoded
  have frame : ((protocolSig :: pid :: lo :: hi :: rest) ++ extra).take (lo.toNat + 256 * hi.toNat) =
      (protocolSig :: pid :: lo :: hi :: rest).take (lo.toNat + 256 * hi.toNat) :=
    List.take_append_of_le_length within
  simp only [List.cons_append, List.length_cons] at frame within
  simp only [List.cons_append, deserialize, List.length_cons, List.length_append]
  rw [if_pos ⟨trivial, large, by omega⟩, frame, body]
  rfl

/-- The decoder reads no byte past the frame, so any prefix that holds the frame decodes
alike. -/
theorem deserialize_take {bytes : Bytes} {pkt : Packet} {size n : Nat}
    (decoded : deserialize bytes = some (pkt, size)) (holds : size ≤ n) :
    deserialize (bytes.take n) = some (pkt, size) := by
  obtain ⟨pid, lo, hi, rest, rfl, rfl, large, within, body⟩ := deserialize_some decoded
  obtain ⟨m, rfl⟩ : ∃ m, n = m + 4 := ⟨n - 4, by omega⟩
  have frame : ((protocolSig :: pid :: lo :: hi :: rest).take (m + 4)).take
      (lo.toNat + 256 * hi.toNat) =
      (protocolSig :: pid :: lo :: hi :: rest).take (lo.toNat + 256 * hi.toNat) := by
    rw [List.take_take, min_eq_left holds]
  simp only [List.take_succ_cons, deserialize, List.length_cons, List.length_take] at frame within ⊢
  rw [if_pos ⟨trivial, large, by omega⟩, frame, body]
  rfl

/-- An exact frame, whose size field is its length, decodes as its body. -/
theorem deserialize_frame (pid lo hi : UInt8) (body : Bytes)
    (sized : lo.toNat + 256 * hi.toNat = body.length + 4) :
    deserialize (protocolSig :: pid :: lo :: hi :: body) =
      (deserializeBody pid body).map fun pkt => (pkt, body.length + 4) := by
  simp only [deserialize, sized, List.length_cons]
  rw [if_pos ⟨trivial, by omega, by omega⟩, List.take_of_length_le (by simp)]
  rfl

theorem deserializeBody_eq_gameInfo_iff {pid : UInt8} {body : Bytes} {info : GameInfo} :
    deserializeBody pid body = some (.gameInfo info) ↔
      pid = pidGameInfo ∧ GameInfo.deserialize body = some info := by
  unfold deserializeBody
  split
  · simp_all
  · split <;> simp_all

/-- What the probe engine sends decodes as the query it meant. -/
@[simp] theorem deserialize_serialize_searchGame (pkt : SearchGame) :
    deserialize pkt.serialize = some (.searchGame pkt, 16) := by
  have body : SearchGame.deserialize (le32 pkt.gameVersion.product ++ (le32 pkt.gameVersion.version ++
      le32 pkt.hostCounter)) = some pkt := by
    simp only [SearchGame.deserialize, List.append_assoc, readUInt32_le32]
    rw [← List.append_nil (le32 pkt.hostCounter), readUInt32_le32]
    simp
  have size : (16 : UInt8).toNat + 256 * (0 : UInt8).toNat = 16 := rfl
  have frame : (le32 pkt.gameVersion.product ++ (le32 pkt.gameVersion.version ++
      le32 pkt.hostCounter)).length = 12 := by simp
  have dispatch : deserializeBody pidSearchGame (le32 pkt.gameVersion.product ++
      (le32 pkt.gameVersion.version ++ le32 pkt.hostCounter)) = some (.searchGame pkt) := by
    rw [deserializeBody, if_neg (by decide), if_pos rfl, body]
    rfl
  simp only [SearchGame.serialize, List.cons_append, List.nil_append, List.append_assoc, deserialize,
    size, List.length_cons, frame]
  rw [if_pos ⟨trivial, by omega, by omega⟩, List.take_of_length_le (by simp [frame]),
    List.drop_succ_cons, List.drop_succ_cons, List.drop_succ_cons, List.drop_succ_cons,
    List.drop_zero, dispatch]
  rfl

end Wc3ts

import Mathlib.Data.List.Basic
import Mathlib.Tactic.Ring

/-!
The byte-level vocabulary of the Warcraft III LAN protocol (W3GS) as wc3ts reads and writes
it. Datagrams are byte strings and every multi-byte field is little-endian. The broadcaster
writes fields with Go's `byte(x >> k)` shifts (`sendRawGameInfo`, `sendRefreshGame`,
`sendDecreateGame`); the protocol library reads them back with little-endian loads. The round
trips at the end of the file are what makes a RefreshGame, a DecreateGame or a rewritten port
field readable by the game client.
-/

namespace Wc3ts

/-- A datagram, or a run of bytes inside one. -/
abbrev Bytes := List UInt8

/-! ### Writing fields, as `view.go` does -/

/-- `[byte(x), byte(x >> byteShift8)]` for a `uint16`. -/
def le16 (x : UInt16) : Bytes :=
  [x.toUInt8, (x >>> 8).toUInt8]

/-- `byte(x), byte(x >> byteShift8), byte(x >> byteShift16), byte(x >> byteShift24)` for a
`uint32`. -/
def le32 (x : UInt32) : Bytes :=
  [x.toUInt8, (x >>> 8).toUInt8, (x >>> 16).toUInt8, (x >>> 24).toUInt8]

@[simp] theorem length_le16 (x : UInt16) : (le16 x).length = 2 := rfl

@[simp] theorem length_le32 (x : UInt32) : (le32 x).length = 4 := rfl

/-! ### Reading fields, as the protocol library does -/

/-- The little-endian `uint16` at the head of a buffer, and the rest. -/
def readUInt16 : Bytes → Option (UInt16 × Bytes)
  | b0 :: b1 :: rest => some (UInt16.ofNat (b0.toNat + 256 * b1.toNat), rest)
  | _ => none

/-- The little-endian `uint32` at the head of a buffer, and the rest. -/
def readUInt32 : Bytes → Option (UInt32 × Bytes)
  | b0 :: b1 :: b2 :: b3 :: rest =>
    some (UInt32.ofNat (b0.toNat + 256 * b1.toNat + 65536 * b2.toNat + 16777216 * b3.toNat),
      rest)
  | _ => none

/-! ### Round trips -/

theorem toNat_toUInt8_of_uint16 (x : UInt16) : x.toUInt8.toNat = x.toNat % 256 := rfl

theorem toNat_toUInt8_of_uint32 (x : UInt32) : x.toUInt8.toNat = x.toNat % 256 := rfl

theorem uint8_toNat_lt (x : UInt8) : x.toNat < 256 := x.toBitVec.isLt

theorem uint16_toNat_lt (x : UInt16) : x.toNat < 65536 := x.toBitVec.isLt

theorem uint32_toNat_lt (x : UInt32) : x.toNat < 4294967296 := x.toBitVec.isLt

theorem uint16_toNat_shiftRight_8 (x : UInt16) : (x >>> 8).toNat = x.toNat / 256 := by
  change (x.toBitVec >>> ((8 : UInt16) % 16).toBitVec).toNat = x.toBitVec.toNat / 256
  rw [BitVec.ushiftRight_eq', BitVec.toNat_ushiftRight, Nat.shiftRight_eq_div_pow]
  rfl

theorem uint32_toNat_shiftRight_8 (x : UInt32) : (x >>> 8).toNat = x.toNat / 256 := by
  change (x.toBitVec >>> ((8 : UInt32) % 32).toBitVec).toNat = x.toBitVec.toNat / 256
  rw [BitVec.ushiftRight_eq', BitVec.toNat_ushiftRight, Nat.shiftRight_eq_div_pow]
  rfl

theorem uint32_toNat_shiftRight_16 (x : UInt32) : (x >>> 16).toNat = x.toNat / 65536 := by
  change (x.toBitVec >>> ((16 : UInt32) % 32).toBitVec).toNat = x.toBitVec.toNat / 65536
  rw [BitVec.ushiftRight_eq', BitVec.toNat_ushiftRight, Nat.shiftRight_eq_div_pow]
  rfl

theorem uint32_toNat_shiftRight_24 (x : UInt32) : (x >>> 24).toNat = x.toNat / 16777216 := by
  change (x.toBitVec >>> ((24 : UInt32) % 32).toBitVec).toNat = x.toBitVec.toNat / 16777216
  rw [BitVec.ushiftRight_eq', BitVec.toNat_ushiftRight, Nat.shiftRight_eq_div_pow]
  rfl

/-- The two bytes `le16` writes are the value's base-256 digits. -/
theorem le16_toNat (x : UInt16) :
    (le16 x).map UInt8.toNat = [x.toNat % 256, x.toNat / 256 % 256] := by
  simp only [le16, List.map_cons, List.map_nil, toNat_toUInt8_of_uint16]
  rw [uint16_toNat_shiftRight_8]

/-- The four bytes `le32` writes are the value's base-256 digits. -/
theorem le32_toNat (x : UInt32) :
    (le32 x).map UInt8.toNat =
      [x.toNat % 256, x.toNat / 256 % 256, x.toNat / 65536 % 256, x.toNat / 16777216 % 256] := by
  simp only [le32, List.map_cons, List.map_nil, toNat_toUInt8_of_uint32]
  rw [uint32_toNat_shiftRight_8, uint32_toNat_shiftRight_16, uint32_toNat_shiftRight_24]

/-- A number below `2^16` is the sum of its two base-256 digits. -/
theorem digits16 {n : Nat} (bound : n < 65536) : n % 256 + 256 * (n / 256 % 256) = n := by
  omega

/-- A number below `2^32` is the sum of its four base-256 digits. -/
theorem digits32 {n : Nat} (bound : n < 4294967296) :
    n % 256 + 256 * (n / 256 % 256) + 65536 * (n / 65536 % 256) +
      16777216 * (n / 16777216 % 256) = n := by
  omega

/-- Every `uint16` the broadcaster writes reads back as itself. -/
@[simp] theorem readUInt16_le16 (x : UInt16) (rest : Bytes) :
    readUInt16 (le16 x ++ rest) = some (x, rest) := by
  have digits := le16_toNat x
  obtain ⟨b0, b1, written⟩ : ∃ b0 b1, le16 x = [b0, b1] := ⟨_, _, rfl⟩
  rw [written] at digits
  simp only [List.map_cons, List.map_nil, List.cons.injEq, and_true] at digits
  obtain ⟨low, high⟩ := digits
  simp only [written, List.cons_append, List.nil_append, readUInt16, low, high,
    digits16 (uint16_toNat_lt x), Option.some.injEq, Prod.mk.injEq, and_true]
  exact UInt16.toNat.inj (UInt16.toNat_ofNat_of_lt (lt_of_lt_of_eq (uint16_toNat_lt x) rfl))

/-- Every `uint32` the broadcaster writes reads back as itself. -/
@[simp] theorem readUInt32_le32 (x : UInt32) (rest : Bytes) :
    readUInt32 (le32 x ++ rest) = some (x, rest) := by
  have digits := le32_toNat x
  obtain ⟨b0, b1, b2, b3, written⟩ : ∃ b0 b1 b2 b3, le32 x = [b0, b1, b2, b3] :=
    ⟨_, _, _, _, rfl⟩
  rw [written] at digits
  simp only [List.map_cons, List.map_nil, List.cons.injEq, and_true] at digits
  obtain ⟨d0, d1, d2, d3⟩ := digits
  simp only [written, List.cons_append, List.nil_append, readUInt32, d0, d1, d2, d3,
    digits32 (uint32_toNat_lt x), Option.some.injEq, Prod.mk.injEq, and_true]
  exact UInt32.toNat.inj (UInt32.toNat_ofNat_of_lt (lt_of_lt_of_eq (uint32_toNat_lt x) rfl))

/-- Conversely, the bytes a reader consumed are the encoding of the value it returned. -/
@[simp] theorem readUInt16_le16_nil (x : UInt16) : readUInt16 (le16 x) = some (x, []) := by
  simpa using readUInt16_le16 x []

theorem le16_ofDigits (b0 b1 : UInt8) :
    le16 (UInt16.ofNat (b0.toNat + 256 * b1.toNat)) = [b0, b1] := by
  apply List.map_injective_iff.mpr (fun _ _ equal => UInt8.toNat.inj equal)
  have bounds := And.intro (uint8_toNat_lt b0) (uint8_toNat_lt b1)
  rw [le16_toNat, UInt16.toNat_ofNat_of_lt (lt_of_lt_of_eq (by omega : _ < 65536) rfl)]
  simp only [List.map_cons, List.map_nil, List.cons.injEq, and_true]
  omega

theorem le32_ofDigits (b0 b1 b2 b3 : UInt8) :
    le32 (UInt32.ofNat (b0.toNat + 256 * b1.toNat + 65536 * b2.toNat + 16777216 * b3.toNat)) =
      [b0, b1, b2, b3] := by
  apply List.map_injective_iff.mpr (fun _ _ equal => UInt8.toNat.inj equal)
  have bounds := And.intro (uint8_toNat_lt b0) (And.intro (uint8_toNat_lt b1)
    (And.intro (uint8_toNat_lt b2) (uint8_toNat_lt b3)))
  rw [le32_toNat, UInt32.toNat_ofNat_of_lt (lt_of_lt_of_eq (by omega : _ < 4294967296) rfl)]
  simp only [List.map_cons, List.map_nil, List.cons.injEq, and_true]
  omega

/-- A successful `uint16` read consumed exactly the field's two bytes. -/
theorem readUInt16_some {bytes rest : Bytes} {value : UInt16}
    (read : readUInt16 bytes = some (value, rest)) : bytes = le16 value ++ rest := by
  match bytes, read with
  | b0 :: b1 :: tail, read =>
    simp only [readUInt16, Option.some.injEq, Prod.mk.injEq] at read
    obtain ⟨rfl, rfl⟩ := read
    rw [le16_ofDigits]
    rfl

/-- A successful `uint32` read consumed exactly the field's four bytes. -/
theorem readUInt32_some {bytes rest : Bytes} {value : UInt32}
    (read : readUInt32 bytes = some (value, rest)) : bytes = le32 value ++ rest := by
  match bytes, read with
  | b0 :: b1 :: b2 :: b3 :: tail, read =>
    simp only [readUInt32, Option.some.injEq, Prod.mk.injEq] at read
    obtain ⟨rfl, rfl⟩ := read
    rw [le32_ofDigits]
    rfl

theorem readUInt16_eq_some_iff {bytes rest : Bytes} {value : UInt16} :
    readUInt16 bytes = some (value, rest) ↔ bytes = le16 value ++ rest :=
  ⟨readUInt16_some, fun written => written ▸ readUInt16_le16 value rest⟩

theorem readUInt32_eq_some_iff {bytes rest : Bytes} {value : UInt32} :
    readUInt32 bytes = some (value, rest) ↔ bytes = le32 value ++ rest :=
  ⟨readUInt32_some, fun written => written ▸ readUInt32_le32 value rest⟩

end Wc3ts

import NvlinkFabric.Lib.IndexedReader
import NvlinkFabric.Wire.Frame

/-!
# The accesses of `decode_frame`

`decode_frame` and `crc32` with every access to the bytes of the frame made explicit.
Past the first check the header is inside, and the checksum and the payload are read
only once the size of the frame is the size of the input.
-/

namespace NvlinkFabric.Indexed

open IndexedReader

/-- `crc32` over the first bytes of an input. -/
def crc32 (bytes : List UInt8) (length : Nat) : Option UInt32 := do
  let register ← scan (Crc.feed crcPolynomial) 0xFFFFFFFF#32 bytes length
  return ⟨~~~register⟩

theorem crc32_eq {bytes : List UInt8} {length : Nat} (inside : length ≤ bytes.length) :
    crc32 bytes length = some (NvlinkFabric.crc32 (bytes.take length)) := by
  rw [crc32, scan_eq _ _ inside]
  rfl

open Wire (Frame validType kMagic kVersion kHeaderNoPayload kCrcBytes)

/-- `decode_frame`. -/
def decodeFrame (bytes : List UInt8) (maxBytes : Nat) : Option (Result Frame) := do
  if bytes.length < kHeaderNoPayload + kCrcBytes then
    return err .protocolError "frame shorter than header+checksum"
  let magic ← load bytes 0 4
  if magic ≠ kMagic.toNat then
    return err .protocolError "bad magic"
  let version ← byteAt bytes 4
  if version ≠ kVersion then
    return err .protocolError "unsupported protocol version"
  let typeByte ← byteAt bytes 5
  if !validType typeByte then
    return err .protocolError "invalid message type"
  let payloadLen ← load bytes 6 4
  let frameSize := sizeSum (sizeSum kHeaderNoPayload payloadLen) kCrcBytes
  if frameSize > maxBytes then
    return err .resourceLimit "frame exceeds configured bound"
  if bytes.length < frameSize then
    return err .protocolError "truncated frame"
  if bytes.length ≠ frameSize then
    return err .protocolError "trailing bytes after frame"
  let expected ← crc32 bytes (frameSize - kCrcBytes)
  let stored ← load bytes (frameSize - 4) 4
  if stored ≠ expected.toNat then
    return err .protocolError "frame checksum mismatch"
  -- `assign` copies the range behind the header.
  let (payload, _) ← (copy payloadLen).run { bytes, pos := kHeaderNoPayload }
  return .ok { type := .ofByte typeByte, payload }

/-- All accesses of `decode_frame` are inside the input. -/
theorem decodeFrame_eq {bytes : List UInt8} (size : bytes.length < 2 ^ 63)
    (maxBytes : Nat) :
    decodeFrame bytes maxBytes = some (Wire.decodeFrame bytes maxBytes) := by
  unfold decodeFrame Wire.decodeFrame
  refine guard_eq fun long => ?_
  have header : 14 ≤ bytes.length := Nat.not_lt.mp long
  have word (pos : Nat) (inside : pos + 4 ≤ 14) :
      load bytes pos 4 = some (LittleEndian.decode ((bytes.drop pos).take 4)) :=
    load_eq (inside.trans header) size
  rw [word 0 (by decide), byteAt_eq (show 4 < bytes.length by omega),
    byteAt_eq (show 5 < bytes.length by omega), word 6 (by decide), List.drop_zero]
  simp only [Option.bind_eq_bind, Option.bind_some]
  refine guard_eq fun _ => guard_eq fun _ => guard_eq fun _ => ?_
  have small := LittleEndian.decode_lt ((bytes.drop 6).take 4)
  rw [List.length_take_of_le (by rw [List.length_drop]; omega)] at small
  generalize LittleEndian.decode ((bytes.drop 6).take 4) = payloadLen at small ⊢
  have headed : sizeSum kHeaderNoPayload payloadLen = kHeaderNoPayload + payloadLen :=
    sizeSum_eq (by simp only [kHeaderNoPayload]; omega)
  have frameSize : sizeSum (sizeSum kHeaderNoPayload payloadLen) kCrcBytes =
      kHeaderNoPayload + payloadLen + kCrcBytes := by
    rw [headed, sizeSum_eq (by simp only [kHeaderNoPayload, kCrcBytes]; omega)]
  rw [frameSize]
  refine guard_eq fun _ => guard_eq fun _ => guard_eq fun whole => ?_
  simp only [kHeaderNoPayload, kCrcBytes, not_not] at whole ⊢
  rw [crc32_eq (by omega), load_eq (by omega) size]
  refine guard_eq fun _ => ?_
  rw [copy_eq size (by simp only; omega)]
  rfl

end NvlinkFabric.Indexed

import NvlinkFabric.Basic
import NvlinkFabric.Lib.ByteReader
import NvlinkFabric.Wire.Checksum

/-!
# Frames of the coordinator protocol

A frame is magic, version, type, payload length, payload and checksum, all
little-endian.  Payloads are built with the `put` functions and read with
`PayloadReader`, whose reads are those of `ByteReader` without a string bound.
-/

namespace NvlinkFabric.Wire

def putU8 (value : UInt8) : List UInt8 := LittleEndian.encode 1 value.toNat
def putU16 (value : UInt16) : List UInt8 := LittleEndian.encode 2 value.toNat
def putU32 (value : UInt32) : List UInt8 := LittleEndian.encode 4 value.toNat
def putU64 (value : UInt64) : List UInt8 := LittleEndian.encode 8 value.toNat

@[simp] theorem length_putU8 (value : UInt8) : (putU8 value).length = 1 :=
  LittleEndian.length_encode _ _

@[simp] theorem length_putU32 (value : UInt32) : (putU32 value).length = 4 :=
  LittleEndian.length_encode _ _

@[simp] theorem length_putU64 (value : UInt64) : (putU64 value).length = 8 :=
  LittleEndian.length_encode _ _

/-- Four bytes are what is written for the word they spell. -/
theorem putU32_ofNat_decode {bytes : List UInt8} (size : bytes.length = 4) :
    putU32 (UInt32.ofNat (LittleEndian.decode bytes)) = bytes := by
  have small : LittleEndian.decode bytes < 2 ^ 32 := by
    have bound := LittleEndian.decode_lt bytes
    rwa [size] at bound
  rw [putU32, UInt32.toNat_ofNat_of_lt' small, ← size, LittleEndian.encode_decode]

/-- A truth value as one byte. -/
def putBool (value : Bool) : List UInt8 := putU8 (if value then 1 else 0)

theorem decodes_putBool (value : Bool) :
    ByteReader.Decodes ByteReader.flag (putBool value) value := by
  cases value
  · exact ByteReader.decodes_flag false
  · exact ByteReader.decodes_flag true

/-- `put_str`: at most 65535 bytes of the string are sent. -/
def putStr (text : Text) : List UInt8 :=
  let length : UInt16 := UInt16.ofNat (if text.length ≤ 65535 then text.length else 65535)
  putU16 length ++ text.take length.toNat

/-- `PayloadReader::str`. -/
def str : ByteReader Text := ByteReader.text none

/-- `MessageType`. -/
inductive MessageType where
  | hello | register | publishDevice | publishLink | publishTopology
  | publishMeasurement | ready | query | route | heartbeat | goodbye
  | undeclared (code : UInt8) (outside : code.toNat = 0 ∨ 12 ≤ code.toNat)
  deriving DecidableEq

namespace MessageType

/-- Underlying byte. -/
def toByte : MessageType → UInt8
  | .hello => 1
  | .register => 2
  | .publishDevice => 3
  | .publishLink => 4
  | .publishTopology => 5
  | .publishMeasurement => 6
  | .ready => 7
  | .query => 8
  | .route => 9
  | .heartbeat => 10
  | .goodbye => 11
  | .undeclared code _ => code

/-- Unchecked cast from the underlying type. -/
def ofByte (code : UInt8) : MessageType :=
  if outside : code.toNat = 0 ∨ 12 ≤ code.toNat then .undeclared code outside
  else
    ([.hello, .register, .publishDevice, .publishLink, .publishTopology,
      .publishMeasurement, .ready, .query, .route, .heartbeat,
      .goodbye] : List MessageType).getD (code.toNat - 1) .hello

end MessageType

/-- `valid_type`. -/
def validType (code : UInt8) : Bool :=
  code ≥ MessageType.hello.toByte && code ≤ MessageType.goodbye.toByte && code ≠ 0

/-- `Frame`. -/
structure Frame where
  type : MessageType := .hello
  payload : List UInt8 := []
  deriving DecidableEq

def kMagic : UInt32 := 0x46564E4E
def kVersion : UInt8 := 1
def kHeaderNoPayload : Nat := 4 + 1 + 1 + 4
def kCrcBytes : Nat := 4

/-- Everything a frame's checksum covers. -/
def frameBody (frame : Frame) : List UInt8 :=
  putU32 kMagic ++ putU8 kVersion ++ putU8 frame.type.toByte ++
    putU32 (UInt32.ofNat frame.payload.length) ++ frame.payload

/-- `encode_frame`. -/
def encodeFrame (frame : Frame) (maxBytes : Nat) : Result (List UInt8) :=
  if frame.payload.length + kHeaderNoPayload + kCrcBytes > maxBytes then
    err .resourceLimit "frame payload exceeds bound"
  else
    .ok (frameBody frame ++ putU32 (crc32 (frameBody frame)))

/-- `decode_frame`. -/
def decodeFrame (bytes : List UInt8) (maxBytes : Nat) : Result Frame :=
  if bytes.length < kHeaderNoPayload + kCrcBytes then
    err .protocolError "frame shorter than header+checksum"
  else if LittleEndian.decode (bytes.take 4) ≠ kMagic.toNat then
    err .protocolError "bad magic"
  else if bytes.getD 4 0 ≠ kVersion then
    err .protocolError "unsupported protocol version"
  else if !validType (bytes.getD 5 0) then
    err .protocolError "invalid message type"
  else
    let payloadLen := LittleEndian.decode ((bytes.drop 6).take 4)
    let frameSize := kHeaderNoPayload + payloadLen + kCrcBytes
    if frameSize > maxBytes then
      err .resourceLimit "frame exceeds configured bound"
    else if bytes.length < frameSize then
      err .protocolError "truncated frame"
    else if bytes.length ≠ frameSize then
      err .protocolError "trailing bytes after frame"
    else if LittleEndian.decode ((bytes.drop (frameSize - 4)).take 4) ≠
        (crc32 (bytes.take (frameSize - kCrcBytes))).toNat then
      err .protocolError "frame checksum mismatch"
    else
      .ok
        { type := .ofByte (bytes.getD 5 0)
          payload := (bytes.drop kHeaderNoPayload).take payloadLen }

/-- An accepted string has the size its header announces and a valid checksum. -/
theorem decodeFrame_ok {bytes : List UInt8} {maxBytes : Nat} {frame : Frame}
    (ok : decodeFrame bytes maxBytes = .ok frame) :
    bytes.length = 14 + LittleEndian.decode ((bytes.drop 6).take 4) ∧
      Checksummed bytes := by
  obtain ⟨_, ok⟩ := guarded_ok.mp ok
  obtain ⟨_, ok⟩ := guarded_ok.mp ok
  obtain ⟨_, ok⟩ := guarded_ok.mp ok
  obtain ⟨_, ok⟩ := guarded_ok.mp ok
  obtain ⟨_, ok⟩ := guarded_ok.mp ok
  obtain ⟨_, ok⟩ := guarded_ok.mp ok
  obtain ⟨size, ok⟩ := guarded_ok.mp ok
  obtain ⟨checksum, _⟩ := guarded_ok.mp ok
  simp only [kHeaderNoPayload, kCrcBytes, not_not] at size checksum
  refine ⟨by omega, bytes.take (bytes.length - 4), bytes.drop (bytes.length - 4),
    (List.take_append_drop _ _).symm, by rw [List.length_drop]; omega, ?_⟩
  rw [← size] at checksum
  rw [← checksum, List.take_of_length_le (by rw [List.length_drop]; omega)]

end NvlinkFabric.Wire

import NvlinkFabric.Durable.RoundTrip

/-!
# Detection of corrupted bytes

Both decoders accept only strings that have the size announced in their header
and a valid checksum.  A change within four consecutive bytes breaks the
checksum, and a proper prefix or extension breaks the size, so an encoded frame
or state is never accepted once it is damaged in one of these ways.
-/

namespace NvlinkFabric

open Wire Durable

/-- Damage that the formats are meant to detect. -/
inductive Damage : List UInt8 → List UInt8 → Prop where
  | window {original damaged : List UInt8} (differs : DiffersInWindow original damaged) :
      Damage original damaged
  | truncated {kept lost : List UInt8} (nonempty : lost ≠ []) : Damage (kept ++ lost) kept
  | extended {original extra : List UInt8} (nonempty : extra ≠ []) :
      Damage original (original ++ extra)

/-- The word at `offset` announces how many bytes follow the `overhead`. -/
def Announced (offset overhead : Nat) (bytes : List UInt8) : Prop :=
  bytes.length = overhead + LittleEndian.decode ((bytes.drop offset).take 4)

/-- Of two strings, one of which starts with the other, at most one has the size it
announces. -/
theorem Announced.eq_nil {offset overhead : Nat} (covered : offset + 4 ≤ overhead)
    {bytes extra : List UInt8} (short : Announced offset overhead bytes)
    (long : Announced offset overhead (bytes ++ extra)) : extra = [] := by
  have inside : offset + 4 ≤ bytes.length := by
    rw [short]
    omega
  have word : ((bytes ++ extra).drop offset).take 4 = (bytes.drop offset).take 4 := by
    rw [List.drop_append_of_le_length (by omega), List.take_append_of_le_length (by
      rw [List.length_drop]
      omega)]
  unfold Announced at short long
  rw [word, List.length_append] at long
  exact List.eq_nil_of_length_eq_zero (by omega)

theorem not_damage {offset overhead : Nat} (covered : offset + 4 ≤ overhead)
    {original damaged : List UInt8} (originalSize : Announced offset overhead original)
    (originalChecked : Checksummed original)
    (damagedSize : Announced offset overhead damaged)
    (damagedChecked : Checksummed damaged) :
    ¬Damage original damaged := by
  rintro (differs | nonempty | nonempty)
  · exact originalChecked.not_differsInWindow damagedChecked differs
  · exact nonempty (damagedSize.eq_nil covered originalSize)
  · exact nonempty (originalSize.eq_nil covered damagedSize)

theorem encodeFrame_ok {frame : Frame} {maxBytes : Nat} {bytes : List UInt8}
    (bound : maxBytes < 2 ^ 32) (ok : encodeFrame frame maxBytes = .ok bytes) :
    Announced 6 14 bytes ∧ Checksummed bytes := by
  unfold encodeFrame at ok
  split at ok
  · simp at ok
  next room =>
    simp only [Except.ok.injEq] at ok
    subst ok
    refine ⟨?_, checksummed_append _⟩
    have size : (UInt32.ofNat frame.payload.length).toNat = frame.payload.length := by
      rw [UInt32.toNat_ofNat']
      omega
    have word : LittleEndian.decode (putU32 (UInt32.ofNat frame.payload.length)) =
        frame.payload.length := by
      rw [putU32, LittleEndian.decode_encode (UInt32.toNat_lt _), size]
    have spelled : frameBody frame ++ putU32 (crc32 (frameBody frame)) =
        (putU32 Wire.kMagic ++ putU8 Wire.kVersion ++ putU8 frame.type.toByte) ++
          (putU32 (UInt32.ofNat frame.payload.length) ++
            (frame.payload ++ putU32 (crc32 (frameBody frame)))) := by
      simp [frameBody]
    have placed : ((frameBody frame ++ putU32 (crc32 (frameBody frame))).drop 6).take 4 =
        putU32 (UInt32.ofNat frame.payload.length) := by
      rw [spelled, List.drop_left' (by simp), List.take_left' (by simp)]
    rw [Announced, placed, word]
    simp only [frameBody, List.length_append, length_putU32, length_putU8]
    omega

theorem serializedFile_sound {state : DurableState}
    (bound : (writeDurable state).length < 2 ^ 32) :
    Announced 8 16 (serializedFile state).bytes ∧
      Checksummed (serializedFile state).bytes := by
  refine ⟨?_, checksummed_append _⟩
  have size : (UInt32.ofNat (writeDurable state).length).toNat =
      (writeDurable state).length := by
    rw [UInt32.toNat_ofNat']
    omega
  have word : LittleEndian.decode (putU32 (UInt32.ofNat (writeDurable state).length)) =
      (writeDurable state).length := by
    rw [putU32, LittleEndian.decode_encode (UInt32.toNat_lt _), size]
  have spelled : (serializedFile state).bytes =
      (putU32 Durable.kMagic ++ putU32 Durable.kVersion) ++
        (putU32 (UInt32.ofNat (writeDurable state).length) ++
          (writeDurable state ++ putU32 (crc32 (serializedBody state)))) := by
    simp [serializedFile, serializedBody]
  have placed : ((serializedFile state).bytes.drop 8).take 4 =
      putU32 (UInt32.ofNat (writeDurable state).length) := by
    rw [spelled, List.drop_left' (by simp), List.take_left' (by simp)]
  rw [Announced, placed, word, serializedFile, serializedBody]
  simp only [List.length_append, length_putU32]
  omega

/-- A damaged frame or state is refused, whatever bound, version or argument order
the decoder is used with. -/
theorem damaged_refused :
    (∀ (frame : Frame) (maxBytes : Nat) (bytes damaged : List UInt8), maxBytes < 2 ^ 32 →
      encodeFrame frame maxBytes = .ok bytes → Damage bytes damaged →
      ∀ decodeBytes, ∃ error, decodeFrame damaged decodeBytes = .error error) ∧
    (∀ (state : DurableState) (serialized : Serialized) (damaged : List UInt8),
      (writeDurable state).length < 2 ^ 32 →
      serializeDurableState state = .ok serialized → Damage serialized.bytes damaged →
      ∀ order version, ∃ error, deserializeDurableState order
        { formatVersion := version, bytes := damaged } = .error error) := by
  constructor
  · intro frame maxBytes bytes damaged bound encoded damage decodeBytes
    cases result : decodeFrame damaged decodeBytes with
    | error error => exact ⟨error, rfl⟩
    | ok decoded =>
        obtain ⟨size, checked⟩ := encodeFrame_ok bound encoded
        obtain ⟨damagedSize, damagedChecked⟩ := decodeFrame_ok result
        exact absurd damage
          (not_damage (by decide) size checked damagedSize damagedChecked)
  · intro state serialized damaged bound encoded damage order version
    cases result : deserializeDurableState order
        { formatVersion := version, bytes := damaged } with
    | error error => exact ⟨error, rfl⟩
    | ok decoded =>
        obtain rfl := Except.ok.inj encoded
        obtain ⟨size, checked⟩ := serializedFile_sound bound
        obtain ⟨damagedSize, damagedChecked, -⟩ := deserialize_ok result
        exact absurd damage
          (not_damage (by decide) size checked damagedSize damagedChecked)

/-- The READY of the first epoch, and the topology of the worker in a file. -/
def readyFrame : Frame := { type := .ready, payload := putU64 1 }

def workerState : DurableState where
  topologyGeneration := ⟨4⟩
  devices := [Worker.sourceDevice ⟨1⟩, Worker.targetDevice ⟨1⟩]
  links := [Worker.link ⟨1⟩ {}]

/-- A byte of the epoch, or of the file, is overwritten. -/
theorem overwritten_byte_refused :
    (∀ decodeBytes, ∃ error, decodeFrame
      ((frameBody readyFrame ++ putU32 (crc32 (frameBody readyFrame))).set 10 7)
        decodeBytes =
        .error error) ∧
    ∃ error, deserializeDurableState {}
      { formatVersion := 1, bytes := (serializedFile workerState).bytes.set 40 255 } =
        .error error := by
  constructor
  · exact damaged_refused.1 readyFrame 64 _ _ (by decide) rfl
      (.window (differsInWindow_set (by decide +kernel) (by decide +kernel)))
  · exact damaged_refused.2 workerState _ _ (by decide +kernel) rfl
      (.window (differsInWindow_set (by decide +kernel) (by decide +kernel))) _ _

end NvlinkFabric

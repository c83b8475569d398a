import NvlinkFabric.Wire.Frame

/-!
# Canonical frames

Every string of at least fourteen bytes spells a header, a payload and a
checksum.  `encode_frame` spells its frame in exactly one way, and `decode_frame`
accepts a spelling only if every field has the value that the encoder would have
written, so the two functions are inverse to each other on the frames that fit.
-/

namespace NvlinkFabric.Wire

namespace MessageType

/-- One of the enumerators of the source. -/
def declared : MessageType → Bool
  | .undeclared _ _ => false
  | _ => true

@[simp] theorem ofByte_toByte (type : MessageType) : ofByte type.toByte = type := by
  cases type with
  | undeclared code outside => simp [toByte, ofByte, outside]
  | _ => rfl

/-- The codes between the two outermost enumerators are all taken. -/
theorem validType_iff (code : UInt8) :
    validType code = true ↔ ¬(code.toNat = 0 ∨ 12 ≤ code.toNat) := by
  simp only [validType, toByte, Bool.and_eq_true, decide_eq_true_eq, ge_iff_le,
    UInt8.le_iff_toNat_le, ne_eq, ← UInt8.toNat_inj, UInt8.toNat_ofNat]
  omega

theorem toByte_ofByte_of_valid {code : UInt8} (valid : validType code = true) :
    (ofByte code).toByte = code ∧ (ofByte code).declared = true := by
  have inside := (validType_iff code).mp valid
  have known (position : Fin 11) :
      (ofByte (UInt8.ofNat (position.val + 1))).toByte = UInt8.ofNat (position.val + 1) ∧
        (ofByte (UInt8.ofNat (position.val + 1))).declared = true := by
    revert position
    decide
  have spelled : UInt8.ofNat (code.toNat - 1 + 1) = code := by
    rw [Nat.sub_add_cancel (by omega), UInt8.ofNat_toNat]
  have found := known ⟨code.toNat - 1, by omega⟩
  rwa [spelled] at found

theorem validType_toByte (type : MessageType) :
    validType type.toByte = type.declared := by
  cases type with
  | undeclared code outside =>
      rw [Bool.eq_iff_iff, validType_iff]
      simp [toByte, declared, outside]
  | _ => rfl

end MessageType

/-- The fields of a frame in the order in which they are sent. -/
def spell (magic : UInt32) (version type : UInt8) (length : UInt32) (payload : List UInt8)
    (checksum : UInt32) : List UInt8 :=
  putU32 magic ++ (putU8 version ++ (putU8 type ++
    (putU32 length ++ (payload ++ putU32 checksum))))

section Spelled

variable (magic : UInt32) (version type : UInt8) (length : UInt32) (payload : List UInt8)
  (checksum : UInt32)

@[simp] theorem length_spell :
    (spell magic version type length payload checksum).length = payload.length + 14 := by
  simp only [spell, List.length_append, length_putU32, length_putU8]
  omega

theorem putU8_eq (value : UInt8) : putU8 value = [value] := by
  simp [putU8, LittleEndian.encode]

theorem decode_putU32 (value : UInt32) :
    LittleEndian.decode (putU32 value) = value.toNat :=
  LittleEndian.decode_encode value.toNat_lt

theorem spell_magic :
    (spell magic version type length payload checksum).take 4 = putU32 magic :=
  List.take_left' (length_putU32 magic)

theorem drop_magic : (spell magic version type length payload checksum).drop 4 =
    version :: type :: (putU32 length ++ (payload ++ putU32 checksum)) := by
  rw [spell, List.drop_left' (length_putU32 magic), putU8_eq, putU8_eq]
  rfl

theorem spell_version :
    (spell magic version type length payload checksum).getD 4 0 = version := by
  have dropped :=
    congrArg (·.head?) (drop_magic magic version type length payload checksum)
  simp only [List.head?_drop, List.head?_cons] at dropped
  rw [List.getD_eq_getElem?_getD, dropped, Option.getD_some]

theorem spell_type :
    (spell magic version type length payload checksum).getD 5 0 = type := by
  have dropped := congrArg (·.tail.head?)
    (drop_magic magic version type length payload checksum)
  simp only [List.tail_drop, List.head?_drop, List.tail_cons, List.head?_cons] at dropped
  rw [List.getD_eq_getElem?_getD, dropped, Option.getD_some]

theorem drop_type : (spell magic version type length payload checksum).drop 6 =
    putU32 length ++ (payload ++ putU32 checksum) := by
  rw [← List.drop_drop (i := 2) (j := 4), drop_magic]
  rfl

theorem spell_length :
    ((spell magic version type length payload checksum).drop 6).take 4 =
      putU32 length := by
  rw [drop_type, List.take_left' (length_putU32 length)]

theorem drop_length : (spell magic version type length payload checksum).drop 10 =
    payload ++ putU32 checksum := by
  rw [← List.drop_drop (i := 4) (j := 6), drop_type,
    List.drop_left' (length_putU32 length)]

theorem spell_payload :
    ((spell magic version type length payload checksum).drop 10).take payload.length =
      payload := by
  rw [drop_length, List.take_left]

theorem spell_checksum :
    ((spell magic version type length payload checksum).drop
      (10 + payload.length)).take 4 = putU32 checksum := by
  rw [← List.drop_drop, drop_length, List.drop_left,
    List.take_of_length_le (Nat.le_of_eq (length_putU32 checksum))]

/-- Everything before the checksum. -/
theorem spell_body :
    (spell magic version type length payload checksum).take (10 + payload.length) =
      putU32 magic ++ putU8 version ++ putU8 type ++ putU32 length ++ payload := by
  have covered : (putU32 magic ++ putU8 version ++ putU8 type ++ putU32 length ++
      payload).length = 10 + payload.length := by
    simp only [List.length_append, length_putU32, length_putU8]
  rw [← covered, spell]
  simp only [← List.append_assoc]
  exact List.take_left

end Spelled

/-- Four bytes spell a word. -/
theorem exists_putU32 {bytes : List UInt8} (size : bytes.length = 4) :
    ∃ word : UInt32, bytes = putU32 word :=
  ⟨_, (putU32_ofNat_decode size).symm⟩

/-- Every string with room for a header and a checksum is a spelling. -/
theorem exists_spell {bytes : List UInt8} (long : 14 ≤ bytes.length) :
    ∃ magic version type length payload checksum,
      bytes = spell magic version type length payload checksum := by
  have magicSize : (bytes.take 4).length = 4 := by
    rw [List.length_take]
    omega
  obtain ⟨magic, magicEq⟩ := exists_putU32 magicSize
  obtain ⟨version, type, rest, restEq⟩ : ∃ version type rest,
      bytes.drop 4 = version :: type :: rest := by
    match found : bytes.drop 4 with
    | version :: type :: rest => exact ⟨version, type, rest, rfl⟩
    | [] | [_] =>
        have size := congrArg List.length found
        simp only [List.length_drop, List.length_nil, List.length_singleton] at size
        omega
  have restSize : rest.length + 6 = bytes.length := by
    have size := congrArg List.length restEq
    simp only [List.length_drop, List.length_cons] at size
    omega
  have lengthSize : (rest.take 4).length = 4 := by
    rw [List.length_take]
    omega
  obtain ⟨length, lengthEq⟩ := exists_putU32 lengthSize
  have checksumSize : ((rest.drop 4).drop (rest.length - 8)).length = 4 := by
    rw [List.length_drop, List.length_drop]
    omega
  obtain ⟨checksum, checksumEq⟩ := exists_putU32 checksumSize
  refine ⟨magic, version, type, length,
    (rest.drop 4).take (rest.length - 8), checksum, ?_⟩
  rw [spell, putU8_eq, putU8_eq, ← magicEq, ← lengthEq, ← checksumEq,
    List.take_append_drop, List.take_append_drop, List.singleton_append,
    List.singleton_append, ← restEq,
    List.take_append_drop]

/-- A frame is accepted if it fits, and is then spelled with the constants of the
protocol. -/
theorem encodeFrame_ok_iff {frame : Frame} {maxBytes : Nat} {bytes : List UInt8} :
    encodeFrame frame maxBytes = .ok bytes ↔ frame.payload.length + 14 ≤ maxBytes ∧
      bytes = spell kMagic kVersion frame.type.toByte (UInt32.ofNat frame.payload.length)
        frame.payload (crc32 (frameBody frame)) := by
  have spelled : frameBody frame ++ putU32 (crc32 (frameBody frame)) =
      spell kMagic kVersion frame.type.toByte (UInt32.ofNat frame.payload.length)
        frame.payload (crc32 (frameBody frame)) := by
    simp only [frameBody, spell, List.append_assoc]
  rw [encodeFrame, spelled]
  by_cases fits : frame.payload.length + 14 ≤ maxBytes
  · rw [if_neg (by simp only [kHeaderNoPayload, kCrcBytes]; omega),
      Except.ok.injEq, eq_comm]
    simp only [fits, true_and]
  · rw [if_pos (by simp only [kHeaderNoPayload, kCrcBytes]; omega), err_ne_ok]
    simp only [fits, false_and]

/-- A spelling is accepted if its length is that of its payload and every other
field is what the encoder would have written. -/
theorem decodeFrame_spell {magic : UInt32} {version type : UInt8} {length : UInt32}
    {payload : List UInt8} {checksum : UInt32} {maxBytes : Nat} {frame : Frame} :
    decodeFrame (spell magic version type length payload checksum) maxBytes = .ok frame ↔
      magic = kMagic ∧ version = kVersion ∧ validType type = true ∧
      length.toNat = payload.length ∧ payload.length + 14 ≤ maxBytes ∧
      checksum = crc32 (putU32 magic ++ putU8 version ++ putU8 type ++ putU32 length ++
        payload) ∧
      frame = { type := .ofByte type, payload := payload } := by
  unfold decodeFrame
  simp only [kHeaderNoPayload, kCrcBytes, spell_magic, spell_version,
    spell_type, spell_length, decode_putU32, length_spell]
  rw [if_neg (by omega)]
  by_cases magicEq : magic = kMagic
  case neg =>
    rw [if_pos (by rwa [ne_eq, UInt32.toNat_inj])]
    simp [magicEq]
  rw [if_neg (by rw [magicEq]; exact not_not.mpr rfl)]
  by_cases versionEq : version = kVersion
  case neg => simp [versionEq]
  rw [if_neg (not_not.mpr versionEq)]
  by_cases typeValid : validType type = true
  case neg => simp [typeValid]
  simp only [typeValid, Bool.not_true, Bool.false_eq_true, if_false]
  by_cases lengthEq : length.toNat = payload.length
  case neg =>
    have refused : ¬payload.length + 14 = 4 + 1 + 1 + 4 + length.toNat + 4 := by omega
    simp only [lengthEq, refused, ne_eq, not_false_eq_true, if_true, false_and, and_false]
    split
    · simp
    · split <;> simp
  by_cases fits : payload.length + 14 ≤ maxBytes
  case neg =>
    rw [if_pos (by omega)]
    simp [fits]
  rw [if_neg (by omega), if_neg (by omega), if_neg (by omega), lengthEq,
    show 4 + 1 + 1 + 4 + payload.length + 4 - 4 = 10 + payload.length by omega,
        spell_checksum,
    spell_body, decode_putU32]
  by_cases checksumEq : checksum = crc32 (putU32 magic ++ putU8 version ++ putU8 type ++
      putU32 length ++ payload)
  case neg =>
    rw [if_pos (by rwa [ne_eq, UInt32.toNat_inj]), err_ne_ok]
    simp only [checksumEq, false_and, and_false]
  rw [if_neg (not_not.mpr (congrArg UInt32.toNat checksumEq)), spell_payload,
    Except.ok.injEq, eq_comm]
  exact ⟨fun same => ⟨magicEq, versionEq, trivial, rfl, fits, checksumEq, same⟩,
    fun accepted => accepted.2.2.2.2.2.2⟩

/-- A length that fits the bound is sent unchanged. -/
theorem toNat_sentLength {frame : Frame} {maxBytes : Nat} (bound : maxBytes < 2 ^ 32)
    (fits : frame.payload.length + 14 ≤ maxBytes) :
    (UInt32.ofNat frame.payload.length).toNat = frame.payload.length :=
  UInt32.toNat_ofNat_of_lt' (show frame.payload.length < 2 ^ 32 by omega)

theorem decodeFrame_of_encodeFrame {frame : Frame} {maxBytes : Nat} {bytes : List UInt8}
    (bound : maxBytes < 2 ^ 32) (encoded : encodeFrame frame maxBytes = .ok bytes)
    (declared : frame.type.declared = true) : decodeFrame bytes maxBytes = .ok frame := by
  obtain ⟨fits, rfl⟩ := encodeFrame_ok_iff.mp encoded
  apply decodeFrame_spell.mpr
  refine ⟨rfl, rfl, ?_, toNat_sentLength bound fits, fits, rfl, ?_⟩
  · rw [MessageType.validType_toByte, declared]
  · rw [MessageType.ofByte_toByte]

theorem encodeFrame_of_decodeFrame {frame : Frame} {maxBytes : Nat} {bytes : List UInt8}
    (decoded : decodeFrame bytes maxBytes = .ok frame) :
    encodeFrame frame maxBytes = .ok bytes ∧ frame.type.declared = true := by
  have long : 14 ≤ bytes.length := by
    have size := (decodeFrame_ok decoded).1
    omega
  obtain ⟨magic, version, type, length, payload, checksum, rfl⟩ := exists_spell long
  obtain ⟨rfl, rfl, valid, lengthEq, fits, rfl, rfl⟩ := decodeFrame_spell.mp decoded
  obtain ⟨typeEq, declared⟩ := MessageType.toByte_ofByte_of_valid valid
  have word : UInt32.ofNat payload.length =
      length := by rw [← lengthEq, UInt32.ofNat_toNat]
  refine ⟨encodeFrame_ok_iff.mpr ⟨fits, ?_⟩, declared⟩
  simp only [frameBody, typeEq, word]

/-- The decoder accepts exactly what the encoder produces for a declared message
type.  Decoding therefore undoes encoding, a frame has one spelling only, and the
encoder accepts every frame that fits. -/
theorem decodeFrame_iff_encodeFrame {maxBytes : Nat} (bound : maxBytes < 2 ^ 32) :
    (∀ bytes frame, decodeFrame bytes maxBytes = .ok frame ↔
      encodeFrame frame maxBytes = .ok bytes ∧ frame.type.declared = true) ∧
    (∀ frame, frame.type.declared = true → frame.payload.length + 14 ≤ maxBytes →
      ∃ bytes, encodeFrame frame maxBytes = .ok bytes ∧
        decodeFrame bytes maxBytes = .ok frame) ∧
    (∀ left right frame, decodeFrame left maxBytes = .ok frame →
      decodeFrame right maxBytes = .ok frame → left = right) ∧
    ∀ frame, (∃ bytes, encodeFrame frame maxBytes = .ok bytes) ↔
      frame.payload.length + 14 ≤ maxBytes := by
  refine ⟨fun bytes frame => ⟨encodeFrame_of_decodeFrame, fun encoded => ?_⟩,
    fun frame declared fits => ?_, fun left right frame leftOk rightOk =>
      ?_, fun frame => ?_⟩
  · exact decodeFrame_of_encodeFrame bound encoded.1 encoded.2
  · have encoded := encodeFrame_ok_iff.mpr ⟨fits, rfl⟩
    exact ⟨_, encoded, decodeFrame_of_encodeFrame bound encoded declared⟩
  · have leftEncoded := (encodeFrame_of_decodeFrame leftOk).1
    have rightEncoded := (encodeFrame_of_decodeFrame rightOk).1
    exact Except.ok.inj (leftEncoded.symm.trans rightEncoded)
  · constructor
    · intro ⟨bytes, encoded⟩
      exact (encodeFrame_ok_iff.mp encoded).1
    · intro fits
      exact ⟨_, encodeFrame_ok_iff.mpr ⟨fits, rfl⟩⟩

/-- The READY of an epoch just fits in twenty-two bytes. -/
theorem ready_canonical :
    ∃ bytes, encodeFrame { type := .ready, payload := putU64 1 } 22 = .ok bytes ∧
      decodeFrame bytes 22 = .ok { type := .ready, payload := putU64 1 } :=
  (decodeFrame_iff_encodeFrame (by decide)).2.1
    { type := .ready, payload := putU64 1 } rfl
    (by decide)

end NvlinkFabric.Wire

import NvlinkFabric.Durable.Codec
import NvlinkFabric.Worker.Evidence
import Mathlib.Tactic.Linarith

/-!
# Round trips of the durable format

Reading an encoded field sequence returns the record whenever its strings are
within the reader's bound.  Conversely a reader returns only records within that
bound, whatever the input is, so a state outside the bounds is never read back.
-/

namespace NvlinkFabric

/-- Every string of a device record. -/
def DeviceRecord.texts (device : DeviceRecord) : List Text :=
  [device.logicalName, device.backend, device.backendInstance, device.pciIdentity,
    device.vendor, device.architecture, device.deviceGeneration, device.evidence.source,
    device.evidence.note]

/-- Every string of a link record. -/
def LinkRecord.texts (link : LinkRecord) : List Text :=
  [link.physicalIdentifier, link.evidence.source, link.evidence.note,
    link.degradationNote]

namespace Durable

open Wire ByteReader

/-- All strings are within the bound of the reader. -/
def Short (texts : List Text) : Prop := ∀ text ∈ texts, text.length ≤ 4096

instance (texts : List Text) : Decidable (Short texts) :=
  inferInstanceAs (Decidable (∀ text ∈ texts, _))

/-- The bounds of the decoder. -/
def Decodable (state : DurableState) : Prop :=
  (∀ device ∈ state.devices, Short device.texts) ∧
    (∀ link ∈ state.links, Short link.texts) ∧
    state.devices.length ≤ 256 ∧ state.links.length ≤ 1024

instance (state : DurableState) : Decidable (Decodable state) :=
  inferInstanceAs (Decidable (_ ∧ _ ∧ _ ∧ _))

theorem decodes_readStr {text : Text} (short : text.length ≤ 4096) :
    Decodes readStr (writeStr text) text := by
  have size : (UInt16.ofNat text.length).toNat = text.length := by
    rw [UInt16.toNat_ofNat']
    omega
  rw [writeStr, putU16, size]
  refine decodes_text (fun bound member => ?_) (by omega)
  obtain rfl : kMaxString = bound := by simpa using member
  exact short

theorem decodes_readCapability (capability : Capability) :
    Decodes readCapability (writeCapability capability) capability :=
  .field ((decodes_u8 _).mapped (InterconnectTechnology.ofByte_toByte _)) <|
  .field (decodes_u32 _) <|
  .field (decodes_u32 _) <|
  .field (decodes_u64 _) <|
  .field (decodes_putBool _) <|
  .field ((decodes_u8 _).mapped (MeasurementSupport.ofByte_toByte _)) <|
  .field (decodes_u32 _) <|
  .field (decodes_putBool _) <|
  .pure _

theorem decodes_readEvidence {evidence : Evidence}
    (source : evidence.source.length ≤ 4096) (note : evidence.note.length ≤ 4096) :
    Decodes readEvidence (writeEvidence evidence) evidence :=
  .field ((decodes_u8 _).mapped (EvidenceClass.ofByte_toByte _)) <|
  .field ((decodes_u32 _).mapped rfl) <|
  .field (decodes_readStr source) <|
  .field (decodes_readStr note) <|
  .pure _

/-- The timestamp that is read back.  From right to left the truth value is the
lowest byte of the number, and the number is the other bytes with the truth value
above them. -/
def recoveredTimestamp : ArgumentOrder → Timestamp → Timestamp
  | .leftToRight, timestamp => timestamp
  | .rightToLeft, timestamp =>
      let word := timestamp.unixNs.toUInt64.toNat
      let truth := if timestamp.valid then 1 else 0
      { unixNs := (UInt64.ofNat (word / 256 + 256 ^ 7 * truth)).toInt64
        valid := UInt8.ofNat word != 0 }

/-- The nine bytes of a timestamp, split after the first. -/
theorem writeTimestamp_split (timestamp : Timestamp) :
    writeTimestamp timestamp =
      [putU8 (UInt8.ofNat timestamp.unixNs.toUInt64.toNat),
        putU64 (UInt64.ofNat (timestamp.unixNs.toUInt64.toNat / 256 +
          256 ^ 7 * if timestamp.valid then 1 else 0))].flatten := by
  have bound : timestamp.unixNs.toUInt64.toNat < 256 ^ 8 :=
    timestamp.unixNs.toUInt64.toNat_lt
  have truth : putBool timestamp.valid =
      LittleEndian.encode 1 (if timestamp.valid then 1 else 0) := by
    cases timestamp.valid <;> rfl
  have bit : (if timestamp.valid then 1 else 0) < 256 := by split <;> decide
  simp only [writeTimestamp, List.flatten_cons, List.flatten_nil, List.append_nil,
    putU64, putU8, truth]
  generalize timestamp.unixNs.toUInt64.toNat = word at bound ⊢
  generalize (if timestamp.valid then 1 else 0) = truth at bit ⊢
  have rest : word / 256 < 256 ^ 7 := by omega
  have number : LittleEndian.encode 8 word =
      LittleEndian.encode 1 (word % 256) ++ LittleEndian.encode 7 (word / 256) := by
    rw [LittleEndian.encode_append (by omega), Nat.pow_one, Nat.mod_add_div]
  have lowest : (UInt8.ofNat word).toNat = word % 256 := UInt8.toNat_ofNat'
  have shifted : (UInt64.ofNat (word / 256 + 256 ^ 7 * truth)).toNat =
      word / 256 + 256 ^ 7 * truth := by
    rw [UInt64.toNat_ofNat']
    omega
  rw [number, List.append_assoc, LittleEndian.encode_append rest, lowest, shifted]

theorem decodes_readTimestamp (order : ArgumentOrder) (timestamp : Timestamp) :
    Decodes (readTimestamp order) (writeTimestamp timestamp)
      (recoveredTimestamp order timestamp) := by
  cases order with
  | leftToRight =>
      exact
        .field ((decodes_u64 _).mapped (Int64.toInt64_toUInt64 _)) <|
        .field (decodes_putBool _) <|
        .pure _
  | rightToLeft =>
      rw [writeTimestamp_split]
      exact
        .field ((decodes_u8 _).map _) <|
        .field ((decodes_u64 _).map _) <|
        .pure _

theorem decodes_readDevice {device : DeviceRecord} (short : Short device.texts) :
    Decodes readDevice (writeDevice device) device := by
  simp only [Short, DeviceRecord.texts, List.forall_mem_cons, List.not_mem_nil,
    IsEmpty.forall_iff, implies_true, and_true] at short
  obtain ⟨name, backend, slot, pci, vendor, architecture, generation, source, note⟩ :=
    short
  exact
    .field ((decodes_u64 _).mapped rfl) <|
    .field (decodes_readStr name) <|
    .field ((decodes_u8 _).mapped (NodeKind.ofByte_toByte _)) <|
    .field (decodes_readStr backend) <|
    .field (decodes_readStr slot) <|
    .field (decodes_readStr pci) <|
    .field (decodes_optional decodes_u32 _) <|
    .field (decodes_readStr vendor) <|
    .field (decodes_readStr architecture) <|
    .field (decodes_readStr generation) <|
    .field (decodes_readCapability _) <|
    .field ((decodes_u8 _).mapped (DeviceHealthState.ofByte_toByte _)) <|
    .field (decodes_readEvidence source note) <|
    .field ((decodes_u64 _).mapped rfl) <|
    .field (decodes_optional (fun _ => (decodes_u64 _).mapped rfl) _) <|
    .field (decodes_optional (fun _ => (decodes_u64 _).mapped rfl) _) <|
    .pure _

/-- The link that is read back. -/
def recoveredLink (order : ArgumentOrder) (link : LinkRecord) : LinkRecord :=
  { link with lastObservation := recoveredTimestamp order link.lastObservation }

theorem decodes_readLink (order : ArgumentOrder) {link : LinkRecord}
    (short : Short link.texts) :
    Decodes (readLink order) (writeLink link) (recoveredLink order link) := by
  simp only [Short, LinkRecord.texts, List.forall_mem_cons, List.not_mem_nil,
    IsEmpty.forall_iff, implies_true, and_true] at short
  obtain ⟨physical, source, note, degradation⟩ := short
  exact
    .field ((decodes_u64 _).mapped rfl) <|
    .field ((decodes_u64 _).mapped rfl) <|
    .field ((decodes_u64 _).mapped rfl) <|
    .field (decodes_putBool _) <|
    .field (decodes_readStr physical) <|
    .field ((decodes_u8 _).mapped (LinkOperationalState.ofByte_toByte _)) <|
    .field ((decodes_u8 _).mapped (InterconnectTechnology.ofByte_toByte _)) <|
    .field (decodes_readCapability _) <|
    .field ((decodes_u64 _).mapped rfl) <|
    .field (decodes_readEvidence source note) <|
    .field (decodes_readTimestamp _ _) <|
    .field (decodes_putBool _) <|
    .field (decodes_putBool _) <|
    .field (decodes_readStr degradation) <|
    .field ((decodes_u64 _).mapped rfl) <|
    .pure _

theorem length_writeStr (text : Text) : (writeStr text).length = 2 + text.length := by
  simp [writeStr, putU16]

theorem length_encodeOptional_le {α : Type} {encode : α → List UInt8} {bound : Nat}
    (bounded : ∀ value, (encode value).length ≤ bound) (value : Option α) :
    (encodeOptional encode value).length ≤ 1 + bound := by
  cases value with
  | none => simp [encodeOptional]
  | some value =>
      have := bounded value
      simp only [encodeOptional, List.length_cons]
      omega

theorem length_writeDevice_le {device : DeviceRecord} (short : Short device.texts) :
    (writeDevice device).length ≤ 40000 := by
  simp only [Short, DeviceRecord.texts, List.forall_mem_cons, List.not_mem_nil,
    IsEmpty.forall_iff, implies_true, and_true] at short
  obtain ⟨name, backend, slot, pci, vendor, architecture, generation, source, note⟩ :=
    short
  have ordinal : (encodeOptional putU32 device.cudaOrdinal).length ≤ 1 + 4 :=
    length_encodeOptional_le (fun _ => (LittleEndian.length_encode _ _).le) _
  have worker : (encodeOptional (fun worker : WorkerId => putU64 worker.value)
      device.ownerWorker).length ≤ 1 + 8 :=
    length_encodeOptional_le (fun _ => (LittleEndian.length_encode _ _).le) _
  have boot : (encodeOptional (fun boot : WorkerBootId => putU64 boot.value)
      device.ownerBoot).length ≤ 1 + 8 :=
    length_encodeOptional_le (fun _ => (LittleEndian.length_encode _ _).le) _
  simp only [writeDevice, writeCapability, writeEvidence, List.flatten_cons,
    List.flatten_nil, List.length_append, List.length_nil, length_writeStr, putBool,
    length_putU8, length_putU32, length_putU64]
  linarith

theorem length_writeLink_le {link : LinkRecord} (short : Short link.texts) :
    (writeLink link).length ≤ 40000 := by
  simp only [Short, LinkRecord.texts, List.forall_mem_cons, List.not_mem_nil,
    IsEmpty.forall_iff, implies_true, and_true] at short
  simp only [writeLink, writeCapability, writeEvidence, writeTimestamp, List.flatten_cons,
    List.flatten_nil, List.length_append, List.length_nil, length_writeStr, putBool,
    length_putU8, length_putU32, length_putU64]
  omega

theorem length_flatMap_le {α : Type} {encode : α → List UInt8} {values : List α}
    {bound : Nat} (bounded : ∀ value ∈ values, (encode value).length ≤ bound) :
    (values.flatMap encode).length ≤ values.length * bound := by
  induction values with
  | nil => simp
  | cons value values ih =>
      have first := bounded value List.mem_cons_self
      have rest := ih fun other member => bounded other (List.mem_cons_of_mem _ member)
      rw [List.flatMap_cons, List.length_append, List.length_cons, Nat.add_mul]
      omega

/-- A payload within the decoder's bounds is far below the 32-bit length field. -/
theorem length_writeDurable_lt {state : DurableState} (decodable : Decodable state) :
    (writeDurable state).length < 2 ^ 32 := by
  obtain ⟨devices, links, deviceCount, linkCount⟩ := decodable
  have deviceBytes : (state.devices.flatMap writeDevice).length ≤
      state.devices.length * 40000 :=
    length_flatMap_le fun device member => length_writeDevice_le (devices device member)
  have linkBytes : (state.links.flatMap writeLink).length ≤ state.links.length * 40000 :=
    length_flatMap_le fun link member => length_writeLink_le (links link member)
  simp only [writeDurable, writeTimestamp, List.flatten_cons, List.flatten_nil,
    List.length_append, List.length_nil, putBool, length_putU8, length_putU32,
    length_putU64]
  omega

/-- The state that is read back.  The format version is not part of the payload. -/
def recoveredState (order : EvaluationOrder) (state : DurableState) : DurableState :=
  { state with
    formatVersion := durableFormatVersion
    savedAt := recoveredTimestamp order.savedAt state.savedAt
    links := state.links.map (recoveredLink order.lastObservation) }

/-- From left to right everything in the payload is read back. -/
theorem recoveredState_leftToRight (state : DurableState) :
    recoveredState {} state = { state with formatVersion := durableFormatVersion } := by
  have links : state.links.map (recoveredLink .leftToRight) = state.links :=
    List.map_id' state.links
  simp only [recoveredState, links, recoveredTimestamp]

/-- Within the bounds the payload is read to its end, whatever the order. -/
theorem accepts_readPayload (order : EvaluationOrder) {state : DurableState}
    (decodable : Decodable state) :
    Accepts (readPayload order) (writeDurable state) (recoveredState order state) := by
  obtain ⟨devices, links, deviceCount, linkCount⟩ := decodable
  have deviceTotal : (UInt32.ofNat state.devices.length).toNat =
      state.devices.length := by
    rw [UInt32.toNat_ofNat']
    omega
  have linkTotal : (UInt32.ofNat state.links.length).toNat = state.links.length := by
    rw [UInt32.toNat_ofNat']
    omega
  have deviceRecords : Accepts (records readDevice
      (⟨.integrityFailure, "corrupt device record"⟩ : Error) state.devices.length)
      (state.devices.flatMap writeDevice) (state.devices.map id) :=
    accepts_records _ fun device member => decodes_readDevice (devices device member)
  rw [List.map_id] at deviceRecords
  refine .field (accepts_read ((decodes_u64 _).mapped rfl)) ?_
  refine .field (accepts_read (decodes_readTimestamp _ _)) ?_
  refine .field (accepts_read (decodes_u32 _)) ?_
  rw [deviceTotal]
  refine .unless (fun _ _ => by simpa using deviceCount) ?_
  refine .field deviceRecords ?_
  refine .field (accepts_read (decodes_u32 _)) ?_
  rw [linkTotal]
  refine .unless (fun _ _ => by simpa using linkCount) ?_
  refine .field (accepts_records _ fun link member =>
    decodes_readLink _ (links _ member)) ?_
  exact .pure _

/-! ## Only states within the bounds are read -/

theorem yields_readEvidence : Yields readEvidence fun evidence =>
    evidence.source.length ≤ 4096 ∧ evidence.note.length ≤ 4096 :=
  .bind (.any _) fun _ _ =>
  .bind (.any _) fun _ _ =>
  .bind (yields_text _) fun _ source =>
  .bind (yields_text _) fun _ note =>
  .pure ⟨source, note⟩

theorem yields_readDevice : Yields readDevice fun device => Short device.texts :=
  .bind (.any _) fun _ _ =>
  .bind (yields_text _) fun _ name =>
  .bind (.any _) fun _ _ =>
  .bind (yields_text _) fun _ backend =>
  .bind (yields_text _) fun _ slot =>
  .bind (yields_text _) fun _ pci =>
  .bind (.any _) fun _ _ =>
  .bind (yields_text _) fun _ vendor =>
  .bind (yields_text _) fun _ architecture =>
  .bind (yields_text _) fun _ generation =>
  .bind (.any _) fun _ _ =>
  .bind (.any _) fun _ _ =>
  .bind yields_readEvidence fun _ evidence =>
  .bind (.any _) fun _ _ =>
  .bind (.any _) fun _ _ =>
  .bind (.any _) fun _ _ =>
  .pure <| by
    simp only [Short, DeviceRecord.texts, List.forall_mem_cons, List.not_mem_nil,
      IsEmpty.forall_iff, implies_true, and_true]
    exact ⟨name, backend, slot, pci, vendor, architecture, generation, evidence⟩

theorem yields_readLink (order : ArgumentOrder) :
    Yields (readLink order) fun link => Short link.texts :=
  .bind (.any _) fun _ _ =>
  .bind (.any _) fun _ _ =>
  .bind (.any _) fun _ _ =>
  .bind (.any _) fun _ _ =>
  .bind (yields_text _) fun _ physical =>
  .bind (.any _) fun _ _ =>
  .bind (.any _) fun _ _ =>
  .bind (.any _) fun _ _ =>
  .bind (.any _) fun _ _ =>
  .bind yields_readEvidence fun _ evidence =>
  .bind (.any _) fun _ _ =>
  .bind (.any _) fun _ _ =>
  .bind (.any _) fun _ _ =>
  .bind (yields_text _) fun _ degradation =>
  .bind (.any _) fun _ _ =>
  .pure <| by
    simp only [Short, LinkRecord.texts, List.forall_mem_cons, List.not_mem_nil,
      IsEmpty.forall_iff, implies_true, and_true]
    exact ⟨physical, evidence.1, evidence.2, degradation⟩

theorem returns_readPayload (order : EvaluationOrder) :
    Returns (readPayload order) fun state =>
      state.formatVersion = durableFormatVersion ∧ Decodable state := by
  refine .bind (returns_read (.any _)) fun _ _ => ?_
  refine .bind (returns_read (.any _)) fun _ _ => ?_
  refine .bind (returns_read (.any _)) fun deviceCount _ => ?_
  refine .bind (returns_refuse _ _) fun _ fewDevices => ?_
  refine .bind (returns_records yields_readDevice _ _) fun devices shortDevices => ?_
  refine .bind (returns_read (.any _)) fun linkCount _ => ?_
  refine .bind (returns_refuse _ _) fun _ fewLinks => ?_
  refine .bind (returns_records (yields_readLink _) _ _) fun links shortLinks => .pure ?_
  obtain ⟨_, fewDevices⟩ := fewDevices
  obtain ⟨_, fewLinks⟩ := fewLinks
  simp only [Bool.or_eq_false_iff, decide_eq_false_iff_not,
    Nat.not_lt] at fewDevices fewLinks
  exact ⟨rfl, shortDevices.2, shortLinks.2, shortDevices.1 ▸ fewDevices.2,
    shortLinks.1 ▸ fewLinks.2⟩

theorem u32_run {bytes : List UInt8} {pos : Nat} (fits : pos + 4 ≤ bytes.length) :
    u32.run ⟨bytes, pos, false⟩ =
      (UInt32.ofNat (LittleEndian.decode ((bytes.drop pos).take 4)),
        ⟨bytes, pos + 4, false⟩) := by
  have number : (unsigned 4).run ⟨bytes, pos, false⟩ =
      (LittleEndian.decode ((bytes.drop pos).take 4), ⟨bytes, pos + 4, false⟩) := by
    simp [StateT.run, unsigned, Cursor.remaining, Cursor.slice, fits]
  rw [u32, StateT.run_map, number]
  rfl

theorem toNat_ofNat_decode (bytes : List UInt8) :
    (UInt32.ofNat (LittleEndian.decode (bytes.take 4))).toNat =
      LittleEndian.decode (bytes.take 4) := by
  have bound := LittleEndian.decode_lt (bytes.take 4)
  have length : 256 ^ (bytes.take 4).length ≤ 256 ^ 4 :=
    Nat.pow_le_pow_right (by decide) (List.length_take_le _ _)
  rw [UInt32.toNat_ofNat']
  omega

/-- The trailer holds nothing but the checksum of what precedes it, and the payload
ends where the trailer starts. -/
theorem checkTrailer_ok {bytes : List UInt8} {checksumPos pos : Nat} {value : Unit}
    (ok : checkTrailer bytes checksumPos pos = .ok value) :
    bytes.length = checksumPos + 4 ∧
      LittleEndian.decode (bytes.drop checksumPos) =
        (crc32 (bytes.take checksumPos)).toNat ∧
      pos = checksumPos := by
  obtain ⟨_, ok⟩ := guarded_ok.mp ok
  obtain ⟨size, ok⟩ := guarded_ok.mp ok
  obtain ⟨checksum, ok⟩ := guarded_ok.mp ok
  obtain ⟨ends, _⟩ := guarded_ok.mp ok
  simp only [not_not] at size checksum ends
  rw [List.take_of_length_le (by rw [List.length_drop]; omega)] at checksum
  exact ⟨size, checksum, ends⟩

/-- The checks that an accepted file has passed. -/
structure FileChecks (order : EvaluationOrder) (serialized : Serialized)
    (state : DurableState) (size : Nat) : Prop where
  version : serialized.formatVersion = kVersion
  magicWord : UInt32.ofNat (LittleEndian.decode (serialized.bytes.take 4)) = kMagic
  versionWord :
    UInt32.ofNat (LittleEndian.decode ((serialized.bytes.drop 4).take 4)) = kVersion
  sizeWord : LittleEndian.decode ((serialized.bytes.drop 8).take 4) = size
  length : serialized.bytes.length = 12 + size + 4
  checksum : LittleEndian.decode (serialized.bytes.drop (12 + size)) =
    (crc32 (serialized.bytes.take (12 + size))).toNat
  payload : ∃ last, (readPayload order).run ⟨serialized.bytes, 12, false⟩ =
    .ok (state, last) ∧
    last.pos = 12 + size

theorem fileChecks_of_deserialize {order : EvaluationOrder} {serialized : Serialized}
    {state : DurableState} (ok : deserializeDurableState order serialized = .ok state) :
    ∃ size, FileChecks order serialized state size := by
  obtain ⟨version, ok⟩ := guarded_ok.mp ok
  obtain ⟨size, ok⟩ := guarded_ok.mp ok
  simp only [u32_run (show 0 + 4 ≤ serialized.bytes.length by omega),
    u32_run (show 0 + 4 + 4 ≤ serialized.bytes.length by omega),
    u32_run (show 0 + 4 + 4 + 4 ≤ serialized.bytes.length by omega),
    Nat.zero_add, Nat.reduceAdd, toNat_ofNat_decode] at ok
  obtain ⟨magicWord, ok⟩ := guarded_ok.mp ok
  obtain ⟨versionWord, ok⟩ := guarded_ok.mp ok
  obtain ⟨_, ok⟩ := guarded_ok.mp ok
  obtain ⟨_, ok⟩ := guarded_ok.mp ok
  obtain ⟨⟨read, last⟩, payload, ok⟩ := bind_ok.mp ok
  obtain ⟨value, trailer, ok⟩ := bind_ok.mp ok
  obtain ⟨length, checksum, ends⟩ := checkTrailer_ok trailer
  simp only [not_not, List.drop_zero] at version magicWord versionWord
  obtain rfl := Except.ok.inj ok
  exact ⟨_, version, magicWord, versionWord, rfl, length, checksum, last, payload, ends⟩

/-- An accepted file has the size its header announces, a valid checksum and a
payload that was read. -/
theorem deserialize_ok {order : EvaluationOrder} {serialized : Serialized}
    {state : DurableState} (ok : deserializeDurableState order serialized = .ok state) :
    serialized.bytes.length =
        16 + LittleEndian.decode ((serialized.bytes.drop 8).take 4) ∧
      Checksummed serialized.bytes ∧
      ∃ last,
        (readPayload order).run ⟨serialized.bytes, 12, false⟩ = .ok (state, last) := by
  obtain ⟨size, checks⟩ := fileChecks_of_deserialize ok
  have length := checks.length
  obtain ⟨last, payload, -⟩ := checks.payload
  refine ⟨by rw [checks.sizeWord]; omega, ⟨_, _, (List.take_append_drop _ _).symm, ?_,
    checks.checksum⟩, last, payload⟩
  rw [List.length_drop]
  omega

/-- Within the bounds a file is accepted, whatever the order. -/
theorem deserialize_recovered (order : EvaluationOrder) {state : DurableState}
    (decodable : Decodable state) :
    deserializeDurableState order (serializedFile state) =
      .ok (recoveredState order state) := by
  let payloadSize := UInt32.ofNat (writeDurable state).length
  have payloadLen : payloadSize.toNat = (writeDurable state).length := by
    have bound := length_writeDurable_lt decodable
    rw [UInt32.toNat_ofNat']
    omega
  have bodyLength : (serializedBody state).length = 12 + (writeDurable state).length := by
    simp only [serializedBody, List.length_append, length_putU32]
  obtain ⟨bytes, spelled⟩ : ∃ bytes, bytes =
      serializedBody state ++ putU32 (crc32 (serializedBody state)) := ⟨_, rfl⟩
  rw [serializedFile, ← spelled]
  have length : bytes.length = 12 + (writeDurable state).length + 4 := by
    simp [spelled, bodyLength]
  -- The three header words, the payload and the trailer, each at its position.
  have magicRun : u32.run ⟨bytes, 0, false⟩ = (kMagic, ⟨bytes, 4, false⟩) := by
    have start : bytes = [] ++ putU32 kMagic ++ (putU32 kVersion ++ (putU32 payloadSize ++
        (writeDurable state ++ putU32 (crc32 (serializedBody state))))) := by
      simp [spelled, serializedBody, payloadSize]
    simpa using (decodes_u32 kMagic).runAt start rfl
  have versionRun : u32.run ⟨bytes, 4, false⟩ = (kVersion, ⟨bytes, 8, false⟩) := by
    have start : bytes = putU32 kMagic ++ putU32 kVersion ++ (putU32 payloadSize ++
        (writeDurable state ++ putU32 (crc32 (serializedBody state)))) := by
      simp [spelled, serializedBody, payloadSize]
    simpa using (decodes_u32 kVersion).runAt start rfl
  have sizeRun : u32.run ⟨bytes, 8, false⟩ = (payloadSize, ⟨bytes, 12, false⟩) := by
    have start : bytes = (putU32 kMagic ++ putU32 kVersion) ++ putU32 payloadSize ++
        (writeDurable state ++ putU32 (crc32 (serializedBody state))) := by
      simp [spelled, serializedBody, payloadSize]
    simpa using (decodes_u32 payloadSize).runAt start rfl
  have payloadRun : (readPayload order).run ⟨bytes, 12, false⟩ =
      .ok (recoveredState order state,
        ⟨bytes, 12 + (writeDurable state).length, false⟩) := by
    rw [spelled, serializedBody]
    exact accepts_readPayload order decodable
      (putU32 kMagic ++ putU32 kVersion ++ putU32 payloadSize) _
  have trailer : checkTrailer bytes (12 + (writeDurable state).length)
      (12 + (writeDurable state).length) = .ok () := by
    have stored : (bytes.drop (12 + (writeDurable state).length)).take 4 =
        putU32 (crc32 (serializedBody state)) := by
      rw [spelled, ← bodyLength, List.drop_left, List.take_of_length_le (by simp)]
    have covered : bytes.take (12 + (writeDurable state).length) =
        serializedBody state := by
      simp [spelled, ← bodyLength]
    have checksum : LittleEndian.decode (putU32 (crc32 (serializedBody state))) =
        (crc32 (serializedBody state)).toNat :=
      LittleEndian.decode_encode (crc32 (serializedBody state)).toNat_lt
    simp [checkTrailer, length, stored, covered, checksum]
  simp [deserializeDurableState, length, magicRun, versionRun, sizeRun, payloadLen,
    Cursor.remaining, payloadRun, trailer, bind, Except.bind, pure, Except.pure]

/-- Within the bounds a file is read back. -/
theorem deserialize_serialized {state : DurableState} (decodable : Decodable state) :
    deserializeDurableState {} (serializedFile state) =
      .ok { state with formatVersion := durableFormatVersion } := by
  rw [deserialize_recovered {} decodable, recoveredState_leftToRight]

/-- Whatever the compiler's argument order, only states within the bounds come out
of the decoder. -/
theorem decodable_of_deserialize {order : EvaluationOrder} {serialized : Serialized}
    {state : DurableState} (ok : deserializeDurableState order serialized = .ok state) :
    Decodable state := by
  obtain ⟨-, -, last, payload⟩ := deserialize_ok ok
  exact (returns_readPayload order _ _ _ payload).2

theorem serialize_bind {α : Type} (state : DurableState) (next : Serialized → Result α) :
    (serializeDurableState state >>= next) = next (serializedFile state) := rfl

/-- The states that survive a round trip are exactly those within the bounds. -/
theorem durable_roundTrip_iff (state : DurableState)
    (version : state.formatVersion = durableFormatVersion) :
    (serializeDurableState state >>= deserializeDurableState {}) = .ok state ↔
      Decodable state := by
  rw [serialize_bind]
  constructor
  · exact decodable_of_deserialize
  · intro decodable
    rw [deserialize_serialized decodable, ← version]

theorem worker_topology_roundTrip :
    (serializeDurableState
        { topologyGeneration := ⟨4⟩
          devices := [Worker.sourceDevice ⟨1⟩, Worker.targetDevice ⟨1⟩]
          links := [Worker.link ⟨1⟩ {}] } >>= deserializeDurableState {}) =
      .ok
        { topologyGeneration := ⟨4⟩
          devices := [Worker.sourceDevice ⟨1⟩, Worker.targetDevice ⟨1⟩]
          links := [Worker.link ⟨1⟩ {}] } :=
  (durable_roundTrip_iff _ rfl).mpr (by decide +kernel)

end Durable

end NvlinkFabric

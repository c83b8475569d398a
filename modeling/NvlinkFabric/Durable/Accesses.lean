import NvlinkFabric.Durable.RoundTrip
import NvlinkFabric.Wire.Accesses

/-!
# The accesses of `deserialize_durable_state`

`Reader` checks what remains before every read, so its reads stay inside whatever the
records hold.  The checksum is computed before the size of the file is compared with the
announced one; its range is inside because the payload was found to remain when the
reader stood behind the header.
-/

namespace NvlinkFabric.Indexed

open IndexedReader
open Durable (ArgumentOrder EvaluationOrder Serialized)

/-- `Reader::str`. -/
def readStr : IndexedReader Text := text (some Durable.kMaxString)

def readCapability : IndexedReader Capability := do
  let interconnect ← InterconnectTechnology.ofByte <$> u8
  let linkCount ← u32
  let nominalLaneWidth ← u32
  let nominalBandwidthBps ← u64
  let peerAccessSupported ← flag
  let measurementSupport ← MeasurementSupport.ofByte <$> u8
  let supportedCounters ← u32
  let telemetrySupported ← flag
  return { interconnect, linkCount, nominalLaneWidth, nominalBandwidthBps,
           peerAccessSupported, measurementSupport, supportedCounters,
           telemetrySupported }

def readEvidence : IndexedReader Evidence := do
  let evidenceClass ← EvidenceClass.ofByte <$> u8
  let provenance ← Provenance.mk <$> u32
  let source ← readStr
  let note ← readStr
  return { evidenceClass, provenance, source, note }

/-- `Timestamp(r.u64(), r.u8() != 0u)`. -/
def readTimestamp (order : ArgumentOrder) : IndexedReader Timestamp :=
  match order with
  | .leftToRight => do
      let unixNs ← UInt64.toInt64 <$> u64
      let valid ← flag
      return { unixNs, valid }
  | .rightToLeft => do
      let valid ← flag
      let unixNs ← UInt64.toInt64 <$> u64
      return { unixNs, valid }

def readDevice : IndexedReader DeviceRecord := do
  let id ← Id.mk <$> u64
  let logicalName ← readStr
  let kind ← NodeKind.ofByte <$> u8
  let backend ← readStr
  let backendInstance ← readStr
  let pciIdentity ← readStr
  let cudaOrdinal ← IndexedReader.optional u32
  let vendor ← readStr
  let architecture ← readStr
  let deviceGeneration ← readStr
  let capability ← readCapability
  let health ← DeviceHealthState.ofByte <$> u8
  let evidence ← readEvidence
  let generation ← Generation.mk <$> u64
  let ownerWorker ← IndexedReader.optional (Id.mk <$> u64)
  let ownerBoot ← IndexedReader.optional (Id.mk <$> u64)
  return { id, logicalName, kind, backend, backendInstance, pciIdentity,
           cudaOrdinal, vendor,
           architecture, deviceGeneration, capability, health, evidence, generation,
           ownerWorker, ownerBoot }

def readLink (order : ArgumentOrder) : IndexedReader LinkRecord := do
  let id ← Id.mk <$> u64
  let source ← Id.mk <$> u64
  let target ← Id.mk <$> u64
  let directed ← flag
  let physicalIdentifier ← readStr
  let state ← LinkOperationalState.ofByte <$> u8
  let technology ← InterconnectTechnology.ofByte <$> u8
  let capability ← readCapability
  let generation ← Generation.mk <$> u64
  let evidence ← readEvidence
  let lastObservation ← readTimestamp order
  let measurementSupported ← flag
  let degraded ← flag
  let degradationNote ← readStr
  let topologyGeneration ← Generation.mk <$> u64
  return { id, source, target, directed, physicalIdentifier, state,
           technology, capability,
           generation, evidence, lastObservation, measurementSupported, degraded,
           degradationNote, topologyGeneration }

/-- The payload part of `deserialize_durable_state`. -/
def readPayload (order : EvaluationOrder) : IndexedChecked Error DurableState := do
  let topologyGeneration ← read (Generation.mk <$> u64)
  let savedAt ← read (readTimestamp order.savedAt)
  let deviceCount ← read u32
  refuse (fun cursor => cursor.bad || deviceCount.toNat > ({} : Limits).maxDevices)
    ⟨.integrityFailure, "impossible device count"⟩
  let devices ← records readDevice ⟨.integrityFailure, "corrupt device record"⟩
    deviceCount.toNat
  let linkCount ← read u32
  refuse (fun cursor => cursor.bad || linkCount.toNat > ({} : Limits).maxLinks)
    ⟨.integrityFailure, "impossible link count"⟩
  let links ← records (readLink order.lastObservation)
    ⟨.integrityFailure, "corrupt link record"⟩ linkCount.toNat
  return { topologyGeneration, savedAt, devices, links }

/-- The checks that follow the payload.  The checksum is computed before the first. -/
def checkTrailer (bytes : List UInt8) (checksumPos pos : Nat) : Option (Result Unit) := do
  let expected ← crc32 bytes checksumPos
  if bytes.length < sizeSum checksumPos 4 then
    return err .integrityFailure "missing checksum"
  let stored ← load bytes checksumPos 4
  if bytes.length ≠ sizeSum checksumPos 4 then
    return err .integrityFailure "trailing garbage after frame"
  if stored ≠ expected.toNat then
    return err .integrityFailure "checksum mismatch (corrupt frame)"
  if pos ≠ checksumPos then
    return err .integrityFailure "payload length inconsistent"
  return .ok ()

/-- `deserialize_durable_state`. -/
def deserializeDurableState (order : EvaluationOrder) (serialized : Serialized) :
    Option (Result DurableState) := do
  if serialized.formatVersion ≠ Durable.kVersion then
    return err .integrityFailure "unsupported serialized version"
  if serialized.bytes.length < 4 + 4 + 4 + 4 then
    return err .integrityFailure "frame too short"
  let (magic, cursor) ← u32.run { bytes := serialized.bytes }
  let (version, cursor) ← u32.run cursor
  let (payloadLen, cursor) ← u32.run cursor
  if magic ≠ Durable.kMagic then
    return err .integrityFailure "bad magic"
  if version ≠ Durable.kVersion then
    return err .integrityFailure "unsupported version"
  if !cursor.remaining64 payloadLen.toNat then
    return err .integrityFailure "truncated payload"
  if !cursor.remaining64 4 then
    return err .integrityFailure "missing checksum"
  match ← ((readPayload order).run cursor).run with
  | .error error => return .error error
  | .ok (state, cursor) =>
      let trailer ←
        checkTrailer serialized.bytes (sizeSum (4 + 4 + 4) payloadLen.toNat) cursor.pos
      return trailer.map fun _ => state

/-! ## All accesses are inside -/

theorem refines_readStr : Refines readStr Durable.readStr := refines_text _

theorem refines_readCapability : Refines readCapability Durable.readCapability :=
  .bind (refines_u8.map _) fun _ =>
  .bind refines_u32 fun _ =>
  .bind refines_u32 fun _ =>
  .bind refines_u64 fun _ =>
  .bind refines_flag fun _ =>
  .bind (refines_u8.map _) fun _ =>
  .bind refines_u32 fun _ =>
  .bind refines_flag fun _ =>
  .pure _

theorem refines_readEvidence : Refines readEvidence Durable.readEvidence :=
  .bind (refines_u8.map _) fun _ =>
  .bind (refines_u32.map _) fun _ =>
  .bind refines_readStr fun _ =>
  .bind refines_readStr fun _ =>
  .pure _

theorem refines_readTimestamp (order : ArgumentOrder) :
    Refines (readTimestamp order) (Durable.readTimestamp order) := by
  cases order with
  | leftToRight =>
      exact
        .bind (refines_u64.map _) fun _ =>
        .bind refines_flag fun _ =>
        .pure _
  | rightToLeft =>
      exact
        .bind refines_flag fun _ =>
        .bind (refines_u64.map _) fun _ =>
        .pure _

theorem refines_readDevice : Refines readDevice Durable.readDevice :=
  .bind (refines_u64.map _) fun _ =>
  .bind refines_readStr fun _ =>
  .bind (refines_u8.map _) fun _ =>
  .bind refines_readStr fun _ =>
  .bind refines_readStr fun _ =>
  .bind refines_readStr fun _ =>
  .bind refines_u32.optional fun _ =>
  .bind refines_readStr fun _ =>
  .bind refines_readStr fun _ =>
  .bind refines_readStr fun _ =>
  .bind refines_readCapability fun _ =>
  .bind (refines_u8.map _) fun _ =>
  .bind refines_readEvidence fun _ =>
  .bind (refines_u64.map _) fun _ =>
  .bind (refines_u64.map _).optional fun _ =>
  .bind (refines_u64.map _).optional fun _ =>
  .pure _

theorem refines_readLink (order : ArgumentOrder) :
    Refines (readLink order) (Durable.readLink order) :=
  .bind (refines_u64.map _) fun _ =>
  .bind (refines_u64.map _) fun _ =>
  .bind (refines_u64.map _) fun _ =>
  .bind refines_flag fun _ =>
  .bind refines_readStr fun _ =>
  .bind (refines_u8.map _) fun _ =>
  .bind (refines_u8.map _) fun _ =>
  .bind refines_readCapability fun _ =>
  .bind (refines_u64.map _) fun _ =>
  .bind refines_readEvidence fun _ =>
  .bind (refines_readTimestamp order) fun _ =>
  .bind refines_flag fun _ =>
  .bind refines_flag fun _ =>
  .bind refines_readStr fun _ =>
  .bind (refines_u64.map _) fun _ =>
  .pure _

theorem refines_readPayload (order : EvaluationOrder) :
    RefinesChecked (readPayload order) (Durable.readPayload order) := by
  refine (refinesChecked_read (refines_u64.map _)).bind fun _ => ?_
  refine (refinesChecked_read (refines_readTimestamp _)).bind fun _ => ?_
  refine (refinesChecked_read refines_u32).bind fun _ => ?_
  refine (refinesChecked_refuse _ _).bind fun _ => ?_
  refine (refinesChecked_records refines_readDevice _ _).bind fun _ => ?_
  refine (refinesChecked_read refines_u32).bind fun _ => ?_
  refine (refinesChecked_refuse _ _).bind fun _ => ?_
  refine (refinesChecked_records (refines_readLink _) _ _).bind fun _ => ?_
  exact .pure _

/-- Once the payload is known to be inside, so are the checksum and what it covers. -/
theorem checkTrailer_eq {bytes : List UInt8} {checksumPos : Nat}
    (size : bytes.length < 2 ^ 63) (inside : checksumPos ≤ bytes.length) (pos : Nat) :
    checkTrailer bytes checksumPos pos =
      some (Durable.checkTrailer bytes checksumPos pos) := by
  rw [checkTrailer, Durable.checkTrailer, crc32_eq inside, sizeSum_eq (by omega)]
  refine guard_eq fun room => ?_
  rw [load_eq (Nat.not_lt.mp room) size]
  exact guard_eq fun _ => guard_eq fun _ => guard_eq fun _ => rfl

/-- All accesses of `deserialize_durable_state` are inside the input. -/
theorem deserializeDurableState_eq (order : EvaluationOrder) {serialized : Serialized}
    (size : serialized.bytes.length < 2 ^ 63) :
    deserializeDurableState order serialized =
      some (Durable.deserializeDurableState order serialized) := by
  unfold deserializeDurableState Durable.deserializeDurableState
  refine guard_eq fun _ => guard_eq fun long => ?_
  have header (pos : Nat) (inside : pos + 4 ≤ 16) :
      u32.run ⟨serialized.bytes, pos, false⟩ =
        some (ByteReader.u32.run ⟨serialized.bytes, pos, false⟩) ∧
      ByteReader.u32.run ⟨serialized.bytes, pos, false⟩ =
        (UInt32.ofNat (LittleEndian.decode ((serialized.bytes.drop pos).take 4)),
          ⟨serialized.bytes, pos + 4, false⟩) := by
    have within : pos + 4 ≤ serialized.bytes.length := by omega
    exact ⟨(refines_u32 _ ⟨by simp only; omega, size⟩).1, Durable.u32_run within⟩
  have behind : Cursor.Addressable ⟨serialized.bytes, 12, false⟩ :=
    ⟨by simp only; omega, size⟩
  obtain ⟨magicRun, magicWord⟩ := header 0 (by decide)
  obtain ⟨versionRun, versionWord⟩ := header 4 (by decide)
  obtain ⟨sizeRun, sizeWord⟩ := header 8 (by decide)
  simp only [Nat.zero_add, Nat.reduceAdd] at magicWord versionWord sizeWord
  simp only [magicRun, magicWord, versionRun, versionWord, sizeRun, sizeWord,
    Option.bind_eq_bind, Option.bind_some]
  generalize UInt32.ofNat (LittleEndian.decode ((serialized.bytes.drop 8).take 4)) =
    payloadLen
  have payloadSize : payloadLen.toNat < 2 ^ 63 := payloadLen.toNat_lt.trans (by decide)
  simp only [behind.remaining64_eq payloadSize,
    behind.remaining64_eq (show 4 < 2 ^ 63 by decide)]
  refine guard_eq fun _ => guard_eq fun _ => guard_eq fun remains => guard_eq fun _ => ?_
  have inside : 12 + payloadLen.toNat ≤ serialized.bytes.length := by
    simpa [Cursor.remaining] using remains
  have checksumPos : sizeSum (4 + 4 + 4) payloadLen.toNat =
      4 + 4 + 4 + payloadLen.toNat :=
    sizeSum_eq (by omega)
  rw [(refines_readPayload order _ behind).1, checksumPos]
  cases (Durable.readPayload order).run ⟨serialized.bytes, 12, false⟩ with
  | error error => rfl
  | ok read =>
      have trailer := checkTrailer_eq size inside read.2.pos
      simp only [Option.bind_some, Nat.reduceAdd, trailer, bind, Except.bind]
      cases Durable.checkTrailer serialized.bytes (12 + payloadLen.toNat)
        read.2.pos <;> rfl

/-- The payload is refused with integrity failures only. -/
theorem fails_readPayload (order : EvaluationOrder) :
    ByteReader.Fails (Durable.readPayload order) (·.code = .integrityFailure) := by
  refine (ByteReader.fails_read _ _).bind fun _ => ?_
  refine (ByteReader.fails_read _ _).bind fun _ => ?_
  refine (ByteReader.fails_read _ _).bind fun _ => ?_
  refine .bind (ByteReader.fails_refuse _ (by rfl)) fun _ => ?_
  refine .bind (ByteReader.fails_records _ (by rfl) _) fun _ => ?_
  refine (ByteReader.fails_read _ _).bind fun _ => ?_
  refine .bind (ByteReader.fails_refuse _ (by rfl)) fun _ => ?_
  refine .bind (ByteReader.fails_records _ (by rfl) _) fun _ => ?_
  exact .pure _ _

theorem checkTrailer_failsWith (bytes : List UInt8) (checksumPos pos : Nat) :
    FailsWith .integrityFailure (Durable.checkTrailer bytes checksumPos pos) :=
  .guard <| .guard <| .guard <| .guard <| .ok ()

theorem deserialize_failsWith (order : EvaluationOrder) (serialized : Serialized) :
    FailsWith .integrityFailure (Durable.deserializeDurableState order serialized) := by
  unfold Durable.deserializeDurableState
  refine .guard <| .guard <| .guard <| .guard <| .guard <| .guard <|
    .bind ?_ fun read => ?_
  · exact fails_readPayload order _
  · exact (checkTrailer_failsWith _ _ _).bind fun _ => .ok read.1

/-- The payload of an accepted file ends where the checksum starts, and its records are
within the bounds. -/
structure Consumed (order : EvaluationOrder) (bytes : List UInt8) (state : DurableState) :
    Prop where
  payload : ∃ last, ((readPayload order).run ⟨bytes, 12, false⟩).run =
    some (.ok (state, last)) ∧
    last.pos = 12 + LittleEndian.decode ((bytes.drop 8).take 4) ∧
    bytes.length = last.pos + 4
  devices : state.devices.length ≤ 256
  links : state.links.length ≤ 1024

theorem consumed_of_deserialize {order : EvaluationOrder} {serialized : Serialized}
    {state : DurableState} (size : serialized.bytes.length < 2 ^ 63)
    (ok : Durable.deserializeDurableState order serialized = .ok state) :
    Consumed order serialized.bytes state := by
  obtain ⟨payloadLen, checks⟩ := Durable.fileChecks_of_deserialize ok
  obtain ⟨last, read, ends⟩ := checks.payload
  have length := checks.length
  have behind : Cursor.Addressable ⟨serialized.bytes, 12, false⟩ :=
    ⟨by simp only; omega, size⟩
  obtain ⟨-, -, devices, links⟩ := Durable.decodable_of_deserialize ok
  refine ⟨⟨last, ?_, ?_, by omega⟩, devices, links⟩
  · rw [(refines_readPayload order _ behind).1, read]
  · rw [checks.sizeWord, ends]

/-- Whatever the bytes are, both decoders access only these and return.  A durable file
is refused with integrity failures only, and consumed up to its checksum if it is
accepted. -/
theorem decoders_inside (buffer : Buffer) (maxBytes : Nat) (formatVersion : UInt32)
    (order : EvaluationOrder) :
    decodeFrame buffer.bytes maxBytes = some (Wire.decodeFrame buffer.bytes maxBytes) ∧
      ∃ result,
        deserializeDurableState order ⟨formatVersion, buffer.bytes⟩ = some result ∧
        FailsWith .integrityFailure result ∧
        ∀ state, result = .ok state → Consumed order buffer.bytes state := by
  refine ⟨decodeFrame_eq buffer.size maxBytes, _,
    deserializeDurableState_eq order buffer.size, deserialize_failsWith order _, ?_⟩
  intro state ok
  exact consumed_of_deserialize buffer.size ok

end NvlinkFabric.Indexed

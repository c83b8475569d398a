import NvlinkFabric.Records
import NvlinkFabric.Wire.Frame

/-!
# The durable format

A durable file is magic, version, payload length, payload and checksum.  The
payload is a sequence of fields without tags, so writer and reader agree only
through the order of their fields.  The writer sends every byte of a string
behind a size that wraps at 16 bits; the reader refuses sizes above its own
bound.

C++ leaves the order in which the two arguments of `Timestamp(u64, u8)` are
evaluated to the compiler.  `ArgumentOrder` makes that choice a parameter.
-/

namespace NvlinkFabric.Durable

open Wire ByteReader

def kMagic : UInt32 := 0x4446564E
def kVersion : UInt32 := 1
def kMaxString : Nat := 4096

/-- `Writer::str`: the size is cut to 16 bits, the content is not. -/
def writeStr (text : Text) : List UInt8 := putU16 (UInt16.ofNat text.length) ++ text

def writeCapability (capability : Capability) : List UInt8 :=
  [ putU8 capability.interconnect.toByte,
    putU32 capability.linkCount,
    putU32 capability.nominalLaneWidth,
    putU64 capability.nominalBandwidthBps,
    putBool capability.peerAccessSupported,
    putU8 capability.measurementSupport.toByte,
    putU32 capability.supportedCounters,
    putBool capability.telemetrySupported ].flatten

def writeEvidence (evidence : Evidence) : List UInt8 :=
  [ putU8 evidence.evidenceClass.toByte,
    putU32 evidence.provenance.bits,
    writeStr evidence.source,
    writeStr evidence.note ].flatten

def writeTimestamp (timestamp : Timestamp) : List UInt8 :=
  [putU64 timestamp.unixNs.toUInt64, putBool timestamp.valid].flatten

def writeDevice (device : DeviceRecord) : List UInt8 :=
  [ putU64 device.id.value,
    writeStr device.logicalName,
    putU8 device.kind.toByte,
    writeStr device.backend,
    writeStr device.backendInstance,
    writeStr device.pciIdentity,
    encodeOptional putU32 device.cudaOrdinal,
    writeStr device.vendor,
    writeStr device.architecture,
    writeStr device.deviceGeneration,
    writeCapability device.capability,
    putU8 device.health.toByte,
    writeEvidence device.evidence,
    putU64 device.generation.value,
    encodeOptional (fun worker => putU64 worker.value) device.ownerWorker,
    encodeOptional (fun boot => putU64 boot.value) device.ownerBoot ].flatten

def writeLink (link : LinkRecord) : List UInt8 :=
  [ putU64 link.id.value,
    putU64 link.source.value,
    putU64 link.target.value,
    putBool link.directed,
    writeStr link.physicalIdentifier,
    putU8 link.state.toByte,
    putU8 link.technology.toByte,
    writeCapability link.capability,
    putU64 link.generation.value,
    writeEvidence link.evidence,
    writeTimestamp link.lastObservation,
    putBool link.measurementSupported,
    putBool link.degraded,
    writeStr link.degradationNote,
    putU64 link.topologyGeneration.value ].flatten

def writeDurable (state : DurableState) : List UInt8 :=
  [ putU64 state.topologyGeneration.value,
    writeTimestamp state.savedAt,
    putU32 (UInt32.ofNat state.devices.length),
    state.devices.flatMap writeDevice,
    putU32 (UInt32.ofNat state.links.length),
    state.links.flatMap writeLink ].flatten

/-- Which argument of a call is evaluated first. -/
inductive ArgumentOrder where
  | leftToRight | rightToLeft
  deriving DecidableEq

/-- The choices a compiler makes for the two `Timestamp` reads. -/
structure EvaluationOrder where
  savedAt : ArgumentOrder := .leftToRight
  lastObservation : ArgumentOrder := .leftToRight
  deriving DecidableEq

/-- `Reader::str`. -/
def readStr : ByteReader Text := text (some kMaxString)

def readCapability : ByteReader Capability := do
  let interconnect ← InterconnectTechnology.ofByte <$> u8
  let linkCount ← u32
  let nominalLaneWidth ← u32
  let nominalBandwidthBps ← u64
  let peerAccessSupported ← flag
  let measurementSupport ← MeasurementSupport.ofByte <$> u8
  let supportedCounters ← u32
  let telemetrySupported ← flag
  return { interconnect, linkCount, nominalLaneWidth, nominalBandwidthBps,
           peerAccessSupported, measurementSupport, supportedCounters,
           telemetrySupported }

def readEvidence : ByteReader Evidence := do
  let evidenceClass ← EvidenceClass.ofByte <$> u8
  let provenance ← Provenance.mk <$> u32
  let source ← readStr
  let note ← readStr
  return { evidenceClass, provenance, source, note }

/-- `Timestamp(r.u64(), r.u8() != 0u)`. -/
def readTimestamp (order : ArgumentOrder) : ByteReader Timestamp :=
  match order with
  | .leftToRight => do
      let unixNs ← UInt64.toInt64 <$> u64
      let valid ← flag
      return { unixNs, valid }
  | .rightToLeft => do
      let valid ← flag
      let unixNs ← UInt64.toInt64 <$> u64
      return { unixNs, valid }

def readDevice : ByteReader DeviceRecord := do
  let id ← Id.mk <$> u64
  let logicalName ← readStr
  let kind ← NodeKind.ofByte <$> u8
  let backend ← readStr
  let backendInstance ← readStr
  let pciIdentity ← readStr
  let cudaOrdinal ← optional u32
  let vendor ← readStr
  let architecture ← readStr
  let deviceGeneration ← readStr
  let capability ← readCapability
  let health ← DeviceHealthState.ofByte <$> u8
  let evidence ← readEvidence
  let generation ← Generation.mk <$> u64
  let ownerWorker ← optional (Id.mk <$> u64)
  let ownerBoot ← optional (Id.mk <$> u64)
  return { id, logicalName, kind, backend, backendInstance, pciIdentity, cudaOrdinal,
           vendor, architecture, deviceGeneration, capability, health, evidence,
           generation, ownerWorker, ownerBoot }

def readLink (order : ArgumentOrder) : ByteReader LinkRecord := do
  let id ← Id.mk <$> u64
  let source ← Id.mk <$> u64
  let target ← Id.mk <$> u64
  let directed ← flag
  let physicalIdentifier ← readStr
  let state ← LinkOperationalState.ofByte <$> u8
  let technology ← InterconnectTechnology.ofByte <$> u8
  let capability ← readCapability
  let generation ← Generation.mk <$> u64
  let evidence ← readEvidence
  let lastObservation ← readTimestamp order
  let measurementSupported ← flag
  let degraded ← flag
  let degradationNote ← readStr
  let topologyGeneration ← Generation.mk <$> u64
  return { id, source, target, directed, physicalIdentifier, state, technology,
           capability, generation, evidence, lastObservation, measurementSupported,
           degraded, degradationNote, topologyGeneration }

/-- `Serialized`. -/
structure Serialized where
  formatVersion : UInt32 := 1
  bytes : List UInt8 := []
  deriving DecidableEq

/-- Everything the checksum of a file covers.  The source writes a zero length
first and patches it once the payload is known. -/
def serializedBody (state : DurableState) : List UInt8 :=
  putU32 kMagic ++ putU32 kVersion ++ putU32 (UInt32.ofNat (writeDurable state).length) ++
    writeDurable state

/-- The file of a state. -/
def serializedFile (state : DurableState) : Serialized where
  formatVersion := kVersion
  bytes := serializedBody state ++ putU32 (crc32 (serializedBody state))

/-- `serialize_durable_state`: it has no failing case. -/
def serializeDurableState (state : DurableState) : Result Serialized :=
  .ok (serializedFile state)

/-- The payload part of `deserialize_durable_state`. -/
def readPayload (order : EvaluationOrder) : Checked Error DurableState := do
  let topologyGeneration ← read (Generation.mk <$> u64)
  let savedAt ← read (readTimestamp order.savedAt)
  let deviceCount ← read u32
  refuse (fun cursor => cursor.bad || deviceCount.toNat > ({} : Limits).maxDevices)
    ⟨.integrityFailure, "impossible device count"⟩
  let devices ← records readDevice ⟨.integrityFailure, "corrupt device record"⟩
    deviceCount.toNat
  let linkCount ← read u32
  refuse (fun cursor => cursor.bad || linkCount.toNat > ({} : Limits).maxLinks)
    ⟨.integrityFailure, "impossible link count"⟩
  let links ← records (readLink order.lastObservation)
    ⟨.integrityFailure, "corrupt link record"⟩ linkCount.toNat
  return { topologyGeneration, savedAt, devices, links }

/-- The checks that follow the payload in `deserialize_durable_state`. -/
def checkTrailer (bytes : List UInt8) (checksumPos pos : Nat) : Result Unit :=
  if bytes.length < checksumPos + 4 then
    err .integrityFailure "missing checksum"
  else if bytes.length ≠ checksumPos + 4 then
    err .integrityFailure "trailing garbage after frame"
  else if LittleEndian.decode ((bytes.drop checksumPos).take 4) ≠
      (crc32 (bytes.take checksumPos)).toNat then
    err .integrityFailure "checksum mismatch (corrupt frame)"
  else if pos ≠ checksumPos then
    err .integrityFailure "payload length inconsistent"
  else .ok ()

/-- `deserialize_durable_state`. -/
def deserializeDurableState (order : EvaluationOrder) (serialized : Serialized) :
    Result DurableState :=
  if serialized.formatVersion ≠ kVersion then
    err .integrityFailure "unsupported serialized version"
  else if serialized.bytes.length < 4 + 4 + 4 + 4 then
    err .integrityFailure "frame too short"
  else
    let (magic, cursor) := u32.run { bytes := serialized.bytes }
    let (version, cursor) := u32.run cursor
    let (payloadLen, cursor) := u32.run cursor
    if magic ≠ kMagic then
      err .integrityFailure "bad magic"
    else if version ≠ kVersion then
      err .integrityFailure "unsupported version"
    else if !cursor.remaining payloadLen.toNat then
      err .integrityFailure "truncated payload"
    else if !cursor.remaining 4 then
      err .integrityFailure "missing checksum"
    else do
      let (state, cursor) ← (readPayload order).run cursor
      checkTrailer serialized.bytes (4 + 4 + 4 + payloadLen.toNat) cursor.pos
      return state

end NvlinkFabric.Durable

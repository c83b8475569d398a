import NvlinkFabric.Records
import NvlinkFabric.Wire.Frame
import Mathlib.Data.Rat.Floor

/-!
# Payloads of worker evidence

The compact encodings of devices, links and measurements that a worker sends.
They carry only some of the fields; `receivedDevice`, `receivedLink` and
`receivedMeas` are the records the coordinator decodes from them.  Strings are
cut to 65535 bytes by the sender.  A bandwidth is sent as an integer and read
back exactly, which a `double` does below 2^53.
-/

namespace NvlinkFabric.Wire

open ByteReader

/-- `enc_device`. -/
def encDevice (device : DeviceRecord) : List UInt8 :=
  [ putU64 device.id.value,
    putStr device.logicalName,
    putStr device.architecture,
    putStr device.deviceGeneration,
    putU8 device.kind.toByte,
    putU8 device.health.toByte,
    putU8 device.evidence.evidenceClass.toByte,
    putU32 device.evidence.provenance.bits,
    putU64 device.generation.value,
    putU64 device.capability.nominalBandwidthBps,
    putBool device.capability.peerAccessSupported,
    putStr device.pciIdentity ].flatten

/-- `dec_device`. -/
def decDevice : ByteReader DeviceRecord := do
  let id ← Id.mk <$> u64
  let logicalName ← str
  let architecture ← str
  let deviceGeneration ← str
  let kind ← NodeKind.ofByte <$> u8
  let health ← DeviceHealthState.ofByte <$> u8
  let evidenceClass ← EvidenceClass.ofByte <$> u8
  let provenance ← Provenance.mk <$> u32
  let generation ← Generation.mk <$> u64
  let nominalBandwidthBps ← u64
  let peerAccessSupported ← flag
  let pciIdentity ← str
  return {
    id, logicalName, architecture, deviceGeneration, kind, health, generation, pciIdentity
    evidence := { evidenceClass, provenance, source := "worker" }
    capability := { nominalBandwidthBps, peerAccessSupported }
    vendor := "worker"
    backend := "worker"
    backendInstance := "worker" }

/-- The part of a string that is sent. -/
def sent (text : Text) : Text := text.take 65535

/-- The record decoded from an encoded device. -/
def receivedDevice (device : DeviceRecord) : DeviceRecord where
  id := device.id
  logicalName := sent device.logicalName
  architecture := sent device.architecture
  deviceGeneration := sent device.deviceGeneration
  kind := device.kind
  health := device.health
  generation := device.generation
  pciIdentity := sent device.pciIdentity
  evidence :=
    { evidenceClass := device.evidence.evidenceClass
      provenance := device.evidence.provenance
      source := "worker" }
  capability :=
    { nominalBandwidthBps := device.capability.nominalBandwidthBps
      peerAccessSupported := device.capability.peerAccessSupported }
  vendor := "worker"
  backend := "worker"
  backendInstance := "worker"

/-- `enc_link`. -/
def encLink (link : LinkRecord) : List UInt8 :=
  [ putU64 link.id.value,
    putU64 link.source.value,
    putU64 link.target.value,
    putBool link.directed,
    putU8 link.state.toByte,
    putU8 link.technology.toByte,
    putU64 link.capability.nominalBandwidthBps,
    putU64 link.generation.value,
    putStr link.physicalIdentifier ].flatten

/-- `dec_link`, at the time of the call. -/
def decLink (now : Timestamp) : ByteReader LinkRecord := do
  let id ← Id.mk <$> u64
  let source ← Id.mk <$> u64
  let target ← Id.mk <$> u64
  let directed ← flag
  let state ← LinkOperationalState.ofByte <$> u8
  let technology ← InterconnectTechnology.ofByte <$> u8
  let nominalBandwidthBps ← u64
  let generation ← Generation.mk <$> u64
  let physicalIdentifier ← str
  return {
    id, source, target, directed, state, technology, generation, physicalIdentifier
    capability := { nominalBandwidthBps }
    evidence :=
      { evidenceClass := .synthetic, provenance := .syntheticFixture, source := "worker",
        note := "worker-published" }
    lastObservation := now }

/-- The record decoded from an encoded link. -/
def receivedLink (now : Timestamp) (link : LinkRecord) : LinkRecord where
  id := link.id
  source := link.source
  target := link.target
  directed := link.directed
  state := link.state
  technology := link.technology
  generation := link.generation
  physicalIdentifier := sent link.physicalIdentifier
  capability := { nominalBandwidthBps := link.capability.nominalBandwidthBps }
  evidence :=
    { evidenceClass := .synthetic, provenance := .syntheticFixture, source := "worker",
      note := "worker-published" }
  lastObservation := now

/-- The conversion of a bandwidth to an unsigned word. -/
def bandwidthWord (bandwidth : ℚ) : UInt64 := UInt64.ofNat ⌊bandwidth⌋.toNat

/-- `enc_meas`. -/
def encMeas (measurement : MeasurementRecord) : List UInt8 :=
  [ putU64 measurement.id.value,
    putU64 measurement.source.value,
    putU64 measurement.target.value,
    putU64 (bandwidthWord measurement.bandwidthBps),
    putBool measurement.valid,
    putU8 measurement.evidence.evidenceClass.toByte,
    putU64 measurement.payloadBytes ].flatten

/-- `dec_meas`, at the time of the call. -/
def decMeas (now : Timestamp) : ByteReader MeasurementRecord := do
  let id ← Id.mk <$> u64
  let source ← Id.mk <$> u64
  let target ← Id.mk <$> u64
  let bandwidth ← u64
  let valid ← flag
  let evidenceClass ← EvidenceClass.ofByte <$> u8
  let payloadBytes ← u64
  return {
    id, source, target, valid, payloadBytes
    bandwidthBps := bandwidth.toNat
    evidence := { evidenceClass, source := "worker" }
    measuredAt := now }

/-- The record decoded from an encoded measurement. -/
def receivedMeas (now : Timestamp) (measurement : MeasurementRecord) :
    MeasurementRecord where
  id := measurement.id
  source := measurement.source
  target := measurement.target
  valid := measurement.valid
  payloadBytes := measurement.payloadBytes
  bandwidthBps := (bandwidthWord measurement.bandwidthBps).toNat
  evidence := { evidenceClass := measurement.evidence.evidenceClass, source := "worker" }
  measuredAt := now

theorem decodes_str (text : Text) : Decodes str (putStr text) (sent text) := by
  have size : (UInt16.ofNat (if text.length ≤ 65535 then text.length else 65535)).toNat =
      (sent text).length := by
    rw [UInt16.toNat_ofNat', sent, List.length_take]
    split <;> omega
  have cut : text.take (sent text).length = sent text := by
    rw [sent, List.length_take, List.take_eq_take_iff]
    omega
  have bound : (sent text).length < 65536 := by
    rw [sent, List.length_take]
    omega
  rw [putStr, putU16, size, cut]
  exact decodes_text (by simp) bound

theorem decodes_decDevice (device : DeviceRecord) :
    Decodes decDevice (encDevice device) (receivedDevice device) :=
  .field ((decodes_u64 _).mapped rfl) <|
  .field (decodes_str _) <|
  .field (decodes_str _) <|
  .field (decodes_str _) <|
  .field ((decodes_u8 _).mapped (NodeKind.ofByte_toByte _)) <|
  .field ((decodes_u8 _).mapped (DeviceHealthState.ofByte_toByte _)) <|
  .field ((decodes_u8 _).mapped (EvidenceClass.ofByte_toByte _)) <|
  .field ((decodes_u32 _).mapped rfl) <|
  .field ((decodes_u64 _).mapped rfl) <|
  .field (decodes_u64 _) <|
  .field (decodes_putBool _) <|
  .field (decodes_str _) <|
  .pure _

theorem decodes_decLink (now : Timestamp) (link : LinkRecord) :
    Decodes (decLink now) (encLink link) (receivedLink now link) :=
  .field ((decodes_u64 _).mapped rfl) <|
  .field ((decodes_u64 _).mapped rfl) <|
  .field ((decodes_u64 _).mapped rfl) <|
  .field (decodes_putBool _) <|
  .field ((decodes_u8 _).mapped (LinkOperationalState.ofByte_toByte _)) <|
  .field ((decodes_u8 _).mapped (InterconnectTechnology.ofByte_toByte _)) <|
  .field (decodes_u64 _) <|
  .field ((decodes_u64 _).mapped rfl) <|
  .field (decodes_str _) <|
  .pure _

theorem decodes_decMeas (now : Timestamp) (measurement : MeasurementRecord) :
    Decodes (decMeas now) (encMeas measurement) (receivedMeas now measurement) :=
  .field ((decodes_u64 _).mapped rfl) <|
  .field ((decodes_u64 _).mapped rfl) <|
  .field ((decodes_u64 _).mapped rfl) <|
  .field (decodes_u64 _) <|
  .field (decodes_putBool _) <|
  .field ((decodes_u8 _).mapped (EvidenceClass.ofByte_toByte _)) <|
  .field (decodes_u64 _) <|
  .pure _

/-- Two devices with the same transmitted fields, up to the cut of the strings. -/
structure SameDevice (original decoded : DeviceRecord) : Prop where
  id : decoded.id = original.id
  logicalName : decoded.logicalName = sent original.logicalName
  architecture : decoded.architecture = sent original.architecture
  deviceGeneration : decoded.deviceGeneration = sent original.deviceGeneration
  kind : decoded.kind = original.kind
  health : decoded.health = original.health
  evidenceClass : decoded.evidence.evidenceClass = original.evidence.evidenceClass
  provenance : decoded.evidence.provenance = original.evidence.provenance
  generation : decoded.generation = original.generation
  nominalBandwidthBps :
    decoded.capability.nominalBandwidthBps = original.capability.nominalBandwidthBps
  peerAccessSupported :
    decoded.capability.peerAccessSupported = original.capability.peerAccessSupported
  pciIdentity : decoded.pciIdentity = sent original.pciIdentity

/-- Two links with the same transmitted fields, up to the cut of the string. -/
structure SameLink (original decoded : LinkRecord) : Prop where
  id : decoded.id = original.id
  source : decoded.source = original.source
  target : decoded.target = original.target
  directed : decoded.directed = original.directed
  state : decoded.state = original.state
  technology : decoded.technology = original.technology
  nominalBandwidthBps :
    decoded.capability.nominalBandwidthBps = original.capability.nominalBandwidthBps
  generation : decoded.generation = original.generation
  physicalIdentifier : decoded.physicalIdentifier = sent original.physicalIdentifier

/-- Two measurements with the same transmitted fields. -/
structure SameMeas (original decoded : MeasurementRecord) : Prop where
  id : decoded.id = original.id
  source : decoded.source = original.source
  target : decoded.target = original.target
  bandwidthBps : decoded.bandwidthBps = original.bandwidthBps
  valid : decoded.valid = original.valid
  evidenceClass : decoded.evidence.evidenceClass = original.evidence.evidenceClass
  payloadBytes : decoded.payloadBytes = original.payloadBytes

theorem sameDevice_received (device : DeviceRecord) :
    SameDevice device (receivedDevice device) := by
  constructor <;> rfl

theorem sameLink_received (now : Timestamp) (link : LinkRecord) :
    SameLink link (receivedLink now link) := by
  constructor <;> rfl

/-- An integral bandwidth that fits the word survives the conversion. -/
theorem toNat_bandwidthWord {bandwidth : Nat} (fits : bandwidth < 2 ^ 64) :
    (bandwidthWord bandwidth).toNat = bandwidth := by
  rw [bandwidthWord, Int.floor_natCast, Int.toNat_natCast, UInt64.toNat_ofNat']
  exact Nat.mod_eq_of_lt fits

theorem sameMeas_received (now : Timestamp) {measurement : MeasurementRecord}
    {bandwidth : Nat} (integral : measurement.bandwidthBps = bandwidth)
    (fits : bandwidth < 2 ^ 64) :
    SameMeas measurement (receivedMeas now measurement) where
  id := rfl
  source := rfl
  target := rfl
  bandwidthBps := by
    rw [receivedMeas, integral, toNat_bandwidthWord fits]
  valid := rfl
  evidenceClass := rfl
  payloadBytes := rfl

/-- Whatever a worker encodes, the coordinator's decoder takes to its last byte
without marking it bad, and every transmitted field arrives. -/
theorem payloads_taken (now : Timestamp) (device : DeviceRecord) (link : LinkRecord)
    (measurement : MeasurementRecord) (bandwidth : Nat)
    (integral : measurement.bandwidthBps = bandwidth) (bounded : bandwidth ≤ 2 ^ 53) :
    TakesAll decDevice (encDevice device) (SameDevice device) ∧
      TakesAll (decLink now) (encLink link) (SameLink link) ∧
      TakesAll (decMeas now) (encMeas measurement) (SameMeas measurement) := by
  have fits : bandwidth < 2 ^ 64 := by omega
  refine ⟨?_, ?_, ?_⟩
  · exact (decodes_decDevice device).takesAll (sameDevice_received device)
  · exact (decodes_decLink now link).takesAll (sameLink_received now link)
  · exact (decodes_decMeas now measurement).takesAll (sameMeas_received now integral fits)

/-- Names one byte beyond the limit, and the largest bandwidth. -/
theorem payloads_taken_long :
    ∃ (device : DeviceRecord) (link : LinkRecord) (measurement : MeasurementRecord),
      device.logicalName.length = 65536 ∧ link.physicalIdentifier.length = 65536 ∧
        measurement.bandwidthBps = (2 ^ 53 : Nat) ∧
        TakesAll decDevice (encDevice device) (SameDevice device) ∧
        TakesAll (decLink {}) (encLink link) (SameLink link) ∧
        TakesAll (decMeas {}) (encMeas measurement) (SameMeas measurement) :=
  ⟨{ logicalName := List.replicate 65536 0 },
    { physicalIdentifier := List.replicate 65536 0 }, { bandwidthBps := (2 ^ 53 : Nat) },
    List.length_replicate, List.length_replicate, rfl,
    payloads_taken {} _ _ _ (2 ^ 53) rfl le_rfl⟩

end NvlinkFabric.Wire

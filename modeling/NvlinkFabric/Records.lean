import NvlinkFabric.Enums
import Mathlib.Data.Rat.Init

/-!
# Records of the fabric

The passive data of the library: evidence stamps, capabilities, device, link
and measurement records, observations, resource limits and the durable state.
Default field values are those of the source.  A `double` is represented by an
exact rational; rounding, infinities and NaN are outside the model.
-/

namespace NvlinkFabric

/-- `Evidence`: a provenance stamp. -/
structure Evidence where
  evidenceClass : EvidenceClass := .unsupported
  provenance : Provenance := .none
  source : Text := []
  note : Text := []
  deriving DecidableEq

/-- `Capability`: static interconnect knowledge.  `equivalent` in the source
compares every field, which is equality here. -/
structure Capability where
  interconnect : InterconnectTechnology := .unknown
  linkCount : UInt32 := 0
  nominalLaneWidth : UInt32 := 0
  nominalBandwidthBps : UInt64 := 0
  peerAccessSupported : Bool := false
  measurementSupport : MeasurementSupport := .unknown
  supportedCounters : UInt32 := 0
  telemetrySupported : Bool := false
  deriving DecidableEq

/-- `DeviceRecord`. -/
structure DeviceRecord where
  id : DeviceId := .nil
  logicalName : Text := []
  kind : NodeKind := .unknown
  backend : Text := []
  backendInstance : Text := []
  pciIdentity : Text := []
  cudaOrdinal : Option UInt32 := none
  vendor : Text := []
  architecture : Text := []
  deviceGeneration : Text := []
  capability : Capability := {}
  health : DeviceHealthState := .unknown
  evidence : Evidence := {}
  generation : DeviceGeneration := {}
  ownerWorker : Option WorkerId := none
  ownerBoot : Option WorkerBootId := none
  deriving DecidableEq

/-- `LinkRecord`: an edge from `source` to `target`, usable in both directions
unless `directed`. -/
structure LinkRecord where
  id : LinkId := .nil
  source : DeviceId := .nil
  target : DeviceId := .nil
  directed : Bool := false
  physicalIdentifier : Text := []
  state : LinkOperationalState := .unknown
  technology : InterconnectTechnology := .unknown
  capability : Capability := {}
  generation : LinkGeneration := {}
  evidence : Evidence := {}
  lastObservation : Timestamp := {}
  measurementSupported : Bool := false
  degraded : Bool := false
  degradationNote : Text := []
  topologyGeneration : TopologyGeneration := {}
  deriving DecidableEq

/-- `MeasurementRecord`. -/
structure MeasurementRecord where
  id : MeasurementId := .nil
  source : DeviceId := .nil
  target : DeviceId := .nil
  payloadBytes : UInt64 := 0
  iterations : UInt32 := 0
  warmupIterations : UInt32 := 0
  completedTransfers : UInt64 := 0
  bytesVerified : UInt64 := 0
  bandwidthBps : ℚ := 0
  latencySeconds : ℚ := 0
  warmupSeparated : Bool := true
  integrityVerified : Bool := false
  contended : Bool := false
  method : Text := []
  pathNote : Text := []
  evidence : Evidence := {}
  measuredAt : Timestamp := {}
  valid : Bool := false
  stale : Bool := false
  revalidationRequired : Bool := false
  ownerWorker : Option WorkerId := none
  ownerBoot : Option WorkerBootId := none
  deriving DecidableEq

/-- `Observation`: a provenance-stamped log entry. -/
structure Observation where
  id : ObservationId := .nil
  kind : Text := []
  source : DeviceId := .nil
  target : DeviceId := .nil
  evidence : Evidence := {}
  observedAt : Timestamp := {}
  summary : Text := []
  stale : Bool := false
  deriving DecidableEq

/-- `Limits`: the resource bounds read by the modelled code. -/
structure Limits where
  maxDevices : Nat := 256
  maxLinks : Nat := 1024
  maxParallelLinksPerPair : Nat := 16
  maxPathDepth : Nat := 16
  maxCandidatePaths : Nat := 256
  maxMeasurementHistory : Nat := 1024
  maxObservations : Nat := 4096
  maxPersistedStateBytes : Nat := 64 * 1024 * 1024
  deriving DecidableEq

/-- The only format version a registry restores. -/
def durableFormatVersion : Text := "nvlinkfabric-durable/1.0"

/-- `DurableState`: topology and capability knowledge that survives a restart. -/
structure DurableState where
  formatVersion : Text := durableFormatVersion
  topologyGeneration : TopologyGeneration := {}
  devices : List DeviceRecord := []
  links : List LinkRecord := []
  savedAt : Timestamp := {}
  deriving DecidableEq

/-- Strings left behind in an argument that was moved from: the evidence source
and note, and the name the observation summary quotes.  Their contents are
unspecified. -/
structure MovedFrom where
  source : Text := []
  note : Text := []
  label : Text := []
  deriving DecidableEq

/-- What one call draws from its process: the clock, the next value of each
identity sequence it uses, and the contents of moved-from strings. -/
structure Ambient where
  now : Timestamp := {}
  observationId : ObservationId := ⟨1⟩
  measurementId : MeasurementId := ⟨1⟩
  routeDecisionId : RouteDecisionId := ⟨1⟩
  routeGeneration : RouteGeneration := ⟨1⟩
  movedFrom : MovedFrom := {}
  deriving DecidableEq

end NvlinkFabric

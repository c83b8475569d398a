import NvlinkFabric.Registry.Operations

/-!
# Evidence published by the worker tool

`nvlink_worker` publishes two devices, one link between them and one
measurement.  Generations and the identities of link and measurement are seeded
from the boot identity; the device identities are the same for every boot.
-/

namespace NvlinkFabric.Worker

/-- The seed of one incarnation. -/
def base (boot : WorkerBootId) : UInt64 := boot.value * 1000000

/-- Synthetic evidence of the worker. -/
def evidence (note : Text) : Evidence where
  evidenceClass := .synthetic
  provenance := .syntheticFixture
  source := "worker"
  note := note

def sourceId : DeviceId := ⟨100⟩
def targetId : DeviceId := ⟨101⟩

/-- Fields shared by the two devices. -/
def device (id : DeviceId) (name : Text) (generation : UInt64) : DeviceRecord where
  id := id
  logicalName := name
  kind := .accelerator
  architecture := "SYNTHETIC"
  deviceGeneration := "SYNTHETIC"
  health := .present
  evidence := evidence "worker-synthetic device"
  generation := ⟨generation⟩
  capability := { nominalBandwidthBps := 400000000000, peerAccessSupported := true }

def sourceDevice (boot : WorkerBootId) : DeviceRecord :=
  device sourceId "gpu0" (base boot + 1)

def targetDevice (boot : WorkerBootId) : DeviceRecord :=
  device targetId "gpu1" (base boot + 2)

def link (boot : WorkerBootId) (now : Timestamp) : LinkRecord where
  id := ⟨base boot + 1⟩
  source := sourceId
  target := targetId
  state := .up
  technology := .nvlink
  capability := { nominalBandwidthBps := 400000000000 }
  generation := ⟨base boot + 1⟩
  evidence := evidence "worker-synthetic link"
  measurementSupported := true
  lastObservation := now

def measurement (boot : WorkerBootId) : MeasurementRecord where
  id := ⟨base boot + 1⟩
  source := sourceId
  target := targetId
  payloadBytes := 4 * 1024 * 1024
  iterations := 8
  warmupIterations := 2
  completedTransfers := 8
  bandwidthBps := 380000000000
  latencySeconds := 8 / 1000000
  integrityVerified := true
  valid := true
  evidence := evidence "worker-synthetic measurement"

/-- The topology of one incarnation, published directly to a registry. -/
def publication (boot : WorkerBootId) : List Registry.Call :=
  [⟨.upsertDevice (sourceDevice boot), {}⟩, ⟨.upsertDevice (targetDevice boot), {}⟩,
    ⟨.upsertLink (link boot {}), {}⟩]

/-- A registry that holds the topology of the first incarnation. -/
def published : Registry.State := Registry.run {} .initial (publication ⟨1⟩)

end NvlinkFabric.Worker

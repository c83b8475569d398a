import NvlinkFabric.Records

/-!
# Backends

A backend discovers devices and links and takes measurements.  The synthetic one
reports a declared fixture, the one for NVIDIA hardware what the CUDA runtime and NVML
tell it, and a third one nothing.
-/

namespace NvlinkFabric

/-- What a process hands out: the counters of `fresh_id` and `fresh_generation`, one for
each tag, and the readings of its clock. -/
structure ProcessState where
  device : UInt64 := 0
  deviceGeneration : UInt64 := 0
  link : UInt64 := 0
  linkGeneration : UInt64 := 0
  measurement : UInt64 := 0
  clock : Nat → Timestamp := fun _ => {}
  readings : Nat := 0

structure BackendCapabilities where
  backendName : Text
  deviceDiscovery : Bool := false
  linkDiscovery : Bool := false
  measurement : Bool := false
  nvlinkDiscovery : Bool := false
  measurementSupport : MeasurementSupport := .unknown
  evidence : Evidence := {}
  note : Text := []

structure MeasurementRequest where
  source : DeviceId := .nil
  target : DeviceId := .nil
  payloadBytes : UInt64 := 4194304
  iterations : UInt32 := 8
  warmupIterations : UInt32 := 2
  verifyIntegrity : Bool := true

/-- The interface of all backends. -/
structure Backend where
  name : Text
  describeCapabilities : Result BackendCapabilities
  discoverDevices : ProcessState → Result (List DeviceRecord × ProcessState)
  discoverLinks : List DeviceRecord → ProcessState →
    Result (List LinkRecord × ProcessState)
  measure : MeasurementRequest → ProcessState → Result (MeasurementRecord × ProcessState)
  supportsMeasurement : Bool

/-- A loop that discovers one record after the other. -/
def discoverEach {σ ρ : Type} (discover : σ → ProcessState → ρ × ProcessState) :
    List σ → ProcessState → List ρ × ProcessState
  | [], process => ([], process)
  | spec :: specs, process =>
      let (record, next) := discover spec process
      let (records, last) := discoverEach discover specs next
      (record :: records, last)

def nopBackend : Backend where
  name := "nop"
  describeCapabilities := .ok
    { backendName := "nop"
      measurementSupport := .unsupported
      evidence := ⟨.unsupported, .none, "nop", "no-op backend exposes no connectivity"⟩
      note := "portability no-op backend" }
  discoverDevices process := .ok ([], process)
  discoverLinks _ process := .ok ([], process)
  measure _ _ := err .unsupported "no-op backend has no measurement"
  supportsMeasurement := false

structure SyntheticDeviceSpec where
  id : DeviceId := .nil
  name : Text := []
  kind : NodeKind := .accelerator
  generation : Text := "SYNTHETIC"
  nominalBandwidthBps : UInt64 := 0
  linkCount : UInt32 := 0
  peerAccessSupported : Bool := false

structure SyntheticLinkSpec where
  source : DeviceId
  target : DeviceId
  directed : Bool := false
  state : LinkOperationalState := .up
  nominalBandwidthBps : UInt64 := 0
  laneWidth : UInt32 := 0
  physicalIdentifier : Text := []
  degraded : Bool := false
  degradationNote : Text := []

structure SyntheticTopologySpec where
  devices : List SyntheticDeviceSpec := []
  links : List SyntheticLinkSpec := []
  synthBandwidthBps : ℚ := 0
  synthLatencySeconds : ℚ := 0

namespace Synthetic

/-- The stamp of everything a fixture reports. -/
def evidence (note : Text) : Evidence :=
  ⟨.synthetic, .syntheticFixture, "synthetic", note⟩

/-- The record of a declared device; one without an identity gets a fresh one. -/
def discoverDevice (spec : SyntheticDeviceSpec) (process : ProcessState) :
    DeviceRecord × ProcessState :=
  let id := if spec.id.isNil then ⟨process.device + 1⟩ else spec.id
  ({ id
     logicalName := spec.name
     kind := spec.kind
     backend := "synthetic"
     backendInstance := spec.name
     vendor := "synthetic"
     architecture := "synthetic"
     deviceGeneration := spec.generation
     capability :=
       { interconnect := .nvlink
         nominalBandwidthBps := spec.nominalBandwidthBps
         linkCount := spec.linkCount
         peerAccessSupported := spec.peerAccessSupported
         measurementSupport := .syntheticOnly }
     health := .present
     evidence := evidence "synthetic fixture device"
     generation := ⟨process.deviceGeneration + 1⟩ },
    { process with
      device := if spec.id.isNil then process.device + 1 else process.device
      deviceGeneration := process.deviceGeneration + 1 })

def discoverLink (spec : SyntheticLinkSpec) (process : ProcessState) :
    LinkRecord × ProcessState :=
  ({ id := ⟨process.link + 1⟩
     source := spec.source
     target := spec.target
     directed := spec.directed
     physicalIdentifier := spec.physicalIdentifier
     state := spec.state
     technology := .nvlink
     capability :=
       { nominalBandwidthBps := spec.nominalBandwidthBps
         nominalLaneWidth := spec.laneWidth
         measurementSupport := .syntheticOnly }
     generation := ⟨process.linkGeneration + 1⟩
     evidence := evidence "synthetic fixture link"
     lastObservation := process.clock process.readings
     measurementSupported := true
     degraded := spec.degraded
     degradationNote := spec.degradationNote },
    { process with
      link := process.link + 1
      linkGeneration := process.linkGeneration + 1
      readings := process.readings + 1 })

/-- A declared link that joins the ends of the request, and has a bandwidth. -/
def serves (request : MeasurementRequest) (spec : SyntheticLinkSpec) : Bool :=
  0 < spec.nominalBandwidthBps &&
    (spec.source = request.source && spec.target = request.target ||
      !spec.directed && spec.source = request.target && spec.target = request.source)

/-- `default_bandwidth`: that of the first such link. -/
def defaultBandwidth (links : List SyntheticLinkSpec)
    (request : MeasurementRequest) : ℚ :=
  match links.find? (serves request) with
  | some spec => spec.nominalBandwidthBps.toNat
  | none => 100000000000

def measure (spec : SyntheticTopologySpec) (request : MeasurementRequest)
    (process : ProcessState) :
    MeasurementRecord × ProcessState :=
  ({ id := ⟨process.measurement + 1⟩
     source := request.source
     target := request.target
     payloadBytes := request.payloadBytes
     iterations := request.iterations
     warmupIterations := request.warmupIterations
     completedTransfers := request.iterations.toUInt64
     bytesVerified := request.payloadBytes * request.iterations.toUInt64
     bandwidthBps :=
       if 0 < spec.synthBandwidthBps then spec.synthBandwidthBps
       else defaultBandwidth spec.links request
     latencySeconds := spec.synthLatencySeconds
     warmupSeparated := 0 < request.warmupIterations
     integrityVerified := request.verifyIntegrity
     method := "synthetic"
     evidence := evidence "synthetic measurement; not evidence of real NVLink"
     measuredAt := process.clock process.readings
     valid := true },
    { process with
      measurement := process.measurement + 1
      readings := process.readings + 1 })

end Synthetic

def syntheticBackend (spec : SyntheticTopologySpec) : Backend where
  name := "synthetic"
  describeCapabilities := .ok
    { backendName := "synthetic"
      deviceDiscovery := true
      linkDiscovery := true
      measurement := true
      measurementSupport := .syntheticOnly
      evidence := Synthetic.evidence "synthetic fixture backend"
      note := "synthetic fixture backend; never represents real hardware" }
  discoverDevices process :=
    .ok (discoverEach Synthetic.discoverDevice spec.devices process)
  discoverLinks _ process := .ok (discoverEach Synthetic.discoverLink spec.links process)
  measure request process := .ok (Synthetic.measure spec request process)
  supportsMeasurement := true

/-! ## NVIDIA hardware -/

/-- `cudaDeviceProp`, as far as it is read. -/
structure CudaDeviceProp where
  name : Text
  major : Int32
  minor : Int32
  pciBusId : Int32
  pciDeviceId : Int32

/-- What the CUDA runtime answers: the number of devices or the name of an error, and the
properties of a device unless the call fails. -/
structure Cuda where
  deviceCount : Except Text Int32
  properties : Nat → Option CudaDeviceProp

/-- `nvmlPciInfo_t`, as far as it is read. -/
structure NvmlPciInfo where
  domain : UInt32
  bus : UInt32
  device : UInt32

/-- What NVML answers.  A function that the library does not have fails. -/
structure Nvml where
  loaded : Bool
  initializes : Bool
  deviceCount : Option UInt32
  handle : Nat → Bool
  pciInfo : Nat → Option NvmlPciInfo
  linkCount : Nat → Option UInt32

namespace Nvidia

def archName (major : UInt32) : Text :=
  if major ≥ 12 then "Blackwell"
  else if major ≥ 9 then "Hopper"
  else if major ≥ 8 then "Ampere"
  else if major ≥ 7 then "Volta"
  else if major ≥ 6 then "Pascal"
  else if major ≥ 5 then "Maxwell"
  else "Other"

/-- `snprintf` with `%0<width>x`. -/
def hex (width : Nat) (value : UInt32) : Text :=
  let digits := Nat.toDigits 16 value.toNat
  Text.ofLiteral (String.ofList (List.replicate (width - digits.length) '0' ++ digits))

/-- `std::to_string` on an `int`. -/
def decimal (value : Int32) : Text := Text.ofLiteral (Int.repr value.toInt)

/-- `ensure_nvml`. -/
def ensureNvml (nvml : Nvml) : Bool := nvml.loaded && nvml.initializes

def cudaPciIdentity (nvml : Nvml) (prop : CudaDeviceProp) (ordinal : Nat) : Text :=
  let fallback :=
    hex 2 prop.pciBusId.toUInt32 ++ (":" : Text) ++ hex 2 prop.pciDeviceId.toUInt32
  if ensureNvml nvml && nvml.handle ordinal then
    match nvml.pciInfo ordinal with
    | some pci => hex 4 pci.domain ++ (":" : Text) ++ hex 2 pci.bus ++ (":" : Text) ++
        hex 2 pci.device
    | none => fallback
  else fallback

def deviceRecord (nvml : Nvml) (prop : CudaDeviceProp) (ordinal : Nat)
    (process : ProcessState) :
    DeviceRecord × ProcessState :=
  ({ id := ⟨process.device + 1⟩
     logicalName := prop.name
     kind := .accelerator
     backend := "nvidia"
     backendInstance := "cuda:" ++ Text.ofNat ordinal
     pciIdentity := cudaPciIdentity nvml prop ordinal
     cudaOrdinal := some (UInt32.ofNat ordinal)
     vendor := "NVIDIA"
     architecture := archName prop.major.toUInt32
     deviceGeneration := decimal prop.major ++ ("." : Text) ++ decimal prop.minor
     health := .present
     evidence :=
       ⟨.real, .cudaRuntime ||| .cudaDriver, "nvidia", "CUDA device discovery"⟩
     generation := ⟨process.deviceGeneration + 1⟩ },
    { process with
      device := process.device + 1
      deviceGeneration := process.deviceGeneration + 1 })

/-- The loop over the ordinals; it gives up at the first device without properties. -/
def discoverFrom (cuda : Cuda) (nvml : Nvml) :
    List Nat → ProcessState → Result (List DeviceRecord × ProcessState)
  | [], process => .ok ([], process)
  | ordinal :: ordinals, process =>
      match cuda.properties ordinal with
      | none => err .backendError "cudaGetDeviceProperties failed"
      | some prop => do
          let (record, next) := deviceRecord nvml prop ordinal process
          let (records, last) ← discoverFrom cuda nvml ordinals next
          return (record :: records, last)

def discoverDevices (cuda : Cuda) (nvml : Nvml) (process : ProcessState) :
    Result (List DeviceRecord × ProcessState) :=
  match cuda.deviceCount with
  | .error name => err .backendUnavailable ("CUDA runtime unavailable: " ++ name)
  | .ok count => discoverFrom cuda nvml (List.range count.toInt.toNat) process

/-- The links that NVML counts on all devices. -/
def totalLinks (nvml : Nvml) (devices : Nat) : UInt32 :=
  (List.range devices).foldl
    (fun total index =>
      if nvml.handle index then total + (nvml.linkCount index).getD 0 else total) 0

/-- The links are counted, but none is reported, however many there are. -/
def discoverLinks (nvml : Nvml) (process : ProcessState) :
    Result (List LinkRecord × ProcessState) :=
  if ensureNvml nvml then
    match nvml.deviceCount with
    | none => .ok ([], process)
    | some devices =>
        let _total := totalLinks nvml devices.toNat
        .ok ([], process)
  else .ok ([], process)

end Nvidia

def nvidiaBackend (cuda : Cuda) (nvml : Nvml) : Backend where
  name := "nvidia"
  describeCapabilities := .ok
    { backendName := "nvidia"
      deviceDiscovery := true
      linkDiscovery := true
      nvlinkDiscovery := true
      measurementSupport := .unsupported
      evidence := ⟨.real, .nvml ||| .cudaRuntime, "nvidia", "NVIDIA/CUDA/NVML backend"⟩
      note :=
        "NVLink connectivity depends on installed hardware; consumer GPUs report none" }
  discoverDevices := Nvidia.discoverDevices cuda nvml
  discoverLinks _ := Nvidia.discoverLinks nvml
  measure _ _ := err .unsupported <|
    "no supported peer-access NVLink path on installed hardware; " ++
      ("measurement requires at least two real NVLink-connected devices" : Text)
  supportsMeasurement := false

/-- `make_nvidia_backend`, given whether the CUDA runtime counts its devices then. -/
def makeNvidiaBackend (available : Bool) (cuda : Cuda) (nvml : Nvml) : Result Backend :=
  if available then .ok (nvidiaBackend cuda nvml)
  else err .backendUnavailable "CUDA runtime unavailable"

end NvlinkFabric

import NvlinkFabric.Records
import NvlinkFabric.Lib.FiniteMap
import NvlinkFabric.Lib.BoundedQueue
import NvlinkFabric.Lib.Transition
import Mathlib.Data.List.Sort

/-!
# The topology registry

`TopologyRegistry` keeps an immutable state behind a lock; every mutation copies
the state, edits the copy and publishes it only when it succeeds.  A mutation is
therefore a function to `Result State`: an error leaves the published state as
it was.  The registry's `Limits` are fixed at construction and passed along.
-/

namespace NvlinkFabric.Registry

/-- `TopologyRegistry::State`.  The front of each log is its oldest entry. -/
structure State where
  topologyGen : TopologyGeneration
  devices : FiniteMap DeviceId DeviceRecord
  links : FiniteMap LinkId LinkRecord
  measurementHistory : List MeasurementRecord
  observations : List Observation
  deriving DecidableEq

/-- The state a registry is constructed with. -/
def State.initial : State where
  topologyGen := ⟨1⟩
  devices := .empty
  links := .empty
  measurementHistory := []
  observations := []

/-- `device_equal` compares all sixteen fields. -/
def deviceEqual (left right : DeviceRecord) : Bool := left = right

/-- `link_equal` compares all fifteen fields. -/
def linkEqual (left right : LinkRecord) : Bool := left = right

def makeObservation (ambient : Ambient) (kind : Text) (source target : DeviceId)
    (evidence : Evidence) (summary : Text) : Observation where
  id := ambient.observationId
  kind := kind
  source := source
  target := target
  evidence := evidence
  observedAt := ambient.now
  summary := summary

/-- Evidence of a record after its strings have been moved out. -/
def movedEvidence (ambient : Ambient) (evidence : Evidence) : Evidence :=
  { evidence with
    source := ambient.movedFrom.source
    note := ambient.movedFrom.note }

/-- Append to the observation log and drop its oldest entry beyond the bound. -/
def observe (limits : Limits) (observation : Observation) (next : State) : State :=
  { next with
    observations :=
      BoundedQueue.push limits.maxObservations next.observations observation }

/-- The stamp written on every link when the topology generation advances. -/
def stamp (generation : TopologyGeneration) (link : LinkRecord) : LinkRecord :=
  { link with topologyGeneration := generation }

/-- Advance the topology generation and restamp every link. -/
def advance (next : State) : State :=
  { next with
    topologyGen := next.topologyGen.next
    links := next.links.mapValues (stamp next.topologyGen.next) }

/-- Common tail of the topology mutations. -/
def commit (limits : Limits) (observation : Observation) (next : State) : State :=
  advance (observe limits observation next)

def upsertDevice (limits : Limits) (ambient : Ambient) (device : DeviceRecord)
    (state : State) : Result State :=
  if device.id.isNil || !device.generation.valid then
    err .invalidArgument "device requires a valid id and generation"
  else
    match state.devices.find? device.id with
    | none =>
        if state.devices.size ≥ limits.maxDevices then
          err .resourceLimit "max devices reached"
        else
          .ok <| commit limits
            (makeObservation ambient "device" device.id device.id device.evidence
              ("device " ++ device.logicalName))
            { state with devices := state.devices.emplace device.id device }
    | some current =>
        if device.generation < current.generation then
          err .staleGeneration "device update is stale"
        else if device.generation = current.generation then
          if deviceEqual device current then .ok state
          else err .staleGeneration "conflicting updates with identical device generation"
        else
          -- The record was moved into the map before the observation reads it.
          .ok <| commit limits
            (makeObservation ambient "device" device.id device.id
              (movedEvidence ambient device.evidence)
              ("device " ++ ambient.movedFrom.label))
            { state with devices := state.devices.assign device.id device }

def removeDevice (limits : Limits) (ambient : Ambient) (device : DeviceId)
    (state : State) : Result State :=
  match state.devices.find? device with
  | none => err .notFound "device not present"
  | some _ =>
      .ok <| commit limits
        (makeObservation ambient "device" device device
          { evidenceClass := .unsupported, provenance := .derived,
            source := "registry", note := "device removed" }
          "device removed")
        { state with
          links := state.links.filter fun entry =>
            !(entry.2.source = device || entry.2.target = device)
          devices := state.devices.erase device }

/-- Links between the same two devices, in either direction. -/
def sameUnordered (link other : LinkRecord) : Bool :=
  (other.source = link.source && other.target = link.target) ||
    (other.source = link.target && other.target = link.source)

/-- Links already present between the endpoints of `link`. -/
def parallelCount (link : LinkRecord) (links : FiniteMap LinkId LinkRecord) : Nat :=
  links.values.countP (sameUnordered link)

def upsertLink (limits : Limits) (ambient : Ambient) (link : LinkRecord)
    (state : State) : Result State :=
  if link.id.isNil || !link.generation.valid then
    err .invalidArgument "link requires a valid id and generation"
  else if link.source = link.target then
    err .invalidTopology "self-link is not permitted"
  else if state.devices.find? link.source = none then
    err .invalidTopology "link source device is unknown"
  else if state.devices.find? link.target = none then
    err .invalidTopology "link target device is unknown"
  else if state.links.size ≥ limits.maxLinks then
    err .resourceLimit "max links reached"
  else if parallelCount link state.links ≥ limits.maxParallelLinksPerPair then
    err .resourceLimit "too many parallel links for pair"
  else
    match state.links.find? link.id with
    | none =>
        .ok <| commit limits
          (makeObservation ambient "link" link.source link.target link.evidence
            ("link " ++ link.physicalIdentifier))
          { state with links := state.links.emplace link.id link }
    | some current =>
        if link.generation < current.generation then
          err .staleGeneration "link update is stale"
        else if link.generation = current.generation then
          if linkEqual link current then .ok state
          else err .staleGeneration "conflicting updates with identical link generation"
        else
          .ok <| commit limits
            (makeObservation ambient "link" link.source link.target
              (movedEvidence ambient link.evidence)
              ("link " ++ ambient.movedFrom.label))
            { state with links := state.links.assign link.id link }

def removeLink (limits : Limits) (ambient : Ambient) (link : LinkId)
    (state : State) : Result State :=
  match state.links.find? link with
  | none => err .notFound "link not present"
  | some current =>
      .ok <| commit limits
        (makeObservation ambient "link" current.source current.target
          { evidenceClass := .unsupported, provenance := .derived,
            source := "registry", note := "link removed" }
          "link removed")
        { state with links := state.links.erase link }

def updateLinkState (limits : Limits) (ambient : Ambient) (link : LinkId)
    (linkState : LinkOperationalState) (evidence : Evidence) (degraded : Bool)
    (note : Text) (state : State) : Result State :=
  match state.links.find? link with
  | none => err .notFound "link not present"
  | some current =>
      .ok <| commit limits
        (makeObservation ambient "link_state" current.source current.target evidence
          ("link state=" ++ linkStateName linkState))
        { state with
          links := state.links.assign link
            { current with
              state := linkState
              evidence := evidence
              degraded := degraded
              degradationNote := note
              generation := current.generation.next
              lastObservation := ambient.now } }

def updateDeviceHealth (limits : Limits) (ambient : Ambient) (device : DeviceId)
    (health : DeviceHealthState) (evidence : Evidence) (state : State) : Result State :=
  match state.devices.find? device with
  | none => err .notFound "device not present"
  | some current =>
      .ok <| commit limits
        (makeObservation ambient "device_health" device device evidence
          ("health=" ++ deviceHealthName health))
        { state with
          devices := state.devices.assign device
            { current with
              health := health
              evidence := evidence
              generation := current.generation.next } }

def advanceTopology (limits : Limits) (ambient : Ambient) (evidence : Evidence)
    (state : State) : Result State :=
  .ok <| commit limits
    (makeObservation ambient "topology" .nil .nil evidence "topology advanced") state

def publishObservation (limits : Limits) (ambient : Ambient) (observation : Observation)
    (state : State) : Result State :=
  .ok <| observe limits
    { observation with
      id := if observation.id.isNil then ambient.observationId else observation.id
      stale := false }
    state

def publishMeasurement (limits : Limits) (ambient : Ambient)
    (measurement : MeasurementRecord) (state : State) : Result State :=
  .ok { state with
    measurementHistory :=
      BoundedQueue.push limits.maxMeasurementHistory state.measurementHistory
        { measurement with
          id := if measurement.id.isNil then ambient.measurementId else measurement.id
          stale := false
          revalidationRequired := false } }

/-- A link whose state was not confirmed since authority lapsed. -/
def requireLinkRevalidation (note : Text) (link : LinkRecord) : LinkRecord :=
  { link with
    state := .revalidationRequired
    degraded := false
    degradationNote := note }

/-- A device published by a worker, once its authority lapsed. -/
def requireWorkerRevalidation (device : DeviceRecord) : DeviceRecord :=
  if device.ownerWorker.isSome then { device with health := .revalidationRequired }
  else device

/-- A measurement taken before authority lapsed. -/
def lapseMeasurement (measurement : MeasurementRecord) : MeasurementRecord :=
  { measurement with stale := true, revalidationRequired := true }

/-- An observation made before authority lapsed. -/
def lapseObservation (observation : Observation) : Observation :=
  { observation with stale := true }

def markDynamicEvidenceRevalidationRequired (limits : Limits) (ambient : Ambient)
    (state : State) : State :=
  commit limits
    (makeObservation ambient "recovery" .nil .nil
      { evidenceClass := .unsupported, provenance := .persisted, source := "registry",
        note := "dynamic evidence requires revalidation after restart" }
      "dynamic evidence marked for revalidation")
    { state with
      measurementHistory := state.measurementHistory.map lapseMeasurement
      observations := state.observations.map lapseObservation
      links := state.links.mapValues
        (requireLinkRevalidation "revalidation required after authority restart")
      devices := state.devices.mapValues requireWorkerRevalidation }

/-! ## Durable state -/

def captureDurableState (ambient : Ambient) (state : State) : DurableState where
  topologyGeneration := state.topologyGen
  savedAt := ambient.now
  devices := state.devices.values.insertionSort fun left right => left.id ≤ right.id
  links := state.links.values.insertionSort fun left right => left.id ≤ right.id

/-- One iteration of the device loop of `restore_durable_state`. -/
def restoreDevice (limits : Limits) (devices : FiniteMap DeviceId DeviceRecord)
    (device : DeviceRecord) : Result (FiniteMap DeviceId DeviceRecord) :=
  if devices.size ≥ limits.maxDevices then
    err .resourceLimit "too many devices in durable state"
  else if device.id.isNil || !device.generation.valid then
    err .integrityFailure "invalid device in durable state"
  else
    .ok (devices.emplace device.id device)

/-- One iteration of the link loop of `restore_durable_state`. -/
def restoreLink (limits : Limits) (devices : FiniteMap DeviceId DeviceRecord)
    (links : FiniteMap LinkId LinkRecord) (link : LinkRecord) :
    Result (FiniteMap LinkId LinkRecord) :=
  if links.size ≥ limits.maxLinks then
    err .resourceLimit "too many links in durable state"
  else if link.id.isNil || !link.generation.valid || link.source = link.target then
    err .integrityFailure "invalid link in durable state"
  else if devices.find? link.source = none || devices.find? link.target = none then
    err .integrityFailure "link references unknown device"
  else
    .ok (links.emplace link.id
      (requireLinkRevalidation "revalidation required after durable-state restore" link))

/-- Worker-owned devices require revalidation after a restore. -/
def requireOwnedRevalidation (device : DeviceRecord) : DeviceRecord :=
  if device.ownerWorker.isSome || device.ownerBoot.isSome then
    { device with health := .revalidationRequired }
  else device

def restoreDurableState (limits : Limits) (ambient : Ambient) (durable : DurableState)
    (state : State) : Result State :=
  if durable.formatVersion ≠ durableFormatVersion then
    err .integrityFailure "unsupported durable state version"
  else do
    let devices ← durable.devices.foldlM (restoreDevice limits) .empty
    let links ← durable.links.foldlM (restoreLink limits devices) .empty
    -- The new log holds one entry whatever the bound: nothing is popped here.
    .ok <| advance
      { topologyGen :=
          if durable.topologyGeneration > state.topologyGen
            then durable.topologyGeneration
          else state.topologyGen
        devices := devices.mapValues requireOwnedRevalidation
        links := links
        measurementHistory := []
        observations :=
          [makeObservation ambient "restore" .nil .nil
            { evidenceClass := .unsupported, provenance := .persisted,
              source := "persistence",
              note := "durable state restored; dynamic evidence requires revalidation" }
            "durable state restored"] }

/-- The mutating interface of the registry. -/
inductive Operation where
  | upsertDevice (device : DeviceRecord)
  | removeDevice (device : DeviceId)
  | upsertLink (link : LinkRecord)
  | removeLink (link : LinkId)
  | updateLinkState (link : LinkId) (state : LinkOperationalState) (evidence : Evidence)
      (degraded : Bool) (note : Text)
  | updateDeviceHealth (device : DeviceId) (health : DeviceHealthState)
      (evidence : Evidence)
  | advanceTopology (evidence : Evidence)
  | publishObservation (observation : Observation)
  | publishMeasurement (measurement : MeasurementRecord)
  | markDynamicEvidenceRevalidationRequired
  | restoreDurableState (durable : DurableState)

/-- One call of an operation, with what it draws from the process. -/
structure Call where
  operation : Operation
  ambient : Ambient := {}

/-- Result of a call. -/
def apply (limits : Limits) (call : Call) (state : State) : Result State :=
  match call.operation with
  | .upsertDevice device => upsertDevice limits call.ambient device state
  | .removeDevice device => removeDevice limits call.ambient device state
  | .upsertLink link => upsertLink limits call.ambient link state
  | .removeLink link => removeLink limits call.ambient link state
  | .updateLinkState link linkState evidence degraded note =>
      updateLinkState limits call.ambient link linkState evidence degraded note state
  | .updateDeviceHealth device health evidence =>
      updateDeviceHealth limits call.ambient device health evidence state
  | .advanceTopology evidence => advanceTopology limits call.ambient evidence state
  | .publishObservation observation =>
      publishObservation limits call.ambient observation state
  | .publishMeasurement measurement =>
      publishMeasurement limits call.ambient measurement state
  | .markDynamicEvidenceRevalidationRequired =>
      .ok (markDynamicEvidenceRevalidationRequired limits call.ambient state)
  | .restoreDurableState durable => restoreDurableState limits call.ambient durable state

/-- The call returned without an error. -/
def accepted (limits : Limits) (call : Call) (state : State) : Bool :=
  (apply limits call state).isOk

/-- The published state after a call. -/
def step (limits : Limits) (state : State) (call : Call) : State :=
  match apply limits call state with
  | .ok next => next
  | .error _ => state

/-- The published state after a sequence of calls. -/
abbrev run (limits : Limits) (state : State) (calls : List Call) : State :=
  Transition.run (step limits) state calls

/-- States of a registry constructed with `limits`. -/
abbrev Reachable (limits : Limits) (state : State) : Prop :=
  Transition.Reachable (step limits) State.initial state

theorem step_of_apply_ok {limits : Limits} {state next : State} {call : Call}
    (ok : apply limits call state = .ok next) : step limits state call = next := by
  simp [step, ok]

theorem step_of_apply_error {limits : Limits} {state : State} {call : Call}
    {error : Error} (failed : apply limits call state = .error error) :
    step limits state call = state := by
  simp [step, failed]

theorem accepted_of_ok {limits : Limits} {state next : State} {call : Call}
    (ok : apply limits call state = .ok next) : accepted limits call state = true := by
  simp [accepted, ok, Except.isOk, Except.toBool]

theorem accepted_of_error {limits : Limits} {state : State} {call : Call} {error : Error}
    (failed : apply limits call state = .error error) :
    accepted limits call state = false := by
  simp [accepted, failed, Except.isOk, Except.toBool]

theorem accepted_iff {limits : Limits} {state : State} {call : Call} :
    accepted limits call state = true ↔ ∃ next, apply limits call state = .ok next := by
  cases result : apply limits call state with
  | ok next => simp [accepted_of_ok result]
  | error error => simp [accepted_of_error result]

end NvlinkFabric.Registry

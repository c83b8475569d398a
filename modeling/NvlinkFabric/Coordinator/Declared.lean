import NvlinkFabric.Coordinator.Server
import NvlinkFabric.Durable.Layout
import NvlinkFabric.Durable.RoundTrip
import NvlinkFabric.Registry.Effects

/-!
# Codes of admitted records

Records enter a coordinator from a durable file or from a publication.  Both
decoders cast code bytes unchecked, so an admitted record holds declared
enumerators exactly if every code byte it was read from is one of theirs.  The
reads of a publication may fail, and a failed read counts as a declared zero.
-/

namespace NvlinkFabric

open Wire ByteReader

namespace Wire

def strLayout : List (Slot Mark) := [.text none]

def deviceLayout : List (Slot Mark) :=
  [ [.number 8], strLayout, strLayout, strLayout, [.marked .nodeKind],
    [.marked .deviceHealth], [.marked .evidenceClass], [.number 4], [.number 8],
    [.number 8], [.marked .truth], strLayout ].flatten

def linkLayout : List (Slot Mark) :=
  [ [.number 8], [.number 8], [.number 8], [.marked .truth], [.marked .linkState],
    [.marked .technology], [.number 8], [.number 8], strLayout ].flatten

def measLayout : List (Slot Mark) :=
  [ [.number 8], [.number 8], [.number 8], [.number 8], [.marked .truth],
    [.marked .evidenceClass], [.number 8] ].flatten

/-- The tokens of a published payload. -/
def publishedTokens (frame : Frame) : List (Token Mark) :=
  let layout :=
    match frame.type with
    | .publishDevice => deviceLayout
    | .publishLink => linkLayout
    | .publishMeasurement => measLayout
    | _ => []
  ((walk layout).run { bytes := frame.payload }).1

theorem follows_str : Follows str (walk strLayout)
    (Matches (fun content => LittleEndian.encode 2 content.length ++ content) fun _ =>
      true) :=
  follows_string none

theorem follows_decDevice :
    Follows decDevice (walk deviceLayout) fun device tokens =>
      ∃ bytes, Spelling tokens bytes device.declared :=
  .field (follows_wrapped Id.value (fun _ => rfl) follows_word) fun _ _ id =>
  .field follows_str fun _ _ name =>
  .field follows_str fun _ _ architecture =>
  .field follows_str fun _ _ model =>
  .field (follows_code NodeKind.coded) fun _ _ kind =>
  .field (follows_code DeviceHealthState.coded) fun _ _ health =>
  .field (follows_code EvidenceClass.coded) fun _ _ evidenceClass =>
  .field (follows_wrapped Provenance.bits (fun _ => rfl) follows_half)
    fun _ _ provenance =>
  .field (follows_wrapped Generation.value (fun _ => rfl) follows_word)
    fun _ _ generation =>
  .field follows_word fun _ _ bandwidth =>
  .field follows_truth fun _ _ peerAccess =>
  .field follows_str fun _ _ pci =>
  .done ⟨_, (id.append <| name.append <| architecture.append <| model.append <|
    kind.append <| health.append <| evidenceClass.append <| provenance.append <|
    generation.append <| bandwidth.append <| peerAccess.append <|
      pci.append .nil).congr rfl
      (by simp [DeviceRecord.declared, Capability.declared,
        InterconnectTechnology.declared, MeasurementSupport.declared, Bool.and_assoc])⟩

theorem follows_decLink (now : Timestamp) :
    Follows (decLink now) (walk linkLayout) fun link tokens =>
      ∃ bytes, Spelling tokens bytes link.declared :=
  .field (follows_wrapped Id.value (fun _ => rfl) follows_word) fun _ _ id =>
  .field (follows_wrapped Id.value (fun _ => rfl) follows_word) fun _ _ source =>
  .field (follows_wrapped Id.value (fun _ => rfl) follows_word) fun _ _ target =>
  .field follows_truth fun _ _ directed =>
  .field (follows_code LinkOperationalState.coded) fun _ _ state =>
  .field (follows_code InterconnectTechnology.coded) fun _ _ technology =>
  .field follows_word fun _ _ bandwidth =>
  .field (follows_wrapped Generation.value (fun _ => rfl) follows_word)
    fun _ _ generation =>
  .field follows_str fun _ _ physical =>
  .done ⟨_, (id.append <| source.append <| target.append <| directed.append <|
    state.append <| technology.append <| bandwidth.append <| generation.append <|
    physical.append .nil).congr rfl
      (by simp [LinkRecord.declared, Capability.declared, InterconnectTechnology.declared,
        MeasurementSupport.declared, EvidenceClass.declared])⟩

theorem follows_decMeas (now : Timestamp) :
    Follows (decMeas now) (walk measLayout) fun measurement tokens =>
      ∃ bytes, Spelling tokens bytes measurement.declared :=
  .field (follows_wrapped Id.value (fun _ => rfl) follows_word) fun _ _ id =>
  .field (follows_wrapped Id.value (fun _ => rfl) follows_word) fun _ _ source =>
  .field (follows_wrapped Id.value (fun _ => rfl) follows_word) fun _ _ target =>
  .field follows_word fun _ _ bandwidth =>
  .field follows_truth fun _ _ valid =>
  .field (follows_code EvidenceClass.coded) fun _ _ evidenceClass =>
  .field follows_word fun _ _ payload =>
  .done ⟨_, (id.append <| source.append <| target.append <| bandwidth.append <|
    valid.append <| evidenceClass.append <| payload.append .nil).congr rfl
      (by simp [MeasurementRecord.declared])⟩

end Wire

namespace Coordinator

open Registry

/-- A record of the registry. -/
inductive Record where
  | device (record : DeviceRecord)
  | link (record : LinkRecord)
  | measurement (record : MeasurementRecord)
  deriving DecidableEq

def Record.declared : Record → Bool
  | .device record => record.declared
  | .link record => record.declared
  | .measurement record => record.declared

/-- The record that an accepted publication has left in the registry.  A history without
room keeps no measurement. -/
def storedRecord (call : Call) (next : State) : Option Record :=
  match call.operation with
  | .upsertDevice device => (next.devices.find? device.id).map .device
  | .upsertLink link => (next.links.find? link.id).map .link
  | .publishMeasurement _ => next.measurementHistory.getLast?.map .measurement
  | _ => none

/-- Where records come from. -/
inductive Source where
  | file (order : Durable.EvaluationOrder) (serialized : Durable.Serialized)
  | publication (limits : Limits) (registry : State) (hello : Hello) (frame : Frame)
      (ambient : Ambient)

/-- The records that come from a source; `none` if a file is refused or a publication
leaves no record. -/
def Source.records : Source → Option (List Record)
  | .file order serialized =>
      (Durable.deserializeDurableState order serialized).toOption.map fun state =>
        state.devices.map .device ++ state.links.map .link
  | .publication limits registry hello frame ambient => do
      let call ← Coordinator.publication hello frame ambient
      let next ← (apply limits call registry).toOption
      let record ← storedRecord call next
      return [record]

/-- The tokens a source is read from. -/
def Source.tokens : Source → List (Token Mark)
  | .file order serialized => Durable.fileTokens order serialized
  | .publication _ _ _ frame _ => publishedTokens frame

theorem declared_owned_device (device : DeviceRecord) (worker : Option WorkerId)
    (boot : Option WorkerBootId) :
    { device with ownerWorker := worker, ownerBoot := boot }.declared =
    device.declared := rfl

theorem declared_owned_measurement (measurement : MeasurementRecord)
    (worker : Option WorkerId) (boot : Option WorkerBootId) :
    { measurement with ownerWorker := worker, ownerBoot := boot }.declared =
      measurement.declared := rfl

section Stored

variable {limits : Limits} {ambient : Ambient} {state next : State}

theorem stored_device {device : DeviceRecord} {record : Record}
    (ok : apply limits ⟨.upsertDevice device, ambient⟩ state = .ok next)
    (stored : storedRecord ⟨.upsertDevice device, ambient⟩ next = some record) :
    record.declared = device.declared := by
  have found : next.devices.find? device.id = some device := by
    obtain ⟨-, -, ⟨found, rfl⟩ | ⟨missing, -, observation, rfl⟩ |
      ⟨current, found, -, observation, rfl⟩⟩ := upsertDevice_ok ok
    · exact found
    · simp [FiniteMap.find?_emplace, missing]
    · simp [← FiniteMap.set_of_find?_eq_some found]
  simp only [storedRecord, found, Option.map_some, Option.some.injEq] at stored
  rw [← stored, Record.declared]

/-- A stored link differs from the published one in its stamp. -/
theorem stored_link {link : LinkRecord} {record : Record}
    (ok : apply limits ⟨.upsertLink link, ambient⟩ state = .ok next)
    (stored : storedRecord ⟨.upsertLink link, ambient⟩ next = some record) :
    record.declared = link.declared := by
  obtain ⟨generation, found⟩ : ∃ generation,
      next.links.find? link.id = some (stamp generation link) := by
    obtain ⟨-, ⟨found, rfl⟩ | ⟨missing, observation, rfl⟩ |
      ⟨current, found, -, observation, rfl⟩⟩ := upsertLink_ok ok
    · exact ⟨link.topologyGeneration, found⟩
    · exact ⟨state.topologyGen.next, by simp [FiniteMap.find?_emplace, missing]⟩
    · exact ⟨state.topologyGen.next, by simp [← FiniteMap.set_of_find?_eq_some found]⟩
  simp only [storedRecord, found, Option.map_some, Option.some.injEq] at stored
  rw [← stored, Record.declared]
  rfl

theorem stored_measurement {measurement : MeasurementRecord} {record : Record}
    (ok : apply limits ⟨.publishMeasurement measurement, ambient⟩ state = .ok next)
    (stored : storedRecord ⟨.publishMeasurement measurement, ambient⟩ next =
      some record) :
    record.declared = measurement.declared := by
  obtain rfl := Except.ok.inj ok
  obtain ⟨last, found, rfl⟩ := Option.map_eq_some_iff.mp stored
  rw [BoundedQueue.eq_of_getLast?_push found]
  rfl

/-- What a publication leaves in the registry is declared exactly if its codes are. -/
theorem stored_declared_iff {hello : Hello} {frame : Frame} {call : Call}
    {record : Record} (published : publication hello frame ambient = some call)
    (ok : apply limits call state = .ok next)
    (stored : storedRecord call next = some record) :
    record.declared = true ↔ ∀ token ∈ publishedTokens frame,
      token.Meets Mark.Declares := by
  cases type : frame.type <;> simp only [publication, type,
    Option.some.injEq] at published
  case publishDevice =>
    obtain ⟨-, bytes, spelling⟩ := follows_decDevice { bytes := frame.payload }
    subst published
    rw [stored_device ok stored, declared_owned_device, spelling.declared_iff]
    simp only [publishedTokens, type]
  case publishLink =>
    obtain ⟨-, bytes, spelling⟩ := follows_decLink ambient.now { bytes := frame.payload }
    subst published
    rw [stored_link ok stored, spelling.declared_iff]
    simp only [publishedTokens, type]
  case publishMeasurement =>
    obtain ⟨-, bytes, spelling⟩ := follows_decMeas ambient.now { bytes := frame.payload }
    subst published
    rw [stored_measurement ok stored, declared_owned_measurement, spelling.declared_iff]
    simp only [publishedTokens, type]
  all_goals simp at published

end Stored

/-- The records of a source hold declared enumerators exactly if every code byte it is
read from is the code of one. -/
theorem records_declared_iff (source : Source) {records : List Record}
    (admitted : source.records = some records) :
    (∀ record ∈ records, record.declared = true) ↔
      ∀ token ∈ source.tokens, token.Meets Mark.Declares := by
  cases source with
  | file order serialized =>
      cases result : Durable.deserializeDurableState order serialized with
      | error error => simp [Source.records, result, Except.toOption] at admitted
      | ok state =>
          obtain ⟨-, -, last, payload⟩ := Durable.deserialize_ok result
          obtain ⟨-, bytes, spelling, -⟩ := Durable.tracks_readPayload order _ _ _ payload
          simp only [Source.records, result, Except.toOption, Option.map_some,
            Option.some.injEq] at admitted
          rw [Source.tokens, Durable.fileTokens, ← spelling.declared_iff, ← admitted,
            List.forall_mem_append, List.forall_mem_map, List.forall_mem_map]
          simp [DurableState.declared, Record.declared]
  | publication limits registry hello frame ambient =>
      simp only [Source.records, bind, Option.bind_eq_some_iff] at admitted
      obtain ⟨call, published, next, applied, record, stored, listed⟩ := admitted
      obtain rfl := Option.some.inj listed
      rw [List.forall_mem_singleton]
      cases result : apply limits call registry with
      | error error => simp [result, Except.toOption] at applied
      | ok reached =>
          obtain rfl : reached = next := by simpa [result, Except.toOption] using applied
          exact stored_declared_iff published result stored

/-- A registry that holds the two devices of a link. -/
def twoDevices : State :=
  Registry.run {} .initial
    [⟨.upsertDevice { id := ⟨1⟩, generation := ⟨1⟩ }, {}⟩,
      ⟨.upsertDevice { id := ⟨2⟩, generation := ⟨1⟩ }, {}⟩]

/-- A link between the two devices in a given state. -/
def linkIn (linkState : LinkOperationalState) : LinkRecord where
  id := ⟨3⟩
  source := ⟨1⟩
  target := ⟨2⟩
  state := linkState
  generation := ⟨1⟩
  capability := { nominalBandwidthBps := 1 }

/-- The publication of that link. -/
def publishedIn (linkState : LinkOperationalState) : Source :=
  .publication {} twoDevices { worker := ⟨1⟩, boot := ⟨1⟩, epoch := ⟨1⟩ }
    { type := .publishLink, payload := encLink (linkIn linkState) } {}

theorem up_published :
    (publishedIn .up).records =
        some [.link (stamp ⟨4⟩ (receivedLink {} (linkIn .up)))] ∧
      ∀ token ∈ (publishedIn .up).tokens, token.Meets Mark.Declares := by
  have admitted : (publishedIn .up).records =
      some [.link (stamp ⟨4⟩ (receivedLink {} (linkIn .up)))] := by decide +kernel
  exact ⟨admitted, (records_declared_iff _ admitted).mp (by decide +kernel)⟩

/-- A link is stored in a state that is no enumerator. -/
theorem undeclared_state_stored :
    ¬∀ (source : Source) (records : List Record), source.records = some records →
      ∀ record ∈ records, record.declared = true := by
  intro always
  have admitted : (publishedIn (.undeclared 200 (by decide))).records =
      some [.link
        (stamp ⟨4⟩ (receivedLink {} (linkIn (.undeclared 200 (by decide)))))] := by
    decide +kernel
  exact absurd (always _ _ admitted) (by decide +kernel)

end Coordinator

end NvlinkFabric

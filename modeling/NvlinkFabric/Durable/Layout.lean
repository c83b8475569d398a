import NvlinkFabric.Durable.Codec
import NvlinkFabric.Declared

/-!
# The layout of the durable format

The readers of the durable format move along these layouts and return what the
tokens spell.  Only a timestamp whose arguments are evaluated from right to left
is not what its tokens spell: writer and reader then disagree on the field order.
-/

namespace NvlinkFabric.Durable

open Wire ByteReader

def strLayout : List (Slot Mark) := [.text (some kMaxString)]

def capabilityLayout : List (Slot Mark) :=
  [ [.marked .technology], [.number 4], [.number 4], [.number 8], [.marked .truth],
    [.marked .measurementSupport], [.number 4], [.marked .truth] ].flatten

def evidenceLayout : List (Slot Mark) :=
  [[.marked .evidenceClass], [.number 4], strLayout, strLayout].flatten

def timestampLayout : ArgumentOrder → List (Slot Mark)
  | .leftToRight => [[.number 8], [.marked .truth]].flatten
  | .rightToLeft => [[.marked .truth], [.number 8]].flatten

def deviceLayout : List (Slot Mark) :=
  [ [.number 8], strLayout, [.marked .nodeKind], strLayout, strLayout, strLayout,
    [.optional .truth 4], strLayout, strLayout, strLayout, capabilityLayout,
    [.marked .deviceHealth], evidenceLayout, [.number 8], [.optional .truth 8],
    [.optional .truth 8] ].flatten

def linkLayout (order : ArgumentOrder) : List (Slot Mark) :=
  [ [.number 8], [.number 8], [.number 8], [.marked .truth], strLayout,
    [.marked .linkState], [.marked .technology], capabilityLayout, [.number 8],
    evidenceLayout, timestampLayout order, [.marked .truth], [.marked .truth], strLayout,
    [.number 8] ].flatten

/-- The tokens of a payload. -/
def payloadTokens (order : EvaluationOrder) : ByteReader (List (Token Mark)) := do
  let generation ← walk [.number 8]
  let savedAt ← walk (timestampLayout order.savedAt)
  let deviceCount ← u32
  let devices ← walk (List.replicate deviceCount.toNat deviceLayout).flatten
  let linkCount ← u32
  let links ← walk (List.replicate linkCount.toNat
      (linkLayout order.lastObservation)).flatten
  return generation ++ (savedAt ++ (.plain (putU32 deviceCount) :: (devices ++
    (.plain (putU32 linkCount) :: links))))

/-- The tokens of a file, behind its header. -/
def fileTokens (order : EvaluationOrder) (serialized : Serialized) : List (Token Mark) :=
  ((payloadTokens order).run ⟨serialized.bytes, 12, false⟩).1

theorem follows_readStr :
    Follows readStr (walk strLayout) (Matches writeStr fun _ => true) := by
  intro cursor
  obtain ⟨moved, read⟩ := follows_string (some kMaxString) cursor
  refine ⟨moved, Spelling.congr read ?_ rfl⟩
  have wraps (size : Nat) : LittleEndian.encode 2 (size % 2 ^ 16) =
      LittleEndian.encode 2 size :=
    LittleEndian.encode_mod 2 size
  rw [writeStr, putU16, UInt16.toNat_ofNat', wraps]
  rfl

theorem follows_readCapability :
    Follows readCapability (walk capabilityLayout)
      (Matches writeCapability Capability.declared) :=
  .field (follows_code InterconnectTechnology.coded) fun _ _ interconnect =>
  .field follows_half fun _ _ linkCount =>
  .field follows_half fun _ _ laneWidth =>
  .field follows_word fun _ _ bandwidth =>
  .field follows_truth fun _ _ peerAccess =>
  .field (follows_code MeasurementSupport.coded) fun _ _ support =>
  .field follows_half fun _ _ counters =>
  .field follows_truth fun _ _ telemetry =>
  .done <| (interconnect.append <| linkCount.append <| laneWidth.append <|
    bandwidth.append <|
    peerAccess.append <| support.append <| counters.append <| telemetry.append .nil).congr
      rfl (by simp [Capability.declared])

theorem follows_readEvidence :
    Follows readEvidence (walk evidenceLayout)
      (Matches writeEvidence fun evidence => evidence.evidenceClass.declared) :=
  .field (follows_code EvidenceClass.coded) fun _ _ evidenceClass =>
  .field (follows_wrapped Provenance.bits (fun _ => rfl) follows_half)
    fun _ _ provenance =>
  .field follows_readStr fun _ _ source =>
  .field follows_readStr fun _ _ note =>
  .done <| (evidenceClass.append <| provenance.append <| source.append <|
    note.append .nil).congr rfl (by simp)

/-- Read from left to right a timestamp is what its tokens spell; it has no code in any
order. -/
theorem follows_readTimestamp (order : ArgumentOrder) :
    Follows (readTimestamp order) (walk (timestampLayout order)) fun timestamp tokens =>
      ∃ bytes, Spelling tokens bytes true ∧
        (order = .leftToRight → bytes = writeTimestamp timestamp) := by
  have word : Follows (UInt64.toInt64 <$> u64) (walk [.number 8])
      (Matches (fun value => putU64 (Int64.toUInt64 value)) fun _ => true) :=
    follows_wrapped _ UInt64.toUInt64_toInt64 follows_word
  cases order with
  | leftToRight =>
      exact .field word fun _ _ unixNs => .field follows_truth fun _ _ valid =>
        .done ⟨_, unixNs.append (valid.append .nil), fun _ => rfl⟩
  | rightToLeft =>
      exact .field follows_truth fun _ _ valid => .field word fun _ _ unixNs =>
        .done ⟨_, valid.append (unixNs.append .nil), by simp⟩

theorem follows_readDevice :
    Follows readDevice (walk deviceLayout) (Matches writeDevice DeviceRecord.declared) :=
  .field (follows_wrapped Id.value (fun _ => rfl) follows_word) fun _ _ id =>
  .field follows_readStr fun _ _ name =>
  .field (follows_code NodeKind.coded) fun _ _ kind =>
  .field follows_readStr fun _ _ backend =>
  .field follows_readStr fun _ _ slot =>
  .field follows_readStr fun _ _ pci =>
  .field (follows_presence follows_half) fun _ _ ordinal =>
  .field follows_readStr fun _ _ vendor =>
  .field follows_readStr fun _ _ architecture =>
  .field follows_readStr fun _ _ model =>
  .field follows_readCapability fun _ _ capability =>
  .field (follows_code DeviceHealthState.coded) fun _ _ health =>
  .field follows_readEvidence fun _ _ evidence =>
  .field (follows_wrapped Generation.value (fun _ => rfl) follows_word)
    fun _ _ generation =>
  .field (follows_presence (follows_wrapped Id.value (fun _ => rfl) follows_word))
    fun _ _ worker =>
  .field (follows_presence (follows_wrapped Id.value (fun _ => rfl) follows_word))
    fun _ _ boot =>
  .done <| (id.append <| name.append <| kind.append <| backend.append <| slot.append <|
    pci.append <| ordinal.append <| vendor.append <| architecture.append <|
      model.append <|
    capability.append <| health.append <| evidence.append <| generation.append <|
    worker.append <| boot.append .nil).congr rfl
      (by simp [DeviceRecord.declared, Bool.and_assoc])

theorem follows_readLink (order : ArgumentOrder) :
    Follows (readLink order) (walk (linkLayout order)) fun link tokens =>
      ∃ bytes, Spelling tokens bytes link.declared ∧
        (order = .leftToRight → bytes = writeLink link) :=
  .field (follows_wrapped Id.value (fun _ => rfl) follows_word) fun _ _ id =>
  .field (follows_wrapped Id.value (fun _ => rfl) follows_word) fun _ _ source =>
  .field (follows_wrapped Id.value (fun _ => rfl) follows_word) fun _ _ target =>
  .field follows_truth fun _ _ directed =>
  .field follows_readStr fun _ _ physical =>
  .field (follows_code LinkOperationalState.coded) fun _ _ state =>
  .field (follows_code InterconnectTechnology.coded) fun _ _ technology =>
  .field follows_readCapability fun _ _ capability =>
  .field (follows_wrapped Generation.value (fun _ => rfl) follows_word)
    fun _ _ generation =>
  .field follows_readEvidence fun _ _ evidence =>
  .field (follows_readTimestamp order) fun _ _ ⟨_, observed, inOrder⟩ =>
  .field follows_truth fun _ _ measurable =>
  .field follows_truth fun _ _ degraded =>
  .field follows_readStr fun _ _ note =>
  .field (follows_wrapped Generation.value (fun _ => rfl) follows_word) fun _ _ stamped =>
  .done ⟨_, (id.append <| source.append <| target.append <| directed.append <|
    physical.append <| state.append <| technology.append <| capability.append <|
    generation.append <| evidence.append <| observed.append <| measurable.append <|
    degraded.append <| note.append <| stamped.append .nil).congr rfl
      (by simp [LinkRecord.declared, Bool.and_assoc]),
    fun leftToRight => by rw [inOrder leftToRight]; rfl⟩

/-- A payload is read from its tokens. -/
theorem tracks_readPayload (order : EvaluationOrder) :
    Tracks (readPayload order) (payloadTokens order) fun state tokens =>
      ∃ bytes, Spelling tokens bytes state.declared ∧
        (order = {} → bytes = writeDurable state) := by
  have device : Follows readDevice (walk deviceLayout) fun device tokens =>
      ∃ bytes, Spelling tokens bytes device.declared ∧
        (True → bytes = writeDevice device) :=
    fun cursor => ⟨(follows_readDevice cursor).1, _,
      (follows_readDevice cursor).2, fun _ => rfl⟩
  have count : Follows u32 u32 Eq := fun _ => ⟨rfl, rfl⟩
  refine .bind
    (tracks_read (follows_wrapped Generation.value (fun _ => rfl) follows_word)) ?_
  intro generation generationTokens generationRead
  refine .bind (tracks_read (follows_readTimestamp order.savedAt)) ?_
  rintro savedAt savedAtTokens ⟨savedAtBytes, savedAtRead, savedAtSame⟩
  refine .bind (tracks_read count) ?_
  rintro deviceCount _ rfl
  refine .unless <| .bind (tracks_records _ device _) ?_
  rintro devices deviceTokens ⟨deviceTotal, groups, deviceEach, rfl⟩
  refine .bind (tracks_read count) ?_
  rintro linkCount _ rfl
  refine .unless <| .bind (tracks_records _ (follows_readLink _) _) ?_
  rintro links linkTokens ⟨linkTotal, linkGroups, linkEach, rfl⟩
  obtain ⟨deviceBytes, devicesRead, devicesSame⟩ := Spelling.flatten deviceEach
  obtain ⟨linkBytes, linksRead, linksSame⟩ := Spelling.flatten linkEach
  refine .pure ⟨_, (generationRead.append <| savedAtRead.append <|
    (Spelling.plain _).append <| devicesRead.append <| (Spelling.plain _).append
      linksRead).congr rfl (by simp [DurableState.declared]), ?_⟩
  rintro rfl
  have deviceWord : UInt32.ofNat devices.length = deviceCount := by
    rw [deviceTotal, UInt32.ofNat_toNat]
  have linkWord : UInt32.ofNat links.length = linkCount := by
    rw [linkTotal, UInt32.ofNat_toNat]
  rw [savedAtSame rfl, devicesSame trivial, linksSame rfl, ← deviceWord, ← linkWord]
  simp [writeDurable]

end NvlinkFabric.Durable

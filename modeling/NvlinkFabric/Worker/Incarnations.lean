import NvlinkFabric.Registry.Refusals
import NvlinkFabric.Route.Direct
import NvlinkFabric.Wire.Evidence
import NvlinkFabric.Worker.Evidence

/-!
# Incarnations of the worker in one registry

Each incarnation replaces the two devices by records of a newer generation and
adds a link of its own.  When its connection ends, all links are marked for
revalidation, but none is removed.  The links of earlier incarnations therefore
count against the bound on parallel links, and the incarnation that finds the
bound reached cannot publish its link.
-/

namespace NvlinkFabric.Worker

open Wire Registry

/-- One incarnation: its boot, what the coordinator draws while serving it, and
how its connection ends. -/
structure Incarnation where
  boot : WorkerBootId
  sentAt : Timestamp := {}
  sourceAt : Ambient := {}
  targetAt : Ambient := {}
  linkAt : Ambient := {}
  measurementAt : Ambient := {}
  heartbeats : Nat := 0
  failure : Error := ⟨.protocolError, []⟩
  lostAt : Ambient := {}

/-- The link of a boot. -/
def linkId (boot : WorkerBootId) : LinkId := ⟨base boot + 1⟩

namespace Incarnation

variable (worker : WorkerId) (incarnation : Incarnation)

/-- A device as the coordinator decodes and attributes it. -/
def receivedDevice (device : DeviceRecord) : DeviceRecord :=
  { Wire.receivedDevice device with ownerWorker := worker, ownerBoot := incarnation.boot }

/-- The link as the coordinator decodes it. -/
def receivedLink : LinkRecord :=
  Wire.receivedLink incarnation.linkAt.now (link incarnation.boot incarnation.sentAt)

/-- The registry calls made for what an incarnation publishes. -/
def publication : List Registry.Call :=
  [⟨.upsertDevice (incarnation.receivedDevice worker (sourceDevice incarnation.boot)),
      incarnation.sourceAt⟩,
    ⟨.upsertDevice (incarnation.receivedDevice worker (targetDevice incarnation.boot)),
      incarnation.targetAt⟩,
    ⟨.upsertLink incarnation.receivedLink, incarnation.linkAt⟩,
    ⟨.publishMeasurement
      { receivedMeas incarnation.measurementAt.now (measurement incarnation.boot) with
        ownerWorker := worker, ownerBoot := incarnation.boot },
          incarnation.measurementAt⟩]

/-- The registry calls of a whole incarnation. -/
def life : List Registry.Call :=
  incarnation.publication worker ++
    [⟨.markDynamicEvidenceRevalidationRequired, incarnation.lostAt⟩]

/-- A published link carries traffic. -/
theorem current_receivedLink : Current incarnation.receivedLink where
  up := rfl
  sound := rfl
  bandwidth := by
    show (0 : UInt64) < 400000000000
    decide

end Incarnation

/-- The seeds of the boot do not wrap. -/
def Seeded (boot : WorkerBootId) : Prop := boot.value.toNat * 1000000 + 2 < 2 ^ 64

instance (boot : WorkerBootId) : Decidable (Seeded boot) :=
  inferInstanceAs (Decidable (_ < _))

theorem toNat_seed {boot : WorkerBootId} (seeded : Seeded boot) {offset : UInt64}
    (small : offset.toNat ≤ 2) :
    (base boot + offset).toNat = boot.value.toNat * 1000000 + offset.toNat := by
  unfold Seeded at seeded
  rw [base, UInt64.toNat_add, UInt64.toNat_mul]
  have factor : (1000000 : UInt64).toNat = 1000000 := rfl
  rw [factor]
  omega

theorem seed_ne_zero {boot : WorkerBootId} (seeded : Seeded boot) {offset : UInt64}
    (small : offset.toNat ≤ 2) (positive : 0 < offset.toNat) :
    base boot + offset ≠ 0 := by
  intro zero
  have value := toNat_seed seeded small
  rw [zero] at value
  simp at value
  omega

/-- A later boot has larger seeds. -/
theorem seed_lt {earlier later : WorkerBootId} (seeded : Seeded later)
    (newer : earlier < later) (offset : UInt64) (small : offset.toNat ≤ 2) :
    (base earlier + offset).toNat < (base later + offset).toNat := by
  have below : earlier.value.toNat < later.value.toNat := UInt64.lt_iff_toNat_lt.mp newer
  have earlierSeeded : Seeded earlier := by
    refine Nat.lt_of_le_of_lt ?_ seeded
    exact Nat.add_le_add_right (Nat.mul_le_mul_right _ (Nat.le_of_lt below)) _
  rw [toNat_seed earlierSeeded small, toNat_seed seeded small]
  omega

/-- Different boots have different links. -/
theorem linkId_ne {earlier later : WorkerBootId} (seeded : Seeded later)
    (newer : earlier < later) : linkId later ≠ linkId earlier := by
  intro equal
  have seeds := seed_lt seeded newer 1 (by decide)
  have values : base later + 1 = base earlier + 1 := congrArg Id.value equal
  rw [values] at seeds
  omega

/-- A link table filled by the incarnations with the given boots. -/
structure LinksOf (boots : List WorkerBootId) (links : FiniteMap LinkId LinkRecord) :
    Prop where
  boot : ∀ {key link}, (key, link) ∈ links.entries → ∃ boot ∈ boots, key = linkId boot
  ends : ∀ {key link}, (key, link) ∈ links.entries →
    link.source = sourceId ∧ link.target = targetId
  count : links.size = min boots.length 16

namespace LinksOf

variable {boots : List WorkerBootId} {links : FiniteMap LinkId LinkRecord}

/-- Updates that keep the endpoints of every link. -/
theorem map (linksOf : LinksOf boots links) {image : LinkRecord → LinkRecord}
    (sameEnds : ∀ link, (image link).source = link.source ∧
      (image link).target = link.target) : LinksOf boots (links.mapValues image) where
  boot member := by
    obtain ⟨link, linkMem, rfl⟩ := FiniteMap.mem_mapValues.mp member
    exact linksOf.boot linkMem
  ends member := by
    obtain ⟨link, linkMem, rfl⟩ := FiniteMap.mem_mapValues.mp member
    obtain ⟨source, target⟩ := sameEnds link
    rw [source, target]
    exact linksOf.ends linkMem
  count := by rw [FiniteMap.size_mapValues, linksOf.count]

theorem stamped (linksOf : LinksOf boots links) (generation : TopologyGeneration) :
    LinksOf boots (links.mapValues (stamp generation)) :=
  linksOf.map fun _ => ⟨rfl, rfl⟩

/-- The link of a newer boot is not in the table. -/
theorem fresh (linksOf : LinksOf boots links) {boot : WorkerBootId} (seeded : Seeded boot)
    (newer : ∀ earlier ∈ boots, earlier < boot) : links.find? (linkId boot) = none := by
  rw [FiniteMap.find?_eq_none]
  intro link member
  obtain ⟨earlier, earlierMem, equal⟩ := linksOf.boot member
  exact linkId_ne seeded (newer earlier earlierMem) equal

/-- All links count as parallel to a link between the two devices. -/
theorem parallelCount_eq (linksOf : LinksOf boots links) {link : LinkRecord}
    (source : link.source = sourceId) (target : link.target = targetId) :
    parallelCount link links = links.size := by
  have all : ∀ other ∈ links.values, sameUnordered link other = true := by
    intro other member
    obtain ⟨key, stored⟩ := FiniteMap.mem_values.mp member
    obtain ⟨otherSource, otherTarget⟩ := linksOf.ends stored
    simp [sameUnordered, source, target, otherSource, otherTarget]
  rw [parallelCount, List.countP_eq_length.mpr all, FiniteMap.values, List.length_map,
    FiniteMap.size]

/-- A further link, as long as the bound leaves room. -/
theorem add (linksOf : LinksOf boots links) {boot : WorkerBootId} {link : LinkRecord}
    (absent : links.find? (linkId boot) = none)
    (ends : link.source = sourceId ∧ link.target = targetId) (room : boots.length < 16) :
    LinksOf (boots ++ [boot]) (links.emplace (linkId boot) link) where
  boot member := by
    rcases FiniteMap.mem_emplace member with old | new
    · obtain ⟨earlier, earlierMem, equal⟩ := linksOf.boot old
      exact ⟨earlier, List.mem_append_left _ earlierMem, equal⟩
    · exact ⟨boot, by simp, congrArg Prod.fst new⟩
  ends member := by
    rcases FiniteMap.mem_emplace member with old | new
    · exact linksOf.ends old
    · obtain rfl := congrArg Prod.snd new
      exact ends
  count := by
    have count := linksOf.count
    simp only [FiniteMap.size] at count
    simp only [FiniteMap.size, FiniteMap.emplace_of_find?_eq_none absent,
      List.length_append, List.length_singleton, count]
    omega

/-- A full table stays as it is. -/
theorem skip (linksOf : LinksOf boots links) (boot : WorkerBootId)
    (full : 16 ≤ boots.length) : LinksOf (boots ++ [boot]) links where
  boot member := by
    obtain ⟨earlier, earlierMem, equal⟩ := linksOf.boot member
    exact ⟨earlier, List.mem_append_left _ earlierMem, equal⟩
  ends member := linksOf.ends member
  count := by
    rw [linksOf.count, List.length_append, List.length_singleton]
    omega

end LinksOf

/-- Generations of the devices after the last boot that published them. -/
def deviceGenerations (last : Option WorkerBootId) (id : DeviceId) :
    Option DeviceGeneration :=
  last.bind fun boot =>
    if id = sourceId then some ⟨base boot + 1⟩
    else if id = targetId then some ⟨base boot + 2⟩
    else none

theorem deviceGenerations_source (last : Option WorkerBootId) :
    deviceGenerations last sourceId = last.map fun boot => ⟨base boot + 1⟩ := by
  cases last <;> rfl

theorem deviceGenerations_target (last : Option WorkerBootId) :
    deviceGenerations last targetId = last.map fun boot => ⟨base boot + 2⟩ := by
  cases last <;> rfl

/-- Replacing both devices leaves nothing of the last boot. -/
theorem deviceGenerations_replaced (last : Option WorkerBootId) (boot : WorkerBootId)
    (id : DeviceId) :
    (if id = targetId then some ⟨base boot + 2⟩
      else if id = sourceId then some ⟨base boot + 1⟩ else deviceGenerations last id) =
      deviceGenerations (some boot) id := by
  have distinct : targetId ≠ sourceId := by decide
  by_cases isTarget : id = targetId
  · simp [deviceGenerations, isTarget, distinct]
  · by_cases isSource : id = sourceId
    · simp [deviceGenerations, isSource, distinct.symm]
    · cases last <;> simp [deviceGenerations, isSource, isTarget]

/-- Generations seeded from the last boot are older than those of a newer one. -/
theorem generation_lt_of_newer {last : Option WorkerBootId} {boot : WorkerBootId}
    (seeded : Seeded boot) (newer : ∀ earlier ∈ last, earlier < boot) (offset : UInt64)
    (small : offset.toNat ≤ 2) {generation : DeviceGeneration}
    (onRecord : generation ∈ last.map fun earlier => (⟨base earlier + offset⟩ :
      DeviceGeneration)) : generation < ⟨base boot + offset⟩ := by
  obtain ⟨earlier, recorded, rfl⟩ := Option.mem_map.mp onRecord
  exact Generation.lt_iff.mpr (seed_lt seeded (newer earlier recorded) offset small)

/-- Only the two devices of the worker are stored. -/
def PairOnly (state : State) : Prop :=
  ∀ id, generationOf state id ≠ none → id ∈ [sourceId, targetId]

theorem pairOnly_of_deviceGenerations {state : State} {last : Option WorkerBootId}
    (devices : ∀ id, generationOf state id = deviceGenerations last id) :
    PairOnly state := by
  intro id stored
  rw [devices] at stored
  by_contra other
  simp only [List.mem_cons, List.not_mem_nil, or_false, not_or] at other
  simp [deviceGenerations, other.1, other.2] at stored

section Device

variable {state : State}

/-- What a stored device changes. -/
structure Stored (state : State) (device : DeviceRecord) (next : State) : Prop where
  generations : ∀ id, generationOf next id =
    if id = device.id then some device.generation else generationOf state id
  links : ∃ generation, next.links = state.links.mapValues (stamp generation)
  history : next.measurementHistory = state.measurementHistory

/-- A device of a newer generation is stored. -/
theorem step_device (device : DeviceRecord) (ambient : Ambient) (pair : PairOnly state)
    (nonNil : device.id.value ≠ 0) (valid : device.generation.value ≠ 0)
    (newer : ∀ generation ∈ generationOf state device.id,
      generation < device.generation) :
    Stored state device (step {} state ⟨.upsertDevice device, ambient⟩) := by
  have count : state.devices.size ≤ [sourceId, targetId].length := by
    refine FiniteMap.size_le_of_keys fun {key stored} member => pair key ?_
    simp [generationOf, FiniteMap.find?_eq_some.mpr member]
  have room : state.devices.size < ({} : Limits).maxDevices :=
    Nat.lt_of_le_of_lt count (by decide)
  obtain ⟨observation, upserted⟩ := upsertDevice_newer ambient nonNil valid room newer
  rw [step_of_apply_ok upserted]
  refine ⟨fun id => ?_, ⟨_, rfl⟩, rfl⟩
  by_cases same : id = device.id
  · subst same
    simp [generationOf]
  · simp [generationOf, same, FiniteMap.find?_set_of_ne _ _ same]

end Device

/-! ## One incarnation -/

/-- What the incarnations with the given boots have left behind. -/
structure Remains (boots : List WorkerBootId) (state : State) : Prop where
  links : LinksOf boots state.links
  lapsed : ∀ {key link}, (key, link) ∈ state.links.entries →
    link.state = .revalidationRequired
  uncontended : ∀ measurement ∈ state.measurementHistory, measurement.contended = false

/-- A registry with the remains of earlier incarnations, in which `last` is the boot
that published the devices. -/
structure Hosted (boots : List WorkerBootId) (last : Option WorkerBootId)
    (state : State) : Prop extends Remains boots state where
  devices : ∀ id, generationOf state id = deviceGenerations last id

/-- A registry to which a further incarnation has published. -/
structure Published (boots : List WorkerBootId) (boot : WorkerBootId) (state : State) :
    Prop where
  devices : ∀ id, generationOf state id = deviceGenerations (some boot) id
  links : LinksOf (boots ++ [boot]) state.links
  others : ∀ {key link}, (key, link) ∈ state.links.entries → key ≠ linkId boot →
    link.state = .revalidationRequired
  own : boots.length < 16 → ∃ link,
    state.links.find? (linkId boot) = some link ∧ Current link
  refused : 16 ≤ boots.length → state.links.find? (linkId boot) = none
  uncontended : ∀ measurement ∈ state.measurementHistory, measurement.contended = false

theorem hosted_initial : Hosted [] none State.initial where
  devices _ := rfl
  links := ⟨by simp [State.initial], by simp [State.initial], rfl⟩
  lapsed := by simp [State.initial]
  uncontended := by simp [State.initial]

section Incarnation

variable {boots : List WorkerBootId} {last : Option WorkerBootId} {state : State}
variable {worker : WorkerId} {incarnation : Incarnation}

/-- Storing a device leaves the remains as they are. -/
theorem Remains.store {device : DeviceRecord} {next : State}
    (remains : Remains boots state) (stored : Stored state device next) :
    Remains boots next := by
  obtain ⟨generation, links⟩ := stored.links
  refine ⟨?_, ?_, ?_⟩
  · rw [links]
    exact remains.links.stamped generation
  · intro key link member
    rw [links] at member
    obtain ⟨old, oldMem, rfl⟩ := FiniteMap.mem_mapValues.mp member
    show old.state = .revalidationRequired
    exact remains.lapsed oldMem
  · rw [stored.history]
    exact remains.uncontended

/-- Both devices of a newer boot replace those of the last one. -/
theorem Hosted.prepare (hosted : Hosted boots last state)
    (seeded : Seeded incarnation.boot)
    (newer : ∀ earlier ∈ last, earlier < incarnation.boot) (worker : WorkerId) :
    Hosted boots (some incarnation.boot)
      (step {}
        (step {} state
          ⟨.upsertDevice (incarnation.receivedDevice worker
            (sourceDevice incarnation.boot)),
            incarnation.sourceAt⟩)
        ⟨.upsertDevice (incarnation.receivedDevice worker
          (targetDevice incarnation.boot)),
          incarnation.targetAt⟩) := by
  have sourceNonNil : sourceId.value ≠ 0 := by decide
  have targetNonNil : targetId.value ≠ 0 := by decide
  have distinct : targetId ≠ sourceId := by decide
  let source := incarnation.receivedDevice worker (sourceDevice incarnation.boot)
  let target := incarnation.receivedDevice worker (targetDevice incarnation.boot)
  let between := step {} state ⟨.upsertDevice source, incarnation.sourceAt⟩
  have first : Stored state source between := by
    refine step_device source incarnation.sourceAt
      (pairOnly_of_deviceGenerations hosted.devices) sourceNonNil
      (seed_ne_zero seeded (by decide) (by decide)) fun generation onRecord => ?_
    have known : generation ∈ generationOf state sourceId := onRecord
    rw [hosted.devices, deviceGenerations_source] at known
    exact generation_lt_of_newer seeded newer 1 (by decide) known
  have generations (id : DeviceId) : generationOf between id =
      if id = sourceId then some ⟨base incarnation.boot + 1⟩
        else deviceGenerations last id := by
    rw [first.generations, hosted.devices]
    rfl
  have pair : PairOnly between := by
    intro id stored
    rw [generations] at stored
    split at stored
    next same => simp [same]
    · exact pairOnly_of_deviceGenerations hosted.devices id (by rwa [hosted.devices])
  have second : Stored between target
      (step {} between ⟨.upsertDevice target, incarnation.targetAt⟩) := by
    refine step_device target incarnation.targetAt pair targetNonNil
      (seed_ne_zero seeded (by decide) (by decide)) fun generation onRecord => ?_
    have known : generation ∈ generationOf between targetId := onRecord
    rw [generations, if_neg distinct, deviceGenerations_target] at known
    exact generation_lt_of_newer seeded newer 2 (by decide) known
  refine ⟨(hosted.toRemains.store first).store second, fun id => ?_⟩
  rw [second.generations, generations]
  exact deviceGenerations_replaced last incarnation.boot id

/-- Both devices of a published boot are stored. -/
theorem devices_present {boot : WorkerBootId}
    (devices : ∀ id, generationOf state id = deviceGenerations (some boot) id) :
    state.devices.find? sourceId ≠ none ∧ state.devices.find? targetId ≠ none := by
  constructor
  · apply find?_ne_none_of_generationOf
    simp [devices, deviceGenerations_source]
  · apply find?_ne_none_of_generationOf
    simp [devices, deviceGenerations_target]

/-- The link call of a newer boot while the bound leaves room. -/
theorem Hosted.upsertLink (hosted : Hosted boots (some incarnation.boot) state)
    (seeded : Seeded incarnation.boot)
    (absent : state.links.find? (linkId incarnation.boot) = none)
    (room : boots.length < 16) :
    ∃ observation,
      apply {} ⟨.upsertLink incarnation.receivedLink, incarnation.linkAt⟩ state =
      .ok (commit {} observation
        { state with
          links := state.links.emplace (linkId incarnation.boot)
            incarnation.receivedLink }) := by
  have seed : base incarnation.boot + 1 ≠ 0 := seed_ne_zero seeded (by decide) (by decide)
  have parallel : parallelCount incarnation.receivedLink state.links = state.links.size :=
    hosted.links.parallelCount_eq rfl rfl
  have count := hosted.links.count
  obtain ⟨source, target⟩ := devices_present hosted.devices
  apply upsertLink_fresh incarnation.linkAt incarnation.receivedLink seed seed
  · show sourceId ≠ targetId
    decide
  · exact source
  · exact target
  · show state.links.size < 1024
    omega
  · show parallelCount incarnation.receivedLink state.links < 16
    omega
  · exact absent

/-- The link of a newer boot joins those of earlier incarnations. -/
theorem Hosted.addLink (hosted : Hosted boots (some incarnation.boot) state)
    (absent : state.links.find? (linkId incarnation.boot) = none)
    (room : boots.length < 16) (observation : Observation) :
    Published boots incarnation.boot
      (commit {} observation
        { state with
          links := state.links.emplace (linkId incarnation.boot)
            incarnation.receivedLink }) where
  devices := hosted.devices
  links := (hosted.links.add absent ⟨rfl, rfl⟩ room).stamped _
  others := by
    intro key link member different
    obtain ⟨stored, storedMem, rfl⟩ := FiniteMap.mem_mapValues.mp member
    rcases FiniteMap.mem_emplace storedMem with old | new
    · show stored.state = .revalidationRequired
      exact hosted.lapsed old
    · exact absurd (congrArg Prod.fst new) different
  own := by
    intro _
    refine ⟨stamp state.topologyGen.next incarnation.receivedLink, ?_, ?_⟩
    · rw [FiniteMap.find?_eq_some, commit_links, FiniteMap.mem_mapValues]
      refine ⟨incarnation.receivedLink, ?_, rfl⟩
      rw [FiniteMap.emplace_of_find?_eq_none absent]
      exact List.mem_append_right _ List.mem_cons_self
    · obtain ⟨up, sound, bandwidth⟩ := incarnation.current_receivedLink
      exact ⟨up, sound, bandwidth⟩
  refused := by
    intro full
    omega
  uncontended := hosted.uncontended

/-- The link of a newer boot is stored as long as the bound leaves room. -/
theorem Hosted.publishLink (hosted : Hosted boots (some incarnation.boot) state)
    (seeded : Seeded incarnation.boot)
    (newer : ∀ earlier ∈ boots, earlier < incarnation.boot) :
    Published boots incarnation.boot
      (step {} state ⟨.upsertLink incarnation.receivedLink, incarnation.linkAt⟩) := by
  have absent : state.links.find? (linkId incarnation.boot) = none :=
    hosted.links.fresh seeded newer
  by_cases room : boots.length < 16
  · obtain ⟨observation, upserted⟩ := hosted.upsertLink seeded absent room
    rw [step_of_apply_ok upserted]
    exact hosted.addLink absent room observation
  · have parallel : parallelCount incarnation.receivedLink state.links =
      state.links.size :=
      hosted.links.parallelCount_eq rfl rfl
    have crowded : ({} : Limits).maxParallelLinksPerPair ≤
        parallelCount incarnation.receivedLink state.links := by
      rw [parallel, hosted.links.count]
      show 16 ≤ min boots.length 16
      omega
    rw [upsertLink_crowded crowded]
    exact
      { devices := hosted.devices
        links := hosted.links.skip incarnation.boot (by omega)
        others := fun member _ => hosted.lapsed member
        own := fun below => absurd below room
        refused := fun _ => absent
        uncontended := hosted.uncontended }

/-- A measurement changes neither table. -/
theorem Published.publishMeasurement {boot : WorkerBootId}
    {measurement : MeasurementRecord} (published : Published boots boot state)
    (uncontended : measurement.contended = false) (ambient : Ambient) :
    Published boots boot (step {} state ⟨.publishMeasurement measurement, ambient⟩) where
  devices := published.devices
  links := published.links
  others := published.others
  own := published.own
  refused := published.refused
  uncontended other member := by
    rcases BoundedQueue.mem_of_mem_push member with old | rfl
    · exact published.uncontended other old
    · exact uncontended

/-- What a newer incarnation publishes to a registry with the remains of earlier
ones. -/
theorem Hosted.publish (hosted : Hosted boots last state)
    (seeded : Seeded incarnation.boot)
    (newer : ∀ earlier ∈ boots, earlier < incarnation.boot)
    (lastNewer : ∀ earlier ∈ last, earlier < incarnation.boot) (worker : WorkerId) :
    Published boots incarnation.boot (run {} state (incarnation.publication worker)) := by
  simp only [Incarnation.publication, run, Transition.run_cons, Transition.run_nil]
  exact ((hosted.prepare seeded lastNewer worker).publishLink seeded
    newer).publishMeasurement
    rfl _

/-- The end of a connection leaves the links behind. -/
theorem Published.lose {boot : WorkerBootId} (published : Published boots boot state)
    (ambient : Ambient) :
    Hosted (boots ++ [boot]) (some boot)
      (step {} state ⟨.markDynamicEvidenceRevalidationRequired, ambient⟩) := by
  have marked : step {} state ⟨.markDynamicEvidenceRevalidationRequired, ambient⟩ =
      markDynamicEvidenceRevalidationRequired {} ambient state := rfl
  rw [marked, markDynamicEvidenceRevalidationRequired]
  refine ⟨⟨?_, ?_, ?_⟩, fun id => ?_⟩
  · have lapsed : LinksOf (boots ++ [boot])
      (state.links.mapValues (requireLinkRevalidation
        "revalidation required after authority restart")) :=
      published.links.map fun _ => ⟨rfl, rfl⟩
    exact lapsed.stamped _
  · intro key link member
    rw [commit_links, FiniteMap.mem_mapValues] at member
    obtain ⟨lapsed, lapsedMem, rfl⟩ := member
    obtain ⟨old, -, rfl⟩ := FiniteMap.mem_mapValues.mp lapsedMem
    rfl
  · intro measurement member
    rw [commit_measurementHistory, List.mem_map] at member
    obtain ⟨old, oldMem, rfl⟩ := member
    exact published.uncontended old oldMem
  · rw [← published.devices id]
    simp [generationOf, Function.comp_def]

/-- A whole incarnation adds its remains to the registry. -/
theorem Hosted.live (hosted : Hosted boots boots.getLast? state)
    (seeded : Seeded incarnation.boot)
    (newer : ∀ earlier ∈ boots, earlier < incarnation.boot) (worker : WorkerId) :
    Hosted (boots ++ [incarnation.boot]) (boots ++ [incarnation.boot]).getLast?
      (run {} state (incarnation.life worker)) := by
  have lastNewer : ∀ earlier ∈ boots.getLast?, earlier < incarnation.boot :=
    fun earlier onRecord => newer earlier (List.mem_of_getLast? onRecord)
  rw [List.getLast?_concat, Incarnation.life, run, Transition.run_append]
  exact (hosted.publish seeded newer lastNewer worker).lose incarnation.lostAt

/-- A published link is routed. -/
theorem Published.route {boot : WorkerBootId} (published : Published boots boot state)
    (reachable : Registry.Reachable {} state) (room : boots.length < 16)
    (ambient : Ambient) :
    ∃ decision, decideRoute {} ambient sourceId targetId .defaultPolicy state =
        .ok decision ∧
      decision.outcome = .routeAllowed ∧ decision.executable = true := by
  have tables := (consistent_of_reachable reachable).tables
  have listed {link : LinkRecord} (member : link ∈ (buildSnapshot state).links) :
      (link.id, link) ∈ state.links.entries := by
    obtain ⟨key, stored⟩ := FiniteMap.mem_values.mp ((List.mem_insertionSort _).mp member)
    rwa [(tables.link_key stored).1]
  obtain ⟨source, target⟩ := devices_present published.devices
  obtain ⟨link, found, current⟩ := published.own room
  have sameId : link.id = linkId boot :=
    (tables.link_key (FiniteMap.find?_eq_some.mp found)).1
  apply decideRoute_direct ambient tables _ (by decide) source target _ (sameId ▸ found)
    current _ published.uncontended
  · intro other member
    exact published.links.ends (listed member)
  · rw [published.links.count]
    show min (boots ++ [boot]).length 16 ≤ 256
    omega
  · intro other member different
    exact published.others (listed member) (sameId ▸ different)

/-- Incarnations with increasing boots add up. -/
theorem Hosted.lives {incarnations : List Incarnation}
    (hosted : Hosted boots boots.getLast? state)
    (seeded : ∀ incarnation ∈ incarnations, Seeded incarnation.boot)
    (increasing : (boots ++ incarnations.map (·.boot)).Pairwise (· < ·))
    (worker : WorkerId) :
    Hosted (boots ++ incarnations.map (·.boot))
      (boots ++ incarnations.map (·.boot)).getLast?
      (run {} state (incarnations.flatMap (·.life worker))) := by
  induction incarnations generalizing boots state with
  | nil => simpa using hosted
  | cons incarnation incarnations ih =>
      have newer : ∀ earlier ∈ boots, earlier < incarnation.boot := fun earlier member =>
        (List.pairwise_append.mp increasing).2.2 earlier member _ (by simp)
      have lived := hosted.live (seeded incarnation List.mem_cons_self) newer worker
      rw [List.map_cons, List.append_cons] at increasing ⊢
      rw [List.flatMap_cons, run, Transition.run_append]
      exact ih lived (fun other member => seeded other (List.mem_cons_of_mem _ member))
        increasing

end Incarnation

end NvlinkFabric.Worker

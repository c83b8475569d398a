import NvlinkFabric.Registry.Effects
import NvlinkFabric.Worker.Evidence

/-!
# The representation invariant

`Tables` is the part of the invariant that speaks about the two maps: keys agree
with record identities, links join distinct present devices, and both maps stay
within their bounds.  It does not mention the generation stamp, because every
mutation ends in `advance`, which rewrites the stamp of every link at once.
`Consistent` adds the stamp and the bounds of the two logs.  The observation log
is bounded only if the bound admits an entry: a restore starts a log of one.
-/

namespace NvlinkFabric.Registry

variable {limits : Limits} {ambient : Ambient} {state next : State} {call : Call}
variable {devices : FiniteMap DeviceId DeviceRecord} {links : FiniteMap LinkId LinkRecord}

/-- Some record is stored under the device identity. -/
def Present (devices : FiniteMap DeviceId DeviceRecord) (id : DeviceId) : Prop :=
  ∃ device, (id, device) ∈ devices.entries

theorem present_of_find?_ne_none {id : DeviceId} (found : devices.find? id ≠ none) :
    Present devices id := by
  obtain ⟨device, member⟩ := Option.ne_none_iff_exists'.mp found
  exact ⟨device, FiniteMap.find?_eq_some.mp member⟩

theorem find?_ne_none_of_present {id : DeviceId} (present : Present devices id) :
    devices.find? id ≠ none := by
  obtain ⟨device, member⟩ := present
  rw [FiniteMap.find?_eq_some.mpr member]
  exact Option.some_ne_none device

/-- Coherence of the device and link tables. -/
structure Tables (limits : Limits) (devices : FiniteMap DeviceId DeviceRecord)
    (links : FiniteMap LinkId LinkRecord) : Prop where
  device_key : ∀ {key device}, (key, device) ∈ devices.entries →
    device.id = key ∧ key.value ≠ 0
  link_key : ∀ {key link}, (key, link) ∈ links.entries → link.id = key ∧ key.value ≠ 0
  link_ends : ∀ {key link}, (key, link) ∈ links.entries →
    link.source ≠ link.target ∧ Present devices link.source ∧ Present devices link.target
  device_count : devices.size ≤ limits.maxDevices
  link_count : links.size ≤ limits.maxLinks

/-- The registry's representation invariant. -/
structure Consistent (limits : Limits) (state : State) : Prop where
  tables : Tables limits state.devices state.links
  link_stamp : ∀ {key link}, (key, link) ∈ state.links.entries →
    link.topologyGeneration = state.topologyGen
  measurement_count : state.measurementHistory.length ≤ limits.maxMeasurementHistory
  observation_count : 1 ≤ limits.maxObservations →
    state.observations.length ≤ limits.maxObservations

namespace Tables

/-- Keys stay coherent under any change of the device table that stores only
coherent records and loses no endpoint. -/
theorem replaceDevices (tables : Tables limits devices links)
    {changed : FiniteMap DeviceId DeviceRecord}
    (key : ∀ {key device}, (key, device) ∈ changed.entries →
      device.id = key ∧ key.value ≠ 0)
    (present : ∀ id, Present devices id → Present changed id)
    (count : changed.size ≤ limits.maxDevices) : Tables limits changed links where
  device_key := key
  link_key := tables.link_key
  link_ends member := by
    obtain ⟨ends, source, target⟩ := tables.link_ends member
    exact ⟨ends, present _ source, present _ target⟩
  device_count := count
  link_count := tables.link_count

theorem emplaceDevice (tables : Tables limits devices links) {device : DeviceRecord}
    (nonNil : device.id.value ≠ 0) (room : devices.size < limits.maxDevices) :
    Tables limits (devices.emplace device.id device) links := by
  refine tables.replaceDevices ?_ ?_ ?_
  · intro key stored member
    rcases FiniteMap.mem_emplace member with old | new
    · exact tables.device_key old
    · obtain ⟨rfl, rfl⟩ := Prod.mk.inj new
      exact ⟨rfl, nonNil⟩
  · rintro id ⟨stored, member⟩
    exact ⟨stored, FiniteMap.subset_emplace _ _ _ member⟩
  · have := FiniteMap.size_emplace_le devices device.id device
    omega

theorem assignDevice (tables : Tables limits devices links) {device : DeviceRecord}
    {key : DeviceId} (sameId : device.id = key) (nonNil : key.value ≠ 0) :
    Tables limits (devices.assign key device) links := by
  refine tables.replaceDevices ?_ ?_ ?_
  · intro other stored member
    rcases FiniteMap.mem_assign member with ⟨old, -⟩ | new
    · exact tables.device_key old
    · obtain ⟨rfl, rfl⟩ := Prod.mk.inj new
      exact ⟨sameId, nonNil⟩
  · rintro id ⟨stored, member⟩
    exact FiniteMap.exists_mem_assign member
  · simpa using tables.device_count

theorem mapDevices (tables : Tables limits devices links)
    {image : DeviceRecord → DeviceRecord}
    (sameId : ∀ device, (image device).id = device.id) :
    Tables limits (devices.mapValues image) links := by
  refine tables.replaceDevices ?_ ?_ ?_
  · intro key stored member
    obtain ⟨device, source, rfl⟩ := FiniteMap.mem_mapValues.mp member
    rw [sameId]
    exact tables.device_key source
  · rintro id ⟨device, member⟩
    exact ⟨image device, FiniteMap.mem_mapValues.mpr ⟨device, member, rfl⟩⟩
  · simpa using tables.device_count

/-- Any change of the link table whose entries are coherent. -/
theorem replaceLinks (tables : Tables limits devices links)
    {changed : FiniteMap LinkId LinkRecord}
    (coherent : ∀ {key link}, (key, link) ∈ changed.entries →
      (link.id = key ∧ key.value ≠ 0) ∧ link.source ≠ link.target ∧
        Present devices link.source ∧ Present devices link.target)
    (count : changed.size ≤ limits.maxLinks) : Tables limits devices changed where
  device_key := tables.device_key
  link_key member := (coherent member).1
  link_ends member := (coherent member).2
  device_count := tables.device_count
  link_count := count

theorem emplaceLink (tables : Tables limits devices links) {link : LinkRecord}
    {key : LinkId} (sameId : link.id = key) (nonNil : key.value ≠ 0)
    (ends : link.source ≠ link.target) (source : Present devices link.source)
    (target : Present devices link.target) (room : links.size < limits.maxLinks) :
    Tables limits devices (links.emplace key link) := by
  refine tables.replaceLinks ?_ ?_
  · intro other stored member
    rcases FiniteMap.mem_emplace member with old | new
    · exact ⟨tables.link_key old, tables.link_ends old⟩
    · obtain ⟨rfl, rfl⟩ := Prod.mk.inj new
      exact ⟨⟨sameId, nonNil⟩, ends, source, target⟩
  · have := FiniteMap.size_emplace_le links key link
    omega

theorem assignLink (tables : Tables limits devices links) {link : LinkRecord}
    {key : LinkId} (sameId : link.id = key) (nonNil : key.value ≠ 0)
    (ends : link.source ≠ link.target) (source : Present devices link.source)
    (target : Present devices link.target) :
    Tables limits devices (links.assign key link) := by
  refine tables.replaceLinks ?_ ?_
  · intro other stored member
    rcases FiniteMap.mem_assign member with ⟨old, -⟩ | new
    · exact ⟨tables.link_key old, tables.link_ends old⟩
    · obtain ⟨rfl, rfl⟩ := Prod.mk.inj new
      exact ⟨⟨sameId, nonNil⟩, ends, source, target⟩
  · simpa using tables.link_count

/-- Updates that keep identity and endpoints of every link. -/
theorem mapLinks (tables : Tables limits devices links) {image : LinkRecord → LinkRecord}
    (sameEnds : ∀ link, (image link).id = link.id ∧ (image link).source = link.source ∧
      (image link).target = link.target) :
    Tables limits devices (links.mapValues image) := by
  refine tables.replaceLinks ?_ ?_
  · intro key stored member
    obtain ⟨link, old, rfl⟩ := FiniteMap.mem_mapValues.mp member
    obtain ⟨id, source, target⟩ := sameEnds link
    rw [id, source, target]
    exact ⟨tables.link_key old, tables.link_ends old⟩
  · simpa using tables.link_count

theorem eraseLink (tables : Tables limits devices links) (key : LinkId) :
    Tables limits devices (links.erase key) := by
  refine tables.replaceLinks ?_ ?_
  · intro other stored member
    have old := (FiniteMap.mem_erase.mp member).1
    exact ⟨tables.link_key old, tables.link_ends old⟩
  · exact (FiniteMap.size_erase_le links key).trans tables.link_count

/-- Removing a device removes every link that referenced it. -/
theorem removeDevice (tables : Tables limits devices links) (device : DeviceId) :
    Tables limits (devices.erase device) (links.filter fun entry =>
      !(entry.2.source = device || entry.2.target = device)) where
  device_key member := tables.device_key (FiniteMap.mem_erase.mp member).1
  link_key member := tables.link_key (FiniteMap.mem_filter.mp member).1
  link_ends member := by
    obtain ⟨old, kept⟩ := FiniteMap.mem_filter.mp member
    simp only [Bool.not_eq_true', Bool.or_eq_false_iff, decide_eq_false_iff_not] at kept
    obtain ⟨ends, ⟨source, sourceMem⟩, ⟨target, targetMem⟩⟩ := tables.link_ends old
    exact ⟨ends, ⟨source, FiniteMap.mem_erase.mpr ⟨sourceMem, kept.1⟩⟩,
      ⟨target, FiniteMap.mem_erase.mpr ⟨targetMem, kept.2⟩⟩⟩
  device_count := (FiniteMap.size_erase_le devices device).trans tables.device_count
  link_count := (FiniteMap.size_filter_le links _).trans tables.link_count

end Tables

/-! ## Restored tables -/

/-- A monadic fold that succeeds keeps whatever each successful step keeps. -/
theorem foldlM_invariant {α β : Type} {step : β → α → Result β} (invariant : β → Prop)
    (preserved : ∀ {acc element result}, step acc element = .ok result →
      invariant acc → invariant result)
    {elements : List α} {start result : β} (initially : invariant start)
    (ok : elements.foldlM step start = .ok result) : invariant result := by
  induction elements generalizing start with
  | nil =>
      simp only [List.foldlM_nil, pure, Except.pure, Except.ok.injEq] at ok
      exact ok ▸ initially
  | cons element elements ih =>
      rw [List.foldlM_cons] at ok
      obtain ⟨middle, first, ok⟩ := bind_ok.mp ok
      exact ih (preserved first initially) ok

theorem restoreDevice_tables {device : DeviceRecord}
    {result : FiniteMap DeviceId DeviceRecord}
    (ok : restoreDevice limits devices device = .ok result)
    (tables : Tables limits devices links) : Tables limits result links := by
  obtain ⟨room, nonNil, -, rfl⟩ := restoreDevice_ok ok
  exact tables.emplaceDevice nonNil room

theorem restoreLink_tables {link : LinkRecord} {result : FiniteMap LinkId LinkRecord}
    (ok : restoreLink limits devices links link = .ok result)
    (tables : Tables limits devices links) : Tables limits devices result := by
  obtain ⟨room, nonNil, -, ends, source, target, rfl⟩ := restoreLink_ok ok
  exact tables.emplaceLink rfl nonNil ends (present_of_find?_ne_none source)
    (present_of_find?_ne_none target) room

theorem tables_empty : Tables limits .empty .empty where
  device_key member := by simp at member
  link_key member := by simp at member
  link_ends member := by simp at member
  device_count := by simp
  link_count := by simp

theorem restored_tables {durable : DurableState}
    (devicesOk : durable.devices.foldlM (restoreDevice limits)
      FiniteMap.empty = .ok devices)
    (linksOk : durable.links.foldlM (restoreLink limits devices) FiniteMap.empty =
      .ok links) : Tables limits devices links := by
  have devicesTables : Tables limits devices .empty :=
    foldlM_invariant (fun devices => Tables limits devices .empty)
      restoreDevice_tables tables_empty devicesOk
  exact foldlM_invariant (fun links => Tables limits devices links)
    restoreLink_tables devicesTables linksOk

/-- `advance` re-establishes the stamp from coherent tables and bounded logs. -/
theorem consistent_advance (tables : Tables limits state.devices state.links)
    (measurements : state.measurementHistory.length ≤ limits.maxMeasurementHistory)
    (observations : 1 ≤ limits.maxObservations →
      state.observations.length ≤ limits.maxObservations) :
    Consistent limits (advance state) where
  tables := tables.mapLinks fun _ => ⟨rfl, rfl, rfl⟩
  link_stamp member := by
    obtain ⟨link, -, rfl⟩ := FiniteMap.mem_mapValues.mp member
    rfl
  measurement_count := measurements
  observation_count := observations

theorem consistent_commit {observation : Observation}
    (tables : Tables limits state.devices state.links)
    (measurements : state.measurementHistory.length ≤ limits.maxMeasurementHistory)
    (observations : 1 ≤ limits.maxObservations →
      state.observations.length ≤ limits.maxObservations) :
    Consistent limits (commit limits observation state) :=
  consistent_advance tables measurements fun bound =>
    BoundedQueue.length_push_le (observations bound) _

theorem consistent_initial : Consistent limits State.initial where
  tables := tables_empty
  link_stamp member := by simp [State.initial] at member
  measurement_count := by simp [State.initial]
  observation_count := by simp [State.initial]

/-- Every accepted call preserves the invariant. -/
theorem consistent_apply (consistent : Consistent limits state)
    (ok : apply limits call state = .ok next) : Consistent limits next := by
  have measurements := consistent.measurement_count
  have observations := consistent.observation_count
  obtain ⟨operation, ambient⟩ := call
  cases operation with
  | upsertDevice device =>
      obtain ⟨nonNil, -, ⟨-, rfl⟩ | ⟨-, room, observation, rfl⟩ |
        ⟨current, -, -, observation, rfl⟩⟩ := upsertDevice_ok ok
      · exact consistent
      · exact consistent_commit (consistent.tables.emplaceDevice nonNil room)
          measurements observations
      · exact consistent_commit (consistent.tables.assignDevice rfl nonNil)
          measurements observations
  | removeDevice device =>
      obtain ⟨-, observation, rfl⟩ := removeDevice_ok ok
      exact consistent_commit (consistent.tables.removeDevice device)
        measurements observations
  | upsertLink link =>
      obtain ⟨⟨nonNil, -, ends, source, target, room, -⟩, ⟨-, rfl⟩ |
        ⟨-, observation, rfl⟩ | ⟨current, -, -, observation, rfl⟩⟩ := upsertLink_ok ok
      · exact consistent
      · exact consistent_commit
          (consistent.tables.emplaceLink rfl nonNil ends (present_of_find?_ne_none source)
            (present_of_find?_ne_none target) room) measurements observations
      · exact consistent_commit
          (consistent.tables.assignLink rfl nonNil ends (present_of_find?_ne_none source)
            (present_of_find?_ne_none target)) measurements observations
  | removeLink link =>
      obtain ⟨current, -, observation, rfl⟩ := removeLink_ok ok
      exact consistent_commit (consistent.tables.eraseLink link) measurements observations
  | updateLinkState link linkState evidence degraded note =>
      obtain ⟨current, found, observation, rfl⟩ := updateLinkState_ok ok
      have member := FiniteMap.find?_eq_some.mp found
      obtain ⟨sameId, nonNil⟩ := consistent.tables.link_key member
      obtain ⟨ends, source, target⟩ := consistent.tables.link_ends member
      exact consistent_commit
        (consistent.tables.assignLink sameId nonNil ends source target)
        measurements observations
  | updateDeviceHealth device health evidence =>
      obtain ⟨current, found, observation, rfl⟩ := updateDeviceHealth_ok ok
      obtain ⟨sameId, nonNil⟩ :=
        consistent.tables.device_key (FiniteMap.find?_eq_some.mp found)
      exact consistent_commit (consistent.tables.assignDevice sameId nonNil)
        measurements observations
  | advanceTopology evidence =>
      simp only [apply, advanceTopology, Except.ok.injEq] at ok
      subst ok
      exact consistent_commit consistent.tables measurements observations
  | publishObservation observation =>
      simp only [apply, publishObservation, Except.ok.injEq] at ok
      subst ok
      exact ⟨consistent.tables, consistent.link_stamp, measurements, fun bound =>
        BoundedQueue.length_push_le (observations bound) _⟩
  | publishMeasurement measurement =>
      simp only [apply, publishMeasurement, Except.ok.injEq] at ok
      subst ok
      exact ⟨consistent.tables, consistent.link_stamp,
        BoundedQueue.length_push_le measurements _, observations⟩
  | markDynamicEvidenceRevalidationRequired =>
      simp only [apply, Except.ok.injEq] at ok
      subst ok
      refine consistent_commit ?_ (by simpa using measurements)
        (by simpa using observations)
      refine Tables.mapLinks (consistent.tables.mapDevices fun device => ?_)
        fun _ => ⟨rfl, rfl, rfl⟩
      unfold requireWorkerRevalidation
      split <;> rfl
  | restoreDurableState durable =>
      obtain ⟨-, devices, links, observation, devicesOk, linksOk, rfl⟩ :=
        restoreDurableState_ok ok
      refine consistent_advance ?_ (Nat.zero_le _) fun bound => bound
      refine (restored_tables devicesOk linksOk).mapDevices fun device => ?_
      unfold requireOwnedRevalidation
      split <;> rfl

theorem consistent_step (consistent : Consistent limits state) (call : Call) :
    Consistent limits (step limits state call) := by
  cases result : apply limits call state with
  | error error => rwa [step_of_apply_error result]
  | ok next =>
      rw [step_of_apply_ok result]
      exact consistent_apply consistent result

/-- Every state of a registry satisfies the representation invariant. -/
theorem consistent_of_reachable (reachable : Reachable limits state) :
    Consistent limits state :=
  reachable.invariant consistent_initial fun _ call consistent =>
    consistent_step consistent call

/-- The representation invariant, field by field, for a log bound that admits an
entry. -/
theorem representation_invariant (limits : Limits) (bound : 1 ≤ limits.maxObservations)
    (state : State) (reachable : Reachable limits state) :
    (∀ key device, (key, device) ∈ state.devices.entries →
      device.id = key ∧ key.isNil = false) ∧
    (∀ key link, (key, link) ∈ state.links.entries →
      link.id = key ∧ key.isNil = false ∧ link.source ≠ link.target ∧
        (∃ device, (link.source, device) ∈ state.devices.entries) ∧
        (∃ device, (link.target, device) ∈ state.devices.entries) ∧
        link.topologyGeneration = state.topologyGen) ∧
    state.devices.size ≤ limits.maxDevices ∧ state.links.size ≤ limits.maxLinks ∧
    state.measurementHistory.length ≤ limits.maxMeasurementHistory ∧
    state.observations.length ≤ limits.maxObservations := by
  have consistent := consistent_of_reachable reachable
  have nonNil {tag : Tag} {key : Id tag} (nonZero : key.value ≠ 0) :
      key.isNil = false := by
    simpa [Id.isNil] using nonZero
  refine ⟨fun key device member => ?_, fun key link member => ?_,
    consistent.tables.device_count, consistent.tables.link_count,
    consistent.measurement_count, consistent.observation_count bound⟩
  · obtain ⟨sameId, nonZero⟩ := consistent.tables.device_key member
    exact ⟨sameId, nonNil nonZero⟩
  · obtain ⟨sameId, nonZero⟩ := consistent.tables.link_key member
    obtain ⟨ends, source, target⟩ := consistent.tables.link_ends member
    exact ⟨sameId, nonNil nonZero, ends, source, target, consistent.link_stamp member⟩

theorem published_representation :
    Worker.published.links.size = 1 ∧
      ∀ key link, (key, link) ∈ Worker.published.links.entries →
      ∃ device, (link.source, device) ∈ Worker.published.devices.entries :=
  ⟨by decide +kernel, fun key link member =>
    ((representation_invariant {} (by decide) Worker.published
      ⟨Worker.publication ⟨1⟩, rfl⟩).2.1 key link member).2.2.2.1⟩

end NvlinkFabric.Registry

import NvlinkFabric.Backend.Discovery
import NvlinkFabric.Registry.Admission
import NvlinkFabric.Route.DiscoveryOrder

/-!
# Registering a fixture

A program that uses the synthetic backend registers the devices that it discovers and
then the links.  Every record is accepted exactly if the fixture keeps the bounds of the
registry and its links join declared devices, and then the snapshot is the fixture.
-/

namespace NvlinkFabric

open Registry
open Transition (Along along_append along_cons)

section Discovering

variable {σ ρ : Type} {discover : σ → ProcessState → ρ × ProcessState}

/-- Each record says of its specification what a single discovery says. -/
theorem discoverEach_forall₂ {describes : σ → ρ → Prop}
    (each : ∀ spec process, describes spec (discover spec process).1) (specs : List σ)
    (process : ProcessState) :
    List.Forall₂ describes specs (discoverEach discover specs process).1 := by
  induction specs generalizing process with
  | nil => exact .nil
  | cons spec specs ih => exact .cons (each spec process) (ih _)

theorem length_discoverEach (specs : List σ) (process : ProcessState) :
    (discoverEach discover specs process).1.length = specs.length := by
  have paired : List.Forall₂ (fun _ _ =>
      True) specs (discoverEach discover specs process).1 :=
    discoverEach_forall₂ (fun _ _ => trivial) specs process
  exact paired.length_eq.symm

/-- What every discovery draws from a counter are its next values. -/
theorem discoverEach_drawn {counter : ProcessState → UInt64} {drawn : ρ → UInt64}
    (draws : ∀ spec process, drawn (discover spec process).1 = counter process + 1)
    (counts : ∀ spec process, counter (discover spec process).2 = counter process + 1)
    (specs : List σ) (process : ProcessState)
    (room : (counter process).toNat + specs.length < 2 ^ 64) :
    (discoverEach discover specs process).1.map (fun record => (drawn record).toNat) =
      List.range' ((counter process).toNat + 1) specs.length := by
  induction specs generalizing process with
  | nil => rfl
  | cons spec specs ih =>
      have next : (counter process + 1).toNat = (counter process).toNat + 1 := by
        rw [UInt64.toNat_add, UInt64.toNat_one]
        simp only [List.length_cons] at room
        omega
      have rest := ih (discover spec process).2 (by
        rw [counts, next]
        simp only [List.length_cons] at room
        omega)
      rw [counts, next] at rest
      simp only [discoverEach, List.map_cons, draws, next, rest, List.length_cons,
        List.range'_succ]

theorem drawn_ne_zero {counter : ProcessState → UInt64} {drawn : ρ → UInt64}
    (draws : ∀ spec process, drawn (discover spec process).1 = counter process + 1)
    (counts : ∀ spec process, counter (discover spec process).2 = counter process + 1)
    {specs : List σ} {process : ProcessState}
    (room : (counter process).toNat + specs.length < 2 ^ 64) :
    ∀ record ∈ (discoverEach discover specs process).1, drawn record ≠ 0 := by
  intro record member zero
  have listed := List.mem_map_of_mem (f := fun record => (drawn record).toNat) member
  rw [discoverEach_drawn draws counts specs process room, List.mem_range'_1,
    zero] at listed
  simp at listed

/-- A counter that no discovery draws from stays as it is. -/
theorem discoverEach_kept {counter : ProcessState → UInt64}
    (keeps : ∀ spec process, counter (discover spec process).2 = counter process)
    (specs : List σ) (process : ProcessState) :
    counter (discoverEach discover specs process).2 = counter process := by
  induction specs generalizing process with
  | nil => rfl
  | cons spec specs ih => exact (ih _).trans (keeps spec process)

end Discovering

/-- The identities of a fixture are declared, or fresh and hence not nil. -/
theorem deviceId_ne_zero {specs : List SyntheticDeviceSpec} {process : ProcessState}
    (room : process.device.toNat + specs.length < 2 ^ 64) :
    ∀ device ∈ (discoverEach Synthetic.discoverDevice specs process).1,
      device.id.value ≠ 0 := by
  induction specs generalizing process with
  | nil => simp [discoverEach]
  | cons spec specs ih =>
      simp only [List.length_cons] at room
      have next : (process.device + 1).toNat = process.device.toNat + 1 := by
        rw [UInt64.toNat_add, UInt64.toNat_one]
        omega
      have rest := @ih (Synthetic.discoverDevice spec process).2 (by
        simp only [Synthetic.discoverDevice]
        split
        · rw [next]
          omega
        · omega)
      intro device member
      rcases List.mem_cons.mp member with rfl | later
      · change (if spec.id.isNil then ⟨process.device + 1⟩
          else spec.id : DeviceId).value ≠ 0
        split
        · intro zero
          rw [show process.device + 1 = 0 from zero] at next
          simp at next
        next declared =>
          simpa [Id.isNil] using declared
      · exact rest device later

namespace Registry

variable {limits : Limits} {state : State} {devices : List DeviceRecord}
  {links : List LinkRecord}

/-- A new device is accepted while there is room. -/
theorem Discovered.accepts_device (found : Discovered devices links state)
    {device : DeviceRecord} (ambient : Ambient) (fresh : device.id ∉ devices.map (·.id))
    (nonNil : device.id.value ≠ 0) (valid : device.generation.value ≠ 0) :
    accepted limits ⟨.upsertDevice device, ambient⟩ state = true ↔
      devices.length < limits.maxDevices := by
  have absent := found.find?_device fresh
  rw [accepted_iff, ← found.size_devices]
  constructor
  · rintro ⟨next, ok⟩
    obtain ⟨-, -, ⟨stored, -⟩ | ⟨-, room, -⟩ | ⟨current, stored, -⟩⟩ := upsertDevice_ok ok
    · simp [absent] at stored
    · exact room
    · simp [absent] at stored
  · intro room
    obtain ⟨observation, ok⟩ := upsertDevice_newer ambient nonNil valid room
      (by simp [generationOf, absent])
    exact ⟨_, ok⟩

/-- The link joins two of the devices. -/
def Joins (devices : List DeviceRecord) (link : LinkRecord) : Prop :=
  link.source ≠ link.target ∧ link.source ∈ devices.map (·.id) ∧
    link.target ∈ devices.map (·.id)

theorem Discovered.known_iff (found : Discovered devices links state) (id : DeviceId) :
    state.devices.find? id ≠ none ↔ id ∈ devices.map (·.id) := by
  rw [found.find?_device_eq, ne_eq, List.find?_eq_none]
  simp

/-- A new link is accepted if it joins known devices and there is room, also between
them. -/
theorem Discovered.accepts_link (found : Discovered devices links state)
    {link : LinkRecord} (ambient : Ambient) (fresh : link.id ∉ links.map (·.id))
    (nonNil : link.id.value ≠ 0) (valid : link.generation.value ≠ 0) :
    accepted limits ⟨.upsertLink link, ambient⟩ state = true ↔
      Joins devices link ∧ links.length < limits.maxLinks ∧
        links.countP (sameUnordered link) < limits.maxParallelLinksPerPair := by
  rw [accepted_iff, Joins, ← found.known_iff, ← found.known_iff, ← found.size_links,
    ← found.parallelCount_eq]
  constructor
  · rintro ⟨next, ok⟩
    obtain ⟨⟨-, -, ends, source, target, room, parallel⟩, -⟩ := upsertLink_ok ok
    exact ⟨⟨ends, source, target⟩, room, parallel⟩
  · rintro ⟨⟨ends, source, target⟩, room, parallel⟩
    obtain ⟨observation, ok⟩ :=
      upsertLink_fresh ambient link nonNil valid ends source target
      room parallel (found.find?_link fresh)
    exact ⟨_, ok⟩

/-- The two ends are the same, in either order. -/
def samePair (left right : DeviceId × DeviceId) : Bool :=
  right = left || right = left.swap

/-- The ends of a link. -/
def ends (link : LinkRecord) : DeviceId × DeviceId := (link.source, link.target)

theorem sameUnordered_eq (link other : LinkRecord) :
    sameUnordered link other = samePair (ends link) (ends other) := by
  simp [sameUnordered, samePair, ends, Prod.ext_iff]

theorem samePair_self (pair : DeviceId × DeviceId) : samePair pair pair = true := by
  simp [samePair]

theorem samePair_congr {left right : DeviceId × DeviceId}
    (same : samePair left right = true) :
    samePair left = samePair right := by
  funext other
  simp only [samePair, Bool.or_eq_true, decide_eq_true_eq] at same
  rcases same with rfl | rfl
  · rfl
  · simp only [samePair, Prod.swap_swap]
    rw [Bool.or_comm]

/-- The links join known devices, and are few enough, also between the same two. -/
structure LinksFit (limits : Limits) (ids : List DeviceId)
    (links : List (DeviceId × DeviceId)) :
    Prop where
  room : links.length ≤ limits.maxLinks
  joins : ∀ pair ∈ links, pair.1 ≠ pair.2 ∧ pair.1 ∈ ids ∧ pair.2 ∈ ids
  parallel : ∀ pair ∈ links, links.countP (samePair pair) ≤ limits.maxParallelLinksPerPair

/-- One more link fits if it would be accepted after the others. -/
theorem linksFit_concat {ids : List DeviceId} {links : List (DeviceId × DeviceId)}
    {last : DeviceId × DeviceId} :
    LinksFit limits ids (links ++ [last]) ↔
      LinksFit limits ids links ∧ (last.1 ≠ last.2 ∧ last.1 ∈ ids ∧ last.2 ∈ ids) ∧
        links.length < limits.maxLinks ∧
        links.countP (samePair last) < limits.maxParallelLinksPerPair := by
  constructor
  · rintro ⟨room, joins, parallel⟩
    rw [List.length_append, List.length_singleton] at room
    have most := parallel last (by simp)
    rw [List.countP_append, List.countP_singleton, if_pos (samePair_self last)] at most
    refine ⟨⟨by omega, fun pair member => joins pair (List.mem_append_left _ member),
      fun pair member => ?_⟩, joins last (by simp), room, most⟩
    have bound := parallel pair (List.mem_append_left _ member)
    rw [List.countP_append] at bound
    omega
  · rintro ⟨⟨room, joins, parallel⟩, joinsLast, roomLast, most⟩
    refine ⟨by rw [List.length_append, List.length_singleton]; omega,
      fun pair member => ?_, fun pair member => ?_⟩
    · rcases List.mem_append.mp member with earlier | new
      · exact joins pair earlier
      · exact List.mem_singleton.mp new ▸ joinsLast
    · rw [List.countP_append, List.countP_singleton]
      rcases List.mem_append.mp member with earlier | new
      · have bound := parallel pair earlier
        split
        next same =>
          rw [samePair_congr same]
          omega
        next => omega
      · obtain rfl := List.mem_singleton.mp new
        rw [if_pos (samePair_self pair)]
        omega

/-! ## Registration -/

/-- The devices are upserted, and then the links. -/
def registrations (devices : List DeviceRecord) (links : List LinkRecord) :
    List Operation :=
  devices.map .upsertDevice ++ links.map .upsertLink

theorem upserted_registrations (devices : List DeviceRecord) (links : List LinkRecord) :
    upsertedDevices (registrations devices links) = devices ∧
      upsertedLinks (registrations devices links) = links := by
  simp [upsertedDevices, upsertedLinks, registrations, List.filterMap_map]

theorem isUpsert_of_registrations {operation : Operation}
    (member : operation ∈ registrations devices links) : operation.isUpsert = true := by
  rcases List.mem_append.mp member with device | link
  · obtain ⟨record, -, rfl⟩ := List.mem_map.mp device
    rfl
  · obtain ⟨record, -, rfl⟩ := List.mem_map.mp link
    rfl

/-- What accepted registrations of distinct records leave behind. -/
theorem discovered_registered {calls : List Call}
    (operations : calls.map (·.operation) = registrations devices links)
    (deviceIds : (devices.map (·.id)).Nodup) (linkIds : (links.map (·.id)).Nodup)
    (accepted : Along (step limits) (Accepts limits) .initial calls) :
    Discovered devices links (run limits .initial calls) ∧
      (run limits .initial calls).topologyGen =
        generationAfter (devices.length + links.length) := by
  obtain ⟨devicesEq, linksEq⟩ := upserted_registrations devices links
  have count : calls.length = devices.length + links.length := by
    have lengths := congrArg List.length operations
    simpa [registrations] using lengths
  have upserts : ∀ call ∈ calls, call.operation.isUpsert = true := fun call member =>
    isUpsert_of_registrations (operations ▸ List.mem_map_of_mem member)
  have loaded := discovered_initial.run upserts accepted
    (by simpa [operations, devicesEq] using deviceIds)
      (by simpa [operations, linksEq] using linkIds)
  rwa [operations, devicesEq, linksEq, count] at loaded

/-- The last call of a registration. -/
theorem calls_last {calls : List Call} {operations : List Operation} {last : Operation}
    (split : calls.map (·.operation) = operations ++ [last]) :
    ∃ before ambient, calls = before ++ [⟨last, ambient⟩] ∧
      before.map (·.operation) = operations := by
  obtain ⟨before, ambient, callsEq, beforeEq⟩ := calls_concat
    (show calls.map (·.operation) = (operations ++ [last]).map
      id by rw [List.map_id, split])
  exact ⟨before, ambient, callsEq, by rw [beforeEq, List.map_id]⟩

theorem accepts_devices {calls : List Call}
    (operations : calls.map (·.operation) = registrations devices [])
    (distinct : (devices.map (·.id)).Nodup)
    (valid : ∀ device ∈ devices, device.id.value ≠ 0 ∧ device.generation.value ≠ 0) :
    Along (step limits) (Accepts limits) .initial calls ↔
      devices.length ≤ limits.maxDevices := by
  induction devices using List.reverseRecOn generalizing calls with
  | nil =>
      obtain rfl := List.map_eq_nil_iff.mp operations
      simp
  | append_singleton devices device ih =>
      obtain ⟨before, ambient, rfl, beforeOps⟩ := calls_last
        (show calls.map (·.operation) = registrations devices [] ++
          [.upsertDevice device] by
          simpa [registrations] using operations)
      rw [List.map_append, List.nodup_append'] at distinct
      obtain ⟨earlier, -, apart⟩ := distinct
      have fresh : device.id ∉ devices.map (·.id) := fun old => apart old (by simp)
      obtain ⟨nonNil, generation⟩ := valid device (by simp)
      have first := ih beforeOps earlier fun other member =>
        valid other (List.mem_append_left _ member)
      rw [along_append, along_cons, List.length_append, List.length_singleton]
      constructor
      · rintro ⟨accepted, last, -⟩
        have found := (discovered_registered beforeOps earlier (by simp) accepted).1
        exact (found.accepts_device ambient fresh nonNil generation).mp last
      · intro room
        have accepted := first.mpr (by omega)
        have found := (discovered_registered beforeOps earlier (by simp) accepted).1
        exact ⟨accepted, (found.accepts_device ambient fresh nonNil generation).mpr
          room, trivial⟩

/-- Valid records of distinct identities are all accepted exactly if they fit. -/
theorem accepts_registered {calls : List Call}
    (operations : calls.map (·.operation) = registrations devices links)
    (deviceIds : (devices.map (·.id)).Nodup) (linkIds : (links.map (·.id)).Nodup)
    (devicesValid : ∀ device ∈ devices, device.id.value ≠ 0 ∧ device.generation.value ≠ 0)
    (linksValid : ∀ link ∈ links, link.id.value ≠ 0 ∧ link.generation.value ≠ 0) :
    Along (step limits) (Accepts limits) .initial calls ↔
      devices.length ≤ limits.maxDevices ∧
        LinksFit limits (devices.map (·.id)) (links.map ends) := by
  induction links using List.reverseRecOn generalizing calls with
  | nil =>
      rw [accepts_devices operations deviceIds devicesValid]
      exact ⟨fun room => ⟨room, by simp, by simp, by simp⟩, And.left⟩
  | append_singleton links link ih =>
      obtain ⟨before, ambient, rfl, beforeOps⟩ := calls_last
        (show calls.map (·.operation) = registrations devices links ++
          [.upsertLink link] by
          simpa [registrations] using operations)
      rw [List.map_append, List.nodup_append'] at linkIds
      obtain ⟨earlier, -, apart⟩ := linkIds
      have fresh : link.id ∉ links.map (·.id) := fun old => apart old (by simp)
      obtain ⟨nonNil, generation⟩ := linksValid link (by simp)
      have first := ih beforeOps earlier fun other member =>
        linksValid other (List.mem_append_left _ member)
      have counts : (links.map ends).countP (samePair (ends link)) =
          links.countP (sameUnordered link) := by
        rw [List.countP_map]
        exact congrArg (List.countP · links) (funext fun other =>
          (sameUnordered_eq _ _).symm)
      rw [along_append, along_cons, List.map_append, List.map_singleton,
        linksFit_concat, counts, List.length_map, first]
      constructor
      · rintro ⟨fits, last, -⟩
        have found :=
          (discovered_registered beforeOps deviceIds earlier (first.mpr fits)).1
        obtain ⟨joins, room, parallel⟩ :=
          (found.accepts_link ambient fresh nonNil generation).mp last
        exact ⟨fits.1, fits.2, joins, room, parallel⟩
      · rintro ⟨roomDevices, fits, joins, room, parallel⟩
        have found := (discovered_registered beforeOps deviceIds earlier
          (first.mpr ⟨roomDevices, fits⟩)).1
        exact ⟨⟨roomDevices, fits⟩,
          (found.accepts_link ambient fresh nonNil generation).mpr
          ⟨joins, room, parallel⟩, trivial⟩

end Registry

namespace SyntheticTopologySpec

variable (spec : SyntheticTopologySpec) (process : ProcessState)

/-- The devices of the fixture, as the backend discovers them. -/
def discoveredDevices : List DeviceRecord :=
  (discoverEach Synthetic.discoverDevice spec.devices process).1

/-- The links of the fixture, as the backend discovers them after the devices. -/
def discoveredLinks : List LinkRecord :=
  (discoverEach Synthetic.discoverLink spec.links
    (discoverEach Synthetic.discoverDevice spec.devices process).2).1

/-- The fixture keeps the bounds of a registry, and its links join its devices. -/
def Fits (limits : Limits) (ids : List DeviceId) : Prop :=
  spec.devices.length ≤ limits.maxDevices ∧
    Registry.LinksFit limits ids (spec.links.map fun link => (link.source, link.target))

/-- No counter that the discovery draws from wraps. -/
def Unwrapped : Prop :=
  process.device.toNat + spec.devices.length < 2 ^ 64 ∧
    process.deviceGeneration.toNat + spec.devices.length < 2 ^ 64 ∧
    process.link.toNat + spec.links.length < 2 ^ 64 ∧
    process.linkGeneration.toNat + spec.links.length < 2 ^ 64

variable {spec process}

/-- The links of a fixture are numbered in the order of their declaration. -/
theorem linkIds (unwrapped : spec.Unwrapped process) :
    (spec.discoveredLinks process).map (fun link => link.id.value.toNat) =
      List.range' (process.link.toNat + 1) spec.links.length := by
  have kept : (discoverEach Synthetic.discoverDevice spec.devices process).2.link =
      process.link := discoverEach_kept (fun _ _ => rfl) _ _
  have drawn : (discoverEach Synthetic.discoverLink spec.links
      (discoverEach Synthetic.discoverDevice spec.devices process).2).1.map
        (fun link => link.id.value.toNat) = _ :=
    discoverEach_drawn (fun _ _ => rfl) (fun _ _ => rfl) _ _ (by
      rw [kept]
      exact unwrapped.2.2.1)
  rwa [kept] at drawn

theorem linkIds_increasing (unwrapped : spec.Unwrapped process) :
    (spec.discoveredLinks process).Pairwise fun left right => left.id < right.id := by
  have increasing :
      (List.range' (process.link.toNat + 1) spec.links.length).Pairwise (· < ·) :=
    List.pairwise_lt_range'
  rw [← linkIds unwrapped, List.pairwise_map] at increasing
  exact increasing.imp Id.lt_iff.mpr

theorem devices_valid (unwrapped : spec.Unwrapped process) :
    ∀ device ∈ spec.discoveredDevices process,
      device.id.value ≠ 0 ∧ device.generation.value ≠ 0 := by
  have generations :
      ∀ device ∈ (discoverEach Synthetic.discoverDevice spec.devices process).1,
      device.generation.value ≠ 0 :=
    drawn_ne_zero (fun _ _ => rfl) (fun _ _ => rfl) unwrapped.2.1
  exact fun device member =>
    ⟨deviceId_ne_zero unwrapped.1 device member, generations device member⟩

theorem links_valid (unwrapped : spec.Unwrapped process) :
    ∀ link ∈ spec.discoveredLinks process, link.id.value ≠ 0 ∧
      link.generation.value ≠ 0 := by
  have keptIds : (discoverEach Synthetic.discoverDevice spec.devices process).2.link =
      process.link := discoverEach_kept (fun _ _ => rfl) _ _
  have keptGenerations :
      (discoverEach Synthetic.discoverDevice spec.devices process).2.linkGeneration =
        process.linkGeneration := discoverEach_kept (fun _ _ => rfl) _ _
  have ids : ∀ link ∈ (discoverEach Synthetic.discoverLink spec.links
      (discoverEach Synthetic.discoverDevice spec.devices process).2).1,
        link.id.value ≠ 0 :=
    drawn_ne_zero (fun _ _ => rfl) (fun _ _ => rfl) (keptIds.symm ▸ unwrapped.2.2.1)
  have generations : ∀ link ∈ (discoverEach Synthetic.discoverLink spec.links
      (discoverEach Synthetic.discoverDevice spec.devices process).2).1,
        link.generation.value ≠ 0 :=
    drawn_ne_zero (fun _ _ => rfl) (fun _ _ =>
      rfl) (keptGenerations.symm ▸ unwrapped.2.2.2)
  exact fun link member => ⟨ids link member, generations link member⟩

/-- The links join what they were declared to join. -/
theorem ends_discovered :
    (spec.discoveredLinks process).map Registry.ends =
      spec.links.map fun link => (link.source, link.target) := by
  have described : List.Forall₂
      (fun (declared : SyntheticLinkSpec) (link : LinkRecord) =>
        (declared.source, declared.target) = Registry.ends link)
      spec.links (spec.discoveredLinks process) := by
    refine discoverEach_forall₂ (fun declared process => ?_) _ _
    rfl
  refine Eq.symm ?_
  rwa [← List.forall₂_eq_eq_eq, List.forall₂_map_left_iff, List.forall₂_map_right_iff]

end SyntheticTopologySpec

/-- The snapshot of the records that were discovered. -/
theorem Registry.Discovered.snapshot {limits : Limits} {state : State}
    {devices : List DeviceRecord} {links : List LinkRecord}
    (found : Discovered devices links state) (consistent : Consistent limits state) :
    buildSnapshot state =
      { generation := state.topologyGen
        devices := devices.insertionSort fun left right => left.id ≤ right.id
        links := (links.map (stamp state.topologyGen)).insertionSort
          fun left right => left.id ≤ right.id } := by
  have deviceValues : state.devices.values = devices := by
    simp [FiniteMap.values, found.devices_eq, Function.comp_def]
  have linkValues : state.links.values = links.map (stamp state.topologyGen) := by
    rw [← mapValues_stamp consistent, FiniteMap.values, found.links_eq]
    simp [Function.comp_def]
  rw [buildSnapshot, deviceValues, linkValues]

/-- A fixture is registered without a refusal exactly if it fits, and then the snapshot
shows it: its devices by identity, and its links in the order of their declaration, each
as it was discovered, with one generation for each record. -/
theorem fixture_registered {limits : Limits} {spec : SyntheticTopologySpec}
    {process : ProcessState} {calls : List Call}
    (operations : calls.map (·.operation) =
      registrations (spec.discoveredDevices process) (spec.discoveredLinks process))
    (unwrapped : spec.Unwrapped process)
    (distinct : ((spec.discoveredDevices process).map (·.id)).Nodup) :
    (Along (step limits) (Accepts limits) .initial calls ↔
        spec.Fits limits ((spec.discoveredDevices process).map (·.id))) ∧
      (spec.Fits limits ((spec.discoveredDevices process).map (·.id)) →
        buildSnapshot (run limits .initial calls) =
          { generation := generationAfter (spec.devices.length + spec.links.length)
            devices := (spec.discoveredDevices process).insertionSort
              fun left right => left.id ≤ right.id
            links := (spec.discoveredLinks process).map
              (stamp (generationAfter (spec.devices.length + spec.links.length))) }) := by
  have increasing := SyntheticTopologySpec.linkIds_increasing unwrapped
  have linkIds : ((spec.discoveredLinks process).map (·.id)).Nodup := by
    refine (List.pairwise_map.mpr (increasing.imp fun below same => ?_))
    rw [same, Id.lt_iff] at below
    exact lt_irrefl _ below
  have accepts : Along (step limits) (Accepts limits) .initial calls ↔
      spec.Fits limits ((spec.discoveredDevices process).map (·.id)) := by
    rw [accepts_registered operations distinct linkIds
      (SyntheticTopologySpec.devices_valid unwrapped)
        (SyntheticTopologySpec.links_valid unwrapped),
      SyntheticTopologySpec.ends_discovered, SyntheticTopologySpec.discoveredDevices,
      length_discoverEach]
    rfl
  refine ⟨accepts, fun fits => ?_⟩
  obtain ⟨found, generation⟩ :=
    discovered_registered operations distinct linkIds (accepts.mpr fits)
  have consistent : Consistent limits (run limits .initial calls) :=
    consistent_of_reachable ⟨calls, rfl⟩
  have count : (spec.discoveredDevices process).length +
      (spec.discoveredLinks process).length =
      spec.devices.length + spec.links.length := by
    rw [SyntheticTopologySpec.discoveredDevices, SyntheticTopologySpec.discoveredLinks,
      length_discoverEach, length_discoverEach]
  rw [count] at generation
  rw [found.snapshot consistent, generation]
  congr 1
  refine List.Pairwise.insertionSort_eq
    (List.pairwise_map.mpr (increasing.imp fun below => ?_))
  exact Id.le_iff.mpr (Nat.le_of_lt (Id.lt_iff.mp below))

/-- Two accelerators, one of them without a declared identity, and a link between them. -/
def pairFixture : SyntheticTopologySpec where
  devices := [{ id := ⟨7⟩, name := "gpu0" }, { name := "gpu1" }]
  links := [{ source := ⟨7⟩, target := ⟨1⟩ }]

/-- The calls that register it. -/
def pairCalls : List Call :=
  (registrations (pairFixture.discoveredDevices {}) (pairFixture.discoveredLinks {})).map
    fun operation => ⟨operation, {}⟩

theorem pairFixture_registered : Along (step {}) (Accepts {}) .initial pairCalls := by
  have operations : pairCalls.map (·.operation) =
      registrations (pairFixture.discoveredDevices {})
        (pairFixture.discoveredLinks {}) := by
    simp [pairCalls, Function.comp_def]
  refine (fixture_registered operations ⟨by decide, by decide, by decide, by decide⟩
    (by decide)).1.mpr ⟨by decide, ?_, ?_, ?_⟩
  · decide
  · decide
  · decide

end NvlinkFabric

import NvlinkFabric.Registry.Invariant

/-!
# Restoring a captured state

The capture of a coherent state lists every record once, so the loops of
`restore_durable_state` insert all of them.  They accept the capture if the
limits leave room and no stored generation has become invalid.
-/

namespace NvlinkFabric.Registry

variable {limits : Limits} {ambient : Ambient} {state : State}

/-- No stored generation is zero.  Stored generations are checked to be nonzero
on entry and move only by `next`, so a zero is a counter that wrapped. -/
def Unwrapped (state : State) : Prop :=
  state.topologyGen.value ≠ 0 ∧
    (∀ entry ∈ state.devices.entries, entry.2.generation.value ≠ 0) ∧
    ∀ entry ∈ state.links.entries, entry.2.generation.value ≠ 0

instance (state : State) : Decidable (Unwrapped state) :=
  inferInstanceAs (Decidable (_ ∧ _ ∧ _))

/-- A loop over a list with one more record is the loop over the list and one
iteration. -/
theorem foldlM_concat_ok {α β : Type} {iteration : β → α → Result β} {records : List α}
    {record : α} {start result : β}
    (ok : (records ++ [record]).foldlM iteration start = .ok result) :
    ∃ middle, records.foldlM iteration start = .ok middle ∧
      iteration middle record = .ok result := by
  rw [List.foldlM_append] at ok
  obtain ⟨middle, first, ok⟩ := bind_ok.mp ok
  rw [List.foldlM_cons] at ok
  obtain ⟨final, last, ok⟩ := bind_ok.mp ok
  simp only [List.foldlM_nil, pure, Except.pure, Except.ok.injEq] at ok
  exact ⟨middle, first, ok ▸ last⟩

section Emplacing

variable {κ ν ρ : Type} [DecidableEq κ] (keyOf : ρ → κ) (valueOf : ρ → ν)
variable {iteration : FiniteMap κ ν → ρ → Result (FiniteMap κ ν)} {records : List ρ}

/-- A loop whose iterations emplace accepts what each of them accepts while there is
room. -/
theorem foldlM_emplace_ok {bound : Nat} {stored : FiniteMap κ ν}
    (accepts : ∀ (map : FiniteMap κ ν), ∀ record ∈ records, map.size < bound →
      iteration map record = .ok (map.emplace (keyOf record) (valueOf record)))
    (room : stored.size + records.length ≤ bound) :
    ∃ result, records.foldlM iteration stored = .ok result := by
  induction records generalizing stored with
  | nil => exact ⟨stored, rfl⟩
  | cons record records ih =>
      rw [List.length_cons] at room
      have first := accepts stored record List.mem_cons_self (by omega)
      have grown := FiniteMap.size_emplace_le stored (keyOf record) (valueOf record)
      have rest : ∃ result, records.foldlM iteration
          (stored.emplace (keyOf record) (valueOf record)) = .ok result :=
        ih (fun map other member => accepts map other (List.mem_cons_of_mem _ member))
          (by omega)
      simpa [List.foldlM_cons, first, bind, Except.bind] using rest

variable (emplaces : ∀ map record result, iteration map record = .ok result →
  result = map.emplace (keyOf record) (valueOf record))

include emplaces

/-- A loop that emplaces every record stores the first of each key, in their order. -/
theorem entries_foldlM_emplace {result : FiniteMap κ ν}
    (ok : records.foldlM iteration FiniteMap.empty = .ok result) :
    result.entries =
      (FiniteMap.firsts keyOf records).map fun record =>
        (keyOf record, valueOf record) := by
  induction records using List.reverseRecOn generalizing result with
  | nil =>
      simp only [List.foldlM_nil, pure, Except.pure, Except.ok.injEq] at ok
      simp [← ok, FiniteMap.firsts]
  | append_singleton records record ih =>
      obtain ⟨middle, first, last⟩ := foldlM_concat_ok ok
      have found := FiniteMap.find?_of_entries_eq (ih first) (keyOf record)
      rw [FiniteMap.find?_firsts] at found
      obtain rfl := emplaces _ _ _ last
      cases searched : records.find? (keyOf · = keyOf record) with
      | none =>
          rw [searched, Option.map_none] at found
          rw [(FiniteMap.firsts_concat_of_none searched).2,
            FiniteMap.emplace_of_find?_eq_none found, ih first, List.map_append]
          rfl
      | some earlier =>
          rw [searched, Option.map_some] at found
          rw [FiniteMap.firsts_concat_of_some searched,
            FiniteMap.emplace_of_find?_eq_some found, ih first]

theorem find?_foldlM_emplace {result : FiniteMap κ ν}
    (ok : records.foldlM iteration FiniteMap.empty = .ok result) (key : κ) :
    result.find? key = (records.find? (keyOf · = key)).map valueOf := by
  rw [FiniteMap.find?_of_entries_eq (entries_foldlM_emplace keyOf valueOf emplaces ok),
    FiniteMap.find?_firsts]

/-- What every iteration checks of the value it emplaces holds of all that is stored. -/
theorem forall_foldlM_emplace (checked : ν → Prop)
    (checks : ∀ map record result, iteration map record = .ok result →
      checked (valueOf record))
    {result : FiniteMap κ ν}
    (ok : records.foldlM iteration FiniteMap.empty = .ok result) :
    ∀ entry ∈ result.entries, checked entry.2 := by
  refine foldlM_invariant (fun map =>
    ∀ entry ∈ map.entries, checked entry.2) ?_ (by simp) ok
  intro map record result ok stored entry member
  rw [emplaces _ _ _ ok] at member
  rcases FiniteMap.mem_emplace member with old | rfl
  · exact stored entry old
  · exact checks _ _ _ ok

end Emplacing

section Devices

variable {records : List DeviceRecord} {result : FiniteMap DeviceId DeviceRecord}

/-- Valid records are accepted while the limit leaves room for them. -/
theorem foldlM_restoreDevice_ok
    (valid : ∀ record ∈ records, record.id.value ≠ 0 ∧ record.generation.value ≠ 0)
    (room : records.length ≤ limits.maxDevices) :
    ∃ result, records.foldlM (restoreDevice limits) FiniteMap.empty = .ok result := by
  apply foldlM_emplace_ok (·.id) (·) _ ((Nat.zero_add _).trans_le room)
  intro map record member below
  obtain ⟨nonNil, generation⟩ := valid record member
  simp [restoreDevice, Nat.not_le.mpr below, Id.isNil, Generation.valid,
    nonNil, generation]

variable (ok : records.foldlM (restoreDevice limits) FiniteMap.empty = .ok result)

include ok

/-- The device loop stores the first record of each identity. -/
theorem find?_foldlM_restoreDevice (id : DeviceId) :
    result.find? id = records.find? (·.id = id) := by
  rw [find?_foldlM_emplace (·.id) (·) (fun _ _ _ ok => (restoreDevice_ok ok).2.2.2) ok]
  simp

theorem entries_foldlM_restoreDevice :
    result.entries =
      (FiniteMap.firsts DeviceRecord.id records).map fun record => (record.id, record) :=
  entries_foldlM_emplace (·.id) (·) (fun _ _ _ ok => (restoreDevice_ok ok).2.2.2) ok

theorem valid_foldlM_restoreDevice :
    ∀ entry ∈ result.entries, entry.2.generation.value ≠ 0 :=
  forall_foldlM_emplace (·.id) (·) (fun _ _ _ ok => (restoreDevice_ok ok).2.2.2)
    (·.generation.value ≠ 0) (fun _ _ _ ok => (restoreDevice_ok ok).2.2.1) ok

end Devices

section Links

variable {devices : FiniteMap DeviceId DeviceRecord} {records : List LinkRecord}
variable {result : FiniteMap LinkId LinkRecord}

/-- Valid records between stored devices are accepted while the limit leaves
room for them. -/
theorem foldlM_restoreLink_ok
    (valid : ∀ record ∈ records, record.id.value ≠ 0 ∧ record.generation.value ≠ 0 ∧
      record.source ≠ record.target ∧ devices.find? record.source ≠ none ∧
      devices.find? record.target ≠ none)
    (room : records.length ≤ limits.maxLinks) :
    ∃ result, records.foldlM (restoreLink limits devices) FiniteMap.empty =
      .ok result := by
  apply foldlM_emplace_ok (·.id)
    (requireLinkRevalidation "revalidation required after durable-state restore") _
    ((Nat.zero_add _).trans_le room)
  intro map record member below
  obtain ⟨nonNil, generation, ends, source, target⟩ := valid record member
  simp [restoreLink, Nat.not_le.mpr below, Id.isNil, Generation.valid, nonNil, generation,
    ends, source, target]

variable (ok : records.foldlM (restoreLink limits devices) FiniteMap.empty = .ok result)

include ok

/-- The link loop stores the first record of each identity, to be confirmed again. -/
theorem find?_foldlM_restoreLink (id : LinkId) :
    result.find? id = (records.find? (·.id = id)).map
      (requireLinkRevalidation "revalidation required after durable-state restore") :=
  find?_foldlM_emplace (·.id) (requireLinkRevalidation _)
    (fun _ _ _ ok => (restoreLink_ok ok).2.2.2.2.2.2) ok id

theorem entries_foldlM_restoreLink :
    result.entries =
      (FiniteMap.firsts LinkRecord.id records).map fun record => (record.id,
      requireLinkRevalidation
        "revalidation required after durable-state restore" record) :=
  entries_foldlM_emplace (·.id) (requireLinkRevalidation _)
    (fun _ _ _ ok => (restoreLink_ok ok).2.2.2.2.2.2) ok

theorem valid_foldlM_restoreLink :
    ∀ entry ∈ result.entries, entry.2.generation.value ≠ 0 :=
  forall_foldlM_emplace (·.id) (requireLinkRevalidation _)
    (fun _ _ _ ok => (restoreLink_ok ok).2.2.2.2.2.2) (·.generation.value ≠ 0)
    (fun _ _ _ ok => (restoreLink_ok ok).2.2.1) ok

end Links

/-! ## Restored generations -/

@[simp] theorem requireOwnedRevalidation_generation (device : DeviceRecord) :
    (requireOwnedRevalidation device).generation = device.generation := by
  unfold requireOwnedRevalidation
  split <;> rfl

/-- A restore stores the first durable record of each identity and resets what was
observed of it. -/
theorem find?_of_restore {durable : DurableState} {restored : State}
    (ok : restoreDurableState limits ambient durable state = .ok restored) :
    (∀ id, restored.devices.find? id =
      (durable.devices.find? (·.id = id)).map requireOwnedRevalidation) ∧
    ∀ id, restored.links.find? id = (durable.links.find? (·.id = id)).map
      (stamp restored.topologyGen ∘
        requireLinkRevalidation "revalidation required after durable-state restore") := by
  obtain ⟨-, devices, links, observation, devicesOk, linksOk, rfl⟩ :=
    restoreDurableState_ok ok
  constructor
  · intro id
    rw [advance_devices, FiniteMap.find?_mapValues, find?_foldlM_restoreDevice devicesOk]
  · intro id
    simp only [advance, FiniteMap.find?_mapValues, find?_foldlM_restoreLink linksOk,
      Option.map_map]

/-- A restore stores no record with an invalid generation. -/
theorem restored_generations_valid {durable : DurableState} {restored : State}
    (ok : restoreDurableState limits ambient durable state = .ok restored) :
    (∀ entry ∈ restored.devices.entries, entry.2.generation.value ≠ 0) ∧
      ∀ entry ∈ restored.links.entries, entry.2.generation.value ≠ 0 := by
  obtain ⟨-, devices, links, observation, devicesOk, linksOk, rfl⟩ :=
    restoreDurableState_ok ok
  constructor
  · rintro ⟨key, device⟩ member
    obtain ⟨stored, storedMem, rfl⟩ := FiniteMap.mem_mapValues.mp member
    simpa using valid_foldlM_restoreDevice devicesOk (key, stored) storedMem
  · rintro ⟨key, link⟩ member
    obtain ⟨stored, storedMem, rfl⟩ := FiniteMap.mem_mapValues.mp member
    exact valid_foldlM_restoreLink linksOk (key, stored) storedMem

theorem unwrapped_of_restore {durable : DurableState} {restored : State}
    (ok : restoreDurableState limits ambient durable state = .ok restored)
    (generation : restored.topologyGen.value ≠ 0) : Unwrapped restored :=
  ⟨generation, restored_generations_valid ok⟩

theorem captured_devices_perm (ambient : Ambient) (state : State) :
    (captureDurableState ambient state).devices.Perm state.devices.values :=
  List.perm_insertionSort _ _

theorem captured_links_perm (ambient : Ambient) (state : State) :
    (captureDurableState ambient state).links.Perm state.links.values :=
  List.perm_insertionSort _ _

theorem mem_captured_device {device : DeviceRecord}
    (tables : Tables limits state.devices state.links) :
    device ∈ (captureDurableState ambient state).devices ↔
      (device.id, device) ∈ state.devices.entries := by
  rw [(captured_devices_perm ambient state).mem_iff, FiniteMap.mem_values]
  constructor
  · rintro ⟨key, member⟩
    rwa [(tables.device_key member).1]
  · exact fun member => ⟨device.id, member⟩

/-- A capture lists exactly the stored devices. -/
theorem find?_captured_device (tables : Tables limits state.devices state.links)
    (id : DeviceId) :
    (captureDurableState ambient state).devices.find? (·.id = id) =
      state.devices.find? id :=
  FiniteMap.find?_values (fun member => (tables.device_key member).1)
    (captured_devices_perm ambient state) id

/-- A capture lists exactly the stored links. -/
theorem find?_captured_link (tables : Tables limits state.devices state.links)
    (id : LinkId) :
    (captureDurableState ambient state).links.find? (·.id = id) = state.links.find? id :=
  FiniteMap.find?_values (fun member => (tables.link_key member).1)
    (captured_links_perm ambient state) id

/-- Under its own limits a coherent state without wrapped counters can be restored from
its capture, whatever became of the timestamps. -/
theorem restore_observed_ok (ambient : Ambient)
    (tables : Tables limits state.devices state.links) (unwrapped : Unwrapped state)
    (savedAt : Timestamp) (observed : LinkRecord → Timestamp) (later : Ambient)
    (fresh : State) :
    ∃ restored, restoreDurableState limits later
      { captureDurableState ambient state with
        savedAt := savedAt
        links := (captureDurableState ambient state).links.map fun link =>
          { link with lastObservation := observed link } } fresh = .ok restored := by
  obtain ⟨-, deviceGenerations, linkGenerations⟩ := unwrapped
  obtain ⟨devices, devicesOk⟩ : ∃ devices,
      (captureDurableState ambient state).devices.foldlM
      (restoreDevice limits) FiniteMap.empty = .ok devices := by
    apply foldlM_restoreDevice_ok
    · intro device member
      have stored := (mem_captured_device tables).mp member
      exact ⟨(tables.device_key stored).2, deviceGenerations _ stored⟩
    · rw [(captured_devices_perm ambient state).length_eq]
      simpa [FiniteMap.values, FiniteMap.size] using tables.device_count
  obtain ⟨links, linksOk⟩ : ∃ links, ((captureDurableState ambient state).links.map
      fun link => { link with lastObservation := observed link }).foldlM
        (restoreLink limits devices) FiniteMap.empty = .ok links := by
    apply foldlM_restoreLink_ok
    · rw [List.forall_mem_map]
      intro link member
      obtain ⟨key, stored⟩ := FiniteMap.mem_values.mp
        ((captured_links_perm ambient state).mem_iff.mp member)
      obtain ⟨sameId, nonNil⟩ := tables.link_key stored
      obtain ⟨ends, ⟨source, sourceMem⟩, ⟨target, targetMem⟩⟩ := tables.link_ends stored
      rw [find?_foldlM_restoreDevice devicesOk, find?_foldlM_restoreDevice devicesOk,
        find?_captured_device tables, find?_captured_device tables,
        FiniteMap.find?_eq_some.mpr sourceMem, FiniteMap.find?_eq_some.mpr targetMem]
      exact ⟨sameId ▸ nonNil, linkGenerations _ stored, ends, by simp, by simp⟩
    · rw [List.length_map, (captured_links_perm ambient state).length_eq]
      simpa [FiniteMap.values, FiniteMap.size] using tables.link_count
  have version : (captureDurableState ambient state).formatVersion =
      durableFormatVersion :=
    rfl
  simp [restoreDurableState, version, devicesOk, linksOk, bind, Except.bind]

theorem restore_capture_ok (tables : Tables limits state.devices state.links)
    (unwrapped : Unwrapped state) (later : Ambient) (fresh : State) :
    ∃ restored,
      restoreDurableState limits later (captureDurableState ambient state) fresh =
      .ok restored := by
  have unchanged := restore_observed_ok ambient tables unwrapped ambient.now
    LinkRecord.lastObservation later fresh
  rwa [show (fun link : LinkRecord =>
    { link with lastObservation := link.lastObservation }) =
    id from rfl, List.map_id] at unchanged

/-- The generation a restore resumes from is below the next one, and so are both of
the generations it chooses from. -/
theorem lt_next_resumed {durable current : TopologyGeneration}
    (durableBelow : durable ≠ .last) (currentBelow : current ≠ .last) :
    durable < (if durable > current then durable else current).next ∧
      current < (if durable > current then durable else current).next := by
  split
  next newer =>
    have noWrap := mt Generation.next_value_eq_zero_iff.mp durableBelow
    have above := Generation.lt_next_of_ne_zero noWrap
    exact ⟨above, lt_of_le_of_lt (le_of_lt newer) above⟩
  next notNewer =>
    have noWrap := mt Generation.next_value_eq_zero_iff.mp currentBelow
    have above := Generation.lt_next_of_ne_zero noWrap
    exact ⟨lt_of_le_of_lt (not_lt.mp notNewer) above, above⟩

/-- Restoring a capture keeps every record and nothing that was observed: owned devices
and all links have to be confirmed again, the history is empty, and the generation is
new to both registries. -/
theorem restore_capture_spec (reachable : Reachable limits state)
    (unwrapped : Unwrapped state) (later : Ambient) (current : State)
    (capturedBelow : state.topologyGen ≠ .last)
    (currentBelow : current.topologyGen ≠ .last) :
    ∃ restored,
      restoreDurableState limits later (captureDurableState ambient state) current =
        .ok restored ∧
      (∀ id, restored.devices.find? id = (state.devices.find? id).map fun device =>
        if device.ownerWorker.isSome || device.ownerBoot.isSome then
          { device with health := .revalidationRequired }
        else device) ∧
      (∀ id, restored.links.find? id = (state.links.find? id).map fun link =>
        { link with
          state := .revalidationRequired
          degraded := false
          degradationNote := "revalidation required after durable-state restore"
          topologyGeneration := restored.topologyGen }) ∧
      restored.measurementHistory = [] ∧
      state.topologyGen < restored.topologyGen ∧
      current.topologyGen < restored.topologyGen := by
  have tables := (consistent_of_reachable reachable).tables
  obtain ⟨restored, ok⟩ := restore_capture_ok tables unwrapped later current
  obtain ⟨deviceOf, linkOf⟩ := find?_of_restore ok
  obtain ⟨-, devices, links, observation, -, -, rfl⟩ := restoreDurableState_ok ok
  refine ⟨_, ok, ?_, ?_, rfl, lt_next_resumed capturedBelow currentBelow⟩
  · intro id
    rw [deviceOf, find?_captured_device tables]
    rfl
  · intro id
    rw [linkOf, find?_captured_link tables]
    rfl

/-- The worker's topology survives a restart into a fresh registry. -/
theorem restore_capture_published :
    ∃ restored,
      restoreDurableState {} {} (captureDurableState {} Worker.published) .initial =
        .ok restored ∧
      Worker.published.topologyGen < restored.topologyGen ∧
      (restored.devices.find? Worker.sourceId).isSome := by
  obtain ⟨restored, ok, devices, -, -, above, -⟩ : ∃ restored,
      restoreDurableState {} {} (captureDurableState {} Worker.published) .initial =
        .ok restored ∧ _ :=
    restore_capture_spec ⟨Worker.publication ⟨1⟩, rfl⟩ (by decide) {} .initial (by decide)
      (by decide)
  have stored : (Worker.published.devices.find? Worker.sourceId).isSome =
      true := by decide
  refine ⟨restored, ok, above, ?_⟩
  rw [devices, Option.isSome_map]
  exact stored

end NvlinkFabric.Registry

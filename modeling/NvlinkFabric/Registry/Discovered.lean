import NvlinkFabric.Registry.Invariant

/-!
# Tables filled record by record

`Discovered` describes a state by the records it holds, in the order in which they
were inserted.  Every commit stamps all links anew, so the stamps are left open;
in a coherent state they are all the current generation.
-/

namespace NvlinkFabric.Registry

variable {limits : Limits} {state : State}

/-- In a coherent state the links are stamped with the current generation. -/
theorem mapValues_stamp (consistent : Consistent limits state) :
    state.links.mapValues (stamp state.topologyGen) = state.links := by
  apply FiniteMap.mapValues_eq_self
  intro key link member
  rw [stamp, ← consistent.link_stamp member]

/-- The state holds the listed records; the stamps of the links are left open. -/
structure Discovered (devices : List DeviceRecord) (links : List LinkRecord)
    (state : State) :
    Prop where
  devices_eq : state.devices.entries = devices.map fun device => (device.id, device)
  links_eq : ∀ generation, (state.links.mapValues (stamp generation)).entries =
    links.map fun link => (link.id, stamp generation link)

theorem discovered_initial : Discovered [] [] State.initial := ⟨rfl, fun _ => rfl⟩

namespace Discovered

variable {devices : List DeviceRecord} {links : List LinkRecord}

theorem commit (found : Discovered devices links state) (observation : Observation) :
    Discovered devices links (commit limits observation state) where
  devices_eq := found.devices_eq
  links_eq generation := by
    rw [← found.links_eq generation, commit_links]
    simp [FiniteMap.mapValues, stamp]

theorem find?_device_eq (found : Discovered devices links state) (id : DeviceId) :
    state.devices.find? id = devices.find? (·.id = id) := by
  rw [FiniteMap.find?_of_entries_eq found.devices_eq, Option.map_id']

/-- Apart from its stamp, a lookup finds the listed link. -/
theorem map_stamp_find?_link (found : Discovered devices links state) (id : LinkId)
    (generation : TopologyGeneration) :
    (state.links.find? id).map (stamp generation) =
      (links.find? (·.id = id)).map (stamp generation) := by
  rw [← FiniteMap.find?_mapValues]
  exact FiniteMap.find?_of_entries_eq (found.links_eq generation) id

/-- A stored link carries the current stamp. -/
theorem find?_link_eq (found : Discovered devices links state)
    (consistent : Consistent limits state) (id : LinkId) :
    state.links.find? id = (links.find? (·.id = id)).map (stamp state.topologyGen) := by
  rw [← found.map_stamp_find?_link, ← FiniteMap.find?_mapValues,
    mapValues_stamp consistent]

theorem find?_device (found : Discovered devices links state) {id : DeviceId}
    (fresh : id ∉ devices.map (·.id)) : state.devices.find? id = none := by
  rw [found.find?_device_eq, List.find?_eq_none]
  intro device member same
  exact fresh (List.mem_map.mpr ⟨device, member, of_decide_eq_true same⟩)

theorem find?_link (found : Discovered devices links state) {id : LinkId}
    (fresh : id ∉ links.map (·.id)) : state.links.find? id = none := by
  rw [← Option.map_eq_none_iff (f := stamp {}), found.map_stamp_find?_link,
    Option.map_eq_none_iff, List.find?_eq_none]
  intro link member same
  exact fresh (List.mem_map.mpr ⟨link, member, of_decide_eq_true same⟩)

theorem emplaceDevice (found : Discovered devices links state) {device : DeviceRecord}
    (fresh : device.id ∉ devices.map (·.id)) :
    Discovered (devices ++ [device]) links
      { state with devices := state.devices.emplace device.id device } where
  devices_eq := by
    rw [FiniteMap.emplace_of_find?_eq_none (found.find?_device fresh), found.devices_eq]
    simp
  links_eq := found.links_eq

theorem emplaceLink (found : Discovered devices links state) {link : LinkRecord}
    (fresh : link.id ∉ links.map (·.id)) :
    Discovered devices (links ++ [link])
      { state with links := state.links.emplace link.id link } where
  devices_eq := found.devices_eq
  links_eq generation := by
    have stored := found.links_eq generation
    simp only [FiniteMap.mapValues] at stored ⊢
    rw [FiniteMap.emplace_of_find?_eq_none (found.find?_link fresh),
      List.map_append, stored]
    simp

theorem size_devices (found : Discovered devices links state) :
    state.devices.size = devices.length := by
  rw [FiniteMap.size, found.devices_eq, List.length_map]

theorem size_links (found : Discovered devices links state) :
    state.links.size = links.length := by
  rw [← FiniteMap.size_mapValues state.links (stamp {}), FiniteMap.size, found.links_eq,
    List.length_map]

@[simp] theorem sameUnordered_stamp (generation : TopologyGeneration)
    (link other : LinkRecord) :
    sameUnordered link (stamp generation other) = sameUnordered link other := rfl

theorem parallelCount_eq (found : Discovered devices links state) (link : LinkRecord) :
    parallelCount link state.links = links.countP (sameUnordered link) := by
  have entries := congrArg (List.countP fun entry => sameUnordered link entry.2)
    (found.links_eq {})
  simpa [parallelCount, FiniteMap.values, FiniteMap.mapValues, List.countP_map,
    Function.comp_def] using entries

end Discovered

end NvlinkFabric.Registry

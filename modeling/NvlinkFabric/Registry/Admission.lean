import NvlinkFabric.Registry.RecordGenerations
import NvlinkFabric.Registry.Refusals
import NvlinkFabric.Registry.Discovered

/-!
# Admission by restore and by upsert

A restore keeps the first record of every identity and looks at no other bound than
the sizes of the tables.  Upserting the same records one by one compares each with
the stored one and bounds the links of a pair.  Both admit the same records exactly
if repeated records are replays and no pair of devices has too many links.

Of a repeated record that is newer than the first one, an upsert keeps the newer:
the generation of the first record has been overtaken, which no later upsert undoes.
-/

namespace NvlinkFabric.Registry

open Transition FiniteMap

variable {limits : Limits} {ambient : Ambient} {state next : State}

section Overtaken

variable {κ ρ : Type} {tag : Tag} [DecidableEq κ]

/-- The first record of some identity is older than what is stored under it. -/
def Overtaken (keyOf : ρ → κ) (generation : ρ → Generation tag)
    (stored : κ → Option (Generation tag)) (records : List ρ) : Prop :=
  ∃ first ∈ firsts keyOf records, ∃ reached,
    stored (keyOf first) = some reached ∧ generation first < reached

variable {keyOf : ρ → κ} {generation : ρ → Generation tag}
variable {before after : κ → Option (Generation tag)} {records : List ρ} {record : ρ}

theorem mem_firsts_concat {first : ρ} (member : first ∈ firsts keyOf records) :
    first ∈ firsts keyOf (records ++ [record]) := by
  rw [firsts_concat]
  split
  · exact member
  · exact List.mem_append_left _ member

/-- A newer record of the same identity overtakes the first one. -/
theorem overtaken_of_newer {first : ρ} (member : first ∈ firsts keyOf records)
    (same : keyOf first = keyOf record) (newer : generation first < generation record)
    (written : ∀ key, after key =
      if key = keyOf record then some (generation record) else before key) :
    Overtaken keyOf generation after (records ++ [record]) :=
  ⟨first, mem_firsts_concat member,
    generation record, by rw [written, if_pos same], newer⟩

/-- An upsert never goes back, so overtaken records stay overtaken. -/
theorem Overtaken.upsert (overtaken : Overtaken keyOf generation before records)
    (notOlder : ∀ stored ∈ before (keyOf record), stored ≤ generation record)
    (written : ∀ key, after key =
      if key = keyOf record then some (generation record) else before key) :
    Overtaken keyOf generation after (records ++ [record]) := by
  obtain ⟨first, member, reached, stored, older⟩ := overtaken
  have kept : first ∈ firsts keyOf (records ++ [record]) := mem_firsts_concat member
  by_cases same : keyOf first = keyOf record
  · have later := notOlder reached (same ▸ stored)
    exact ⟨first, kept, generation record, by rw [written, if_pos same],
      lt_of_lt_of_le older later⟩
  · exact ⟨first, kept, reached, by rw [written, if_neg same, stored], older⟩

/-- A table that holds the first records holds no overtaken one. -/
theorem not_overtaken
    (stored : ∀ key, before key = (records.find? (keyOf · = key)).map generation) :
    ¬Overtaken keyOf generation before records := by
  rintro ⟨first, member, reached, found, older⟩
  rw [stored, find?_of_mem_firsts member, Option.map_some, Option.some.injEq] at found
  exact absurd found (ne_of_lt older)

end Overtaken

/-- The topology generation after committing a number of records. -/
def generationAfter (count : Nat) : TopologyGeneration := Generation.next^[count] ⟨1⟩

theorem generationAfter_succ (count : Nat) :
    generationAfter (count + 1) = (generationAfter count).next :=
  Function.iterate_succ_apply' _ _ _

/-- A registry that holds the first records of two lists and committed nothing else. -/
structure Filled (limits : Limits) (devices : List DeviceRecord) (links : List LinkRecord)
    (state : State) : Prop where
  reachable : Reachable limits state
  found : Discovered (firsts (·.id) devices) (firsts (·.id) links) state
  generation : state.topologyGen =
    generationAfter ((firsts (·.id) devices).length + (firsts (·.id) links).length)

theorem filled_initial : Filled limits [] [] State.initial :=
  ⟨Reachable.refl _ _, discovered_initial, rfl⟩

/-- Calls for one more record are the calls for the others and one call. -/
theorem calls_concat {ρ : Type} {operationOf : ρ → Operation}
    {records : List ρ} {record : ρ} {calls : List Call}
    (operations : calls.map (·.operation) = (records ++ [record]).map operationOf) :
    ∃ before ambient, calls = before ++ [⟨operationOf record, ambient⟩] ∧
      before.map (·.operation) = records.map operationOf := by
  rw [List.map_append] at operations
  obtain ⟨before, last, rfl, beforeOps, lastOps⟩ := List.map_eq_append_iff.mp operations
  cases last with
  | nil => simp at lastOps
  | cons call rest =>
      obtain ⟨operation, ambient⟩ := call
      obtain ⟨rfl, rfl⟩ : operation = operationOf record ∧
          rest = [] := by simpa using lastOps
      exact ⟨before, ambient, rfl, beforeOps⟩

/-- The call of a run is accepted. -/
abbrev Accepts (limits : Limits) (state : State) (call : Call) : Prop :=
  accepted limits call state = true

/-- Records of one identity are all the same. -/
def Replayed (records : List DeviceRecord) : Prop :=
  ∀ left ∈ records, ∀ right ∈ records, left.id = right.id → left = right

instance (records : List DeviceRecord) : Decidable (Replayed records) :=
  inferInstanceAs (Decidable (∀ left ∈ records, ∀ right ∈ records, _))

theorem replayed_concat {records : List DeviceRecord} {device : DeviceRecord} :
    Replayed (records ++ [device]) ↔
      Replayed records ∧ ∀ other ∈ records, other.id = device.id → other = device := by
  constructor
  · intro replayed
    exact ⟨fun left leftMem right rightMem =>
      replayed left (List.mem_append_left _ leftMem) right
        (List.mem_append_left _ rightMem),
      fun other member => replayed other (List.mem_append_left _ member) device
        (List.mem_append_right _ (List.mem_singleton_self _))⟩
  · rintro ⟨replayed, same⟩ left leftMem right rightMem equal
    rcases List.mem_append.mp leftMem with leftOld | leftNew
    · rcases List.mem_append.mp rightMem with rightOld | rightNew
      · exact replayed left leftOld right rightOld equal
      · obtain rfl := List.mem_singleton.mp rightNew
        exact same left leftOld equal
    · obtain rfl := List.mem_singleton.mp leftNew
      rcases List.mem_append.mp rightMem with rightOld | rightNew
      · exact (same right rightOld equal.symm).symm
      · exact (List.mem_singleton.mp rightNew).symm

/-- The stored record of an identity that has occurred is one of the list. -/
theorem Filled.find?_device {records : List DeviceRecord} {links : List LinkRecord}
    (filled : Filled limits records links state) (id : DeviceId) :
    state.devices.find? id = records.find? (·.id = id) := by
  rw [filled.found.find?_device_eq, find?_firsts]

/-- After the first records of a list, an accepted one is new, a replay, or overtakes. -/
theorem upsertDevice_filled {records : List DeviceRecord} {device : DeviceRecord}
    (filled : Filled limits records [] state) (replayed : Replayed records)
    (ok : apply limits ⟨.upsertDevice device, ambient⟩ state = .ok next) :
    (∃ first ∈ firsts DeviceRecord.id records, first.id = device.id ∧
        first.generation < device.generation) ∨
      Replayed (records ++ [device]) ∧ Filled limits (records ++ [device]) [] next := by
  have reachable : Reachable limits next := step_of_apply_ok ok ▸ filled.reachable.next _
  have outcome := upsertDevice_ok ok
  rw [filled.find?_device] at outcome
  obtain ⟨-, -, ⟨stored, rfl⟩ | ⟨absent, -, observation, rfl⟩ |
    ⟨current, stored, newer, -⟩⟩ := outcome
  · right
    have listed := List.mem_of_find?_eq_some stored
    refine ⟨replayed_concat.mpr ⟨replayed, fun other member =>
      replayed other member device
      listed⟩, reachable, ?_, ?_⟩
    · rw [firsts_concat_of_some stored]
      exact filled.found
    · rw [firsts_concat_of_some stored]
      exact filled.generation
  · right
    obtain ⟨fresh, extended⟩ := firsts_concat_of_none absent
    refine ⟨replayed_concat.mpr ⟨replayed, fun other member same => ?_⟩,
      reachable, ?_, ?_⟩
    · simpa [same] using List.find?_eq_none.mp absent other member
    · rw [extended]
      exact (filled.found.emplaceDevice fresh).commit observation
    · rw [extended, List.length_append, List.length_singleton, Nat.add_right_comm,
        generationAfter_succ, ← filled.generation]
      rfl
  · have same : current.id = device.id := by simpa using List.find?_some stored
    exact .inl ⟨current, mem_firsts_of_find? stored, same, newer⟩

/-- A restored record that replays the list is accepted. -/
theorem upsertDevice_admitted (ambient : Ambient) {records : List DeviceRecord}
    {device : DeviceRecord} (filled : Filled limits records [] state)
    (replayed : Replayed (records ++ [device])) (nonNil : device.id.value ≠ 0)
    (valid : device.generation.value ≠ 0)
    (room : (firsts DeviceRecord.id records).length < limits.maxDevices) :
    ∃ next, apply limits ⟨.upsertDevice device, ambient⟩ state = .ok next := by
  cases stored : state.devices.find? device.id with
  | none =>
      obtain ⟨observation, ok⟩ := upsertDevice_newer ambient nonNil valid
        (by rwa [filled.found.size_devices]) (by simp [generationOf, stored])
      exact ⟨_, ok⟩
  | some current =>
      have found := stored
      rw [filled.find?_device] at found
      have same : current.id = device.id := by simpa using List.find?_some found
      obtain rfl := (replayed_concat.mp replayed).2 current
        (List.mem_of_find?_eq_some found) same
      refine ⟨state, ?_⟩
      simp [apply, upsertDevice, stored, nonNil, valid, Id.isNil,
        Generation.valid, deviceEqual]

/-- The calls that upsert a list of devices either overtake a first record, or have been
given replays only; replays are all accepted. -/
theorem devices_admitted {records : List DeviceRecord} {calls : List Call}
    {restored : FiniteMap DeviceId DeviceRecord}
    (operations : calls.map (·.operation) = records.map .upsertDevice)
    (ok : records.foldlM (restoreDevice limits) FiniteMap.empty = .ok restored) :
    (Along (step limits) (Accepts limits) .initial calls →
      Overtaken DeviceRecord.id (·.generation) (generationOf (run limits .initial calls))
          records ∨
        Replayed records ∧ Filled limits records [] (run limits .initial calls)) ∧
      (Replayed records →
        Along (step limits) (Accepts limits) .initial calls ∧
          Filled limits records [] (run limits .initial calls)) := by
  induction records using List.reverseRecOn generalizing calls restored with
  | nil =>
      obtain rfl := List.map_eq_nil_iff.mp operations
      exact ⟨fun _ => .inr ⟨by simp [Replayed], filled_initial⟩,
        fun _ => ⟨trivial, filled_initial⟩⟩
  | append_singleton records device ih =>
      obtain ⟨before, ambient, rfl, beforeOps⟩ := calls_concat operations
      obtain ⟨middle, firstOk, lastOk⟩ := foldlM_concat_ok ok
      obtain ⟨room, nonNil, valid, -⟩ := restoreDevice_ok lastOk
      rw [FiniteMap.size, entries_foldlM_restoreDevice firstOk, List.length_map] at room
      obtain ⟨forward, backward⟩ := ih beforeOps firstOk
      rw [along_append, run, run_append, along_cons, run_cons, run_nil]
      constructor
      · rintro ⟨earlier, acceptedNow, -⟩
        obtain ⟨next, applied⟩ := accepted_iff.mp acceptedNow
        rw [step_of_apply_ok applied]
        obtain ⟨notOlder, written⟩ := generationOf_upsert applied
        rcases forward earlier with overtaken | ⟨replayed, filled⟩
        · exact .inl (overtaken.upsert notOlder written)
        · rcases upsertDevice_filled filled replayed applied with
            ⟨first, member, same, newer⟩ | extended
          · exact .inl (overtaken_of_newer member same newer written)
          · exact .inr extended
      · intro replayed
        obtain ⟨earlier, filled⟩ := backward (replayed_concat.mp replayed).1
        obtain ⟨next, applied⟩ :=
          upsertDevice_admitted ambient filled replayed nonNil valid room
        rw [step_of_apply_ok applied]
        refine ⟨⟨earlier, accepted_of_ok applied, trivial⟩, ?_⟩
        obtain ⟨replays, same⟩ := replayed_concat.mp replayed
        rcases upsertDevice_filled filled replays applied with
          ⟨first, member, sameId, newer⟩ | ⟨-, extended⟩
        · obtain rfl := same first (mem_of_mem_firsts member) sameId
          exact absurd newer (lt_irrefl _)
        · exact extended

/-! ## Links -/

/-- The pair of the link has room after the first records of `before`, and a repeated
link is the first one as the registry has stamped it. -/
def AdmitsLink (limits : Limits) (deviceCount : Nat) (before : List LinkRecord)
    (link : LinkRecord) : Prop :=
  (firsts (·.id) before).countP (sameUnordered link) < limits.maxParallelLinksPerPair ∧
    ∀ first ∈ before.find? (·.id = link.id),
      link = stamp (generationAfter (deviceCount + (firsts (·.id) before).length)) first

/-- The stored link of an identity that has occurred is the first one, stamped. -/
theorem Filled.find?_link {devices : List DeviceRecord} {records : List LinkRecord}
    (filled : Filled limits devices records state) (id : LinkId) :
    state.links.find? id = (records.find? (·.id = id)).map (stamp state.topologyGen) := by
  rw [filled.found.find?_link_eq (consistent_of_reachable filled.reachable), find?_firsts]

/-- After the first records of a list, an accepted link is new, a replay, or overtakes. -/
theorem upsertLink_filled {devices : List DeviceRecord} {records : List LinkRecord}
    {link : LinkRecord} (filled : Filled limits devices records state)
    (ok : apply limits ⟨.upsertLink link, ambient⟩ state = .ok next) :
    (∃ first ∈ firsts LinkRecord.id records, first.id = link.id ∧
        first.generation < link.generation) ∨
      AdmitsLink limits (firsts DeviceRecord.id devices).length records link ∧
        Filled limits devices (records ++ [link]) next := by
  have reachable : Reachable limits next := step_of_apply_ok ok ▸ filled.reachable.next _
  have outcome := upsertLink_ok ok
  rw [filled.find?_link, filled.found.parallelCount_eq] at outcome
  obtain ⟨⟨-, -, -, -, -, -, parallel⟩, ⟨stored, rfl⟩ | ⟨absent, observation, rfl⟩ |
    ⟨current, stored, newer, -⟩⟩ := outcome
  · right
    obtain ⟨first, listed, stamped⟩ := Option.map_eq_some_iff.mp stored
    refine ⟨⟨parallel, fun other otherListed => ?_⟩, reachable, ?_, ?_⟩
    · obtain rfl : first = other := Option.some.inj (listed.symm.trans otherListed)
      rw [← filled.generation, stamped]
    · rw [firsts_concat_of_some listed]
      exact filled.found
    · rw [firsts_concat_of_some listed]
      exact filled.generation
  · right
    rw [Option.map_eq_none_iff] at absent
    obtain ⟨fresh, extended⟩ := firsts_concat_of_none absent
    refine ⟨⟨parallel, by simp [absent]⟩, reachable, ?_, ?_⟩
    · rw [extended]
      exact (filled.found.emplaceLink fresh).commit observation
    · rw [extended, List.length_append, List.length_singleton, ← Nat.add_assoc,
        generationAfter_succ, ← filled.generation]
      rfl
  · obtain ⟨first, listed, rfl⟩ := Option.map_eq_some_iff.mp stored
    have same : first.id = link.id := by simpa using List.find?_some listed
    exact .inl ⟨first, mem_firsts_of_find? listed, same, newer⟩

/-- A link that the list admits passes an upsert if it passed the checks of a restore. -/
theorem upsertLink_admitted (ambient : Ambient) {devices : List DeviceRecord}
    {records : List LinkRecord} {link : LinkRecord}
    (filled : Filled limits devices records state)
    (admits : AdmitsLink limits (firsts DeviceRecord.id devices).length records link)
    (nonNil : link.id.value ≠ 0) (valid : link.generation.value ≠ 0)
    (ends : link.source ≠ link.target)
    (source : devices.find? (·.id = link.source) ≠ none)
    (target : devices.find? (·.id = link.target) ≠ none)
    (room : (firsts LinkRecord.id records).length < limits.maxLinks) :
    ∃ next, apply limits ⟨.upsertLink link, ambient⟩ state = .ok next := by
  rw [← filled.find?_device] at source target
  rw [← filled.found.size_links] at room
  obtain ⟨parallel, replays⟩ := admits
  rw [← filled.found.parallelCount_eq] at parallel
  cases searched : records.find? (·.id = link.id) with
  | none =>
      obtain ⟨observation, ok⟩ :=
        upsertLink_fresh ambient link nonNil valid ends source target
        room parallel (by rw [filled.find?_link, searched, Option.map_none])
      exact ⟨_, ok⟩
  | some first =>
      have same := replays first searched
      have stored : state.links.find? link.id = some link := by
        rw [filled.find?_link, searched, Option.map_some, filled.generation, ← same]
      refine ⟨state, ?_⟩
      simp [apply, upsertLink, stored, nonNil, valid, Id.isNil,
        Generation.valid, linkEqual, ends, source, target, Nat.not_le.mpr room,
        Nat.not_le.mpr parallel]

/-- The calls that upsert a list of links either overtake a first record, or have been
given admitted links only; admitted links are all accepted. -/
theorem links_admitted {devices : List DeviceRecord} {records : List LinkRecord}
    {calls : List Call} {start : State} {table : FiniteMap DeviceId DeviceRecord}
    {restored : FiniteMap LinkId LinkRecord}
    (operations : calls.map (·.operation) = records.map .upsertLink)
    (known : ∀ id, table.find? id = devices.find? (·.id = id))
    (ok : records.foldlM (restoreLink limits table) FiniteMap.empty = .ok restored)
    (filled : Filled limits devices [] start) :
    (Along (step limits) (Accepts limits) start calls →
      Overtaken LinkRecord.id (·.generation) (linkGenerationOf (run limits start calls))
          records ∨
        AtEach (AdmitsLink limits (firsts DeviceRecord.id devices).length) records ∧
          Filled limits devices records (run limits start calls)) ∧
      (AtEach (AdmitsLink limits (firsts DeviceRecord.id devices).length) records →
        Along (step limits) (Accepts limits) start calls ∧
          Filled limits devices records (run limits start calls)) := by
  induction records using List.reverseRecOn generalizing calls restored with
  | nil =>
      obtain rfl := List.map_eq_nil_iff.mp operations
      exact ⟨fun _ => .inr ⟨by simp [AtEach], filled⟩, fun _ => ⟨trivial, filled⟩⟩
  | append_singleton records link ih =>
      obtain ⟨before, ambient, rfl, beforeOps⟩ := calls_concat operations
      obtain ⟨middle, firstOk, lastOk⟩ := foldlM_concat_ok ok
      obtain ⟨room, nonNil, valid, ends, source, target, -⟩ := restoreLink_ok lastOk
      rw [FiniteMap.size, entries_foldlM_restoreLink firstOk, List.length_map] at room
      rw [known] at source target
      obtain ⟨forward, backward⟩ := ih beforeOps firstOk
      rw [along_append, run, run_append, along_cons, run_cons, run_nil, atEach_concat]
      constructor
      · rintro ⟨earlier, acceptedNow, -⟩
        obtain ⟨next, applied⟩ := accepted_iff.mp acceptedNow
        rw [step_of_apply_ok applied]
        obtain ⟨notOlder, written⟩ := linkGenerationOf_upsert applied
        rcases forward earlier with overtaken | ⟨admitted, reached⟩
        · exact .inl (overtaken.upsert notOlder written)
        · rcases upsertLink_filled reached applied with
            ⟨first, member, same, newer⟩ | ⟨admits, extended⟩
          · exact .inl (overtaken_of_newer member same newer written)
          · exact .inr ⟨⟨admitted, admits⟩, extended⟩
      · rintro ⟨admitted, admits⟩
        obtain ⟨earlier, reached⟩ := backward admitted
        obtain ⟨next, applied⟩ :=
          upsertLink_admitted ambient reached admits nonNil valid ends
          source target room
        rw [step_of_apply_ok applied]
        refine ⟨⟨earlier, accepted_of_ok applied, trivial⟩, ?_⟩
        rcases upsertLink_filled reached applied with
          ⟨first, member, same, newer⟩ | ⟨-, extended⟩
        · have listed := find?_of_mem_firsts member
          rw [same] at listed
          rw [admits.2 first listed] at newer
          exact absurd newer (lt_irrefl _)
        · exact extended

theorem step_upsertLink_devices (link : LinkRecord) :
    (step limits state ⟨.upsertLink link, ambient⟩).devices = state.devices := by
  cases result : apply limits ⟨.upsertLink link, ambient⟩ state with
  | error error => rw [step_of_apply_error result]
  | ok next =>
      rw [step_of_apply_ok result]
      exact devices_of_ok rfl result

/-- Upserts of links leave the devices as they are. -/
theorem run_upsertLinks_devices {records : List LinkRecord} {calls : List Call}
    (operations : calls.map (·.operation) = records.map .upsertLink) (start : State) :
    (run limits start calls).devices = start.devices := by
  induction records using List.reverseRecOn generalizing calls with
  | nil =>
      obtain rfl := List.map_eq_nil_iff.mp operations
      rfl
  | append_singleton records link ih =>
      obtain ⟨before, ambient, rfl, beforeOps⟩ := calls_concat operations
      rw [run, run_append, run_cons, run_nil, step_upsertLink_devices]
      exact ih beforeOps

/-- Links of the same two devices count the same links. -/
theorem sameUnordered_congr {left right : LinkRecord}
    (same : sameUnordered left right = true) :
    sameUnordered left = sameUnordered right := by
  funext other
  simp only [sameUnordered, Bool.or_eq_true, Bool.and_eq_true, decide_eq_true_eq] at same
  rcases same with ⟨source, target⟩ | ⟨source, target⟩
  · simp only [sameUnordered, source, target]
  · simp only [sameUnordered, source, target]
    rw [Bool.or_comm]

/-- Links that are admitted one by one respect the bound of every pair. -/
theorem countP_firsts_le {deviceCount : Nat} {records : List LinkRecord}
    (admitted : AtEach (AdmitsLink limits deviceCount) records) (link : LinkRecord) :
    (firsts (·.id) records).countP (sameUnordered link) ≤
      limits.maxParallelLinksPerPair := by
  induction records using List.reverseRecOn with
  | nil => simp [firsts]
  | append_singleton records last ih =>
      obtain ⟨earlier, room, -⟩ := atEach_concat.mp admitted
      have bound := ih earlier
      rw [firsts_concat]
      split
      · exact bound
      · rw [List.countP_append, List.countP_singleton]
        split
        next same =>
          rw [sameUnordered_congr same]
          omega
        next => omega

/-! ## Restore against upserts -/

/-- Two registries hold the same records, apart from what a restore resets. -/
def SameRecords (left right : State) : Prop :=
  (∀ id, (left.devices.find? id).map requireOwnedRevalidation =
    (right.devices.find? id).map requireOwnedRevalidation) ∧
  ∀ id, (left.links.find? id).map (stamp {} ∘ requireLinkRevalidation []) =
    (right.links.find? id).map (stamp {} ∘ requireLinkRevalidation [])

/-- A restore admitted what the calls, which upsert the same records, admit: all of them
are accepted and lead to the same records, no pair has too many links, and no record of
the durable state was dropped in favour of another one. -/
structure AdmitsAsUpserted (limits : Limits) (durable : DurableState) (calls : List Call)
    (restored : State) : Prop where
  accepted : Along (step limits) (Accepts limits) .initial calls
  same : SameRecords restored (run limits .initial calls)
  bounded : ∀ link, parallelCount link restored.links ≤ limits.maxParallelLinksPerPair
  device_kept : ∀ device ∈ durable.devices,
    restored.devices.find? device.id = some (requireOwnedRevalidation device)
  link_kept : ∀ link ∈ durable.links,
    (restored.links.find? link.id).map (stamp {} ∘ requireLinkRevalidation []) =
      some (stamp {} (requireLinkRevalidation [] link))

/-- Repeated devices are replays, and the links are admitted one by one. -/
def Admissible (limits : Limits) (durable : DurableState) : Prop :=
  Replayed durable.devices ∧
    AtEach (AdmitsLink limits (firsts DeviceRecord.id durable.devices).length)
      durable.links

theorem requireOwnedRevalidation_idem (device : DeviceRecord) :
    requireOwnedRevalidation (requireOwnedRevalidation device) =
      requireOwnedRevalidation device := by
  by_cases owned : (device.ownerWorker.isSome || device.ownerBoot.isSome) = true
  · simp [requireOwnedRevalidation, owned]
  · simp [requireOwnedRevalidation, owned]

section Restored

variable {durable : DurableState} {restored upserted : State}

/-- The first records are what a restore stores. -/
theorem Filled.sameRecords
    (ok : restoreDurableState limits ambient durable state = .ok restored)
    (filled : Filled limits durable.devices durable.links upserted) :
    SameRecords restored upserted := by
  obtain ⟨devices, links⟩ := find?_of_restore ok
  constructor
  · intro id
    rw [devices, filled.find?_device, Option.map_map]
    congr 1
    funext device
    exact requireOwnedRevalidation_idem device
  · intro id
    rw [links, filled.find?_link, Option.map_map, Option.map_map]
    rfl

/-- A registry in which a first record was overtaken differs from the restored one. -/
theorem SameRecords.not_overtaken
    (ok : restoreDurableState limits ambient durable state = .ok restored)
    (same : SameRecords restored upserted) :
    ¬Overtaken DeviceRecord.id (·.generation) (generationOf upserted) durable.devices ∧
      ¬Overtaken LinkRecord.id (·.generation) (linkGenerationOf upserted)
        durable.links := by
  obtain ⟨devices, links⟩ := restored_generation ok
  constructor
  · apply Registry.not_overtaken
    intro id
    have equal := congrArg (Option.map (·.generation)) (same.1 id)
    simp only [Option.map_map, Function.comp_def,
      requireOwnedRevalidation_generation] at equal
    exact equal.symm.trans (devices id)
  · apply Registry.not_overtaken
    intro id
    have equal := congrArg (Option.map (·.generation)) (same.2 id)
    simp only [Option.map_map, Function.comp_def, stamp, requireLinkRevalidation] at equal
    exact equal.symm.trans (links id)

/-- The links of a pair, counted in the restored table. -/
theorem parallelCount_of_restore
    (ok : restoreDurableState limits ambient durable state = .ok restored)
    (link : LinkRecord) :
    parallelCount link restored.links =
      (firsts (·.id) durable.links).countP (sameUnordered link) := by
  obtain ⟨-, devices, links, observation, -, linksOk, rfl⟩ := restoreDurableState_ok ok
  simp only [parallelCount, FiniteMap.values, advance, FiniteMap.mapValues,
    entries_foldlM_restoreLink linksOk, List.map_map, List.countP_map]
  rfl

theorem Admissible.device_kept (admissible : Admissible limits durable)
    {device : DeviceRecord} (member : device ∈ durable.devices) :
    durable.devices.find? (·.id = device.id) = some device := by
  cases searched : durable.devices.find? (·.id = device.id) with
  | none => simpa using List.find?_eq_none.mp searched device member
  | some first =>
      have same : first.id = device.id := by simpa using List.find?_some searched
      rw [admissible.1 first (List.mem_of_find?_eq_some searched) device member same]

theorem AdmitsLink.link_kept {deviceCount : Nat} {records : List LinkRecord}
    (admitted : AtEach (AdmitsLink limits deviceCount) records) {link : LinkRecord}
    (member : link ∈ records) :
    (records.find? (·.id = link.id)).map (stamp {}) = some (stamp {} link) := by
  obtain ⟨before, after, rfl⟩ := List.append_of_mem member
  have admits := admitted before link ⟨after, by simp⟩
  rw [List.find?_append]
  cases searched : before.find? (·.id = link.id) with
  | none => simp
  | some first =>
      rw [Option.some_or, Option.map_some, admits.2 first searched]
      rfl

theorem Filled.admitsAsUpserted {calls : List Call}
    (ok : restoreDurableState limits ambient durable state = .ok restored)
    (admissible : Admissible limits durable)
    (along : Along (step limits) (Accepts limits) .initial calls)
    (filled : Filled limits durable.devices durable.links (run limits .initial calls)) :
    AdmitsAsUpserted limits durable calls restored := by
  obtain ⟨devices, links⟩ := find?_of_restore ok
  refine ⟨along, filled.sameRecords ok, ?_, ?_, ?_⟩
  · intro link
    rw [parallelCount_of_restore ok]
    exact countP_firsts_le admissible.2 link
  · intro device member
    rw [devices, admissible.device_kept member, Option.map_some]
  · intro link member
    have kept := congrArg (Option.map (requireLinkRevalidation []))
      (AdmitsLink.link_kept admissible.2 member)
    rw [links, Option.map_map]
    rwa [Option.map_map] at kept

/-- A restore admits exactly what upserts of the same records admit if repeated devices
are replays, repeated links are what the registry has stored of the first ones, and no
link is one too many for its pair. -/
theorem restore_admitsAsUpserted_iff {calls : List Call}
    (ok : restoreDurableState limits ambient durable state = .ok restored)
    (operations : calls.map (·.operation) =
      durable.devices.map .upsertDevice ++ durable.links.map .upsertLink) :
    AdmitsAsUpserted limits durable calls restored ↔ Admissible limits durable := by
  obtain ⟨deviceCalls, linkCalls, rfl, deviceOps, linkOps⟩ :=
    List.map_eq_append_iff.mp operations
  obtain ⟨-, devices, links, observation, devicesOk, linksOk, -⟩ :=
    restoreDurableState_ok ok
  have known := find?_foldlM_restoreDevice devicesOk
  obtain ⟨devicesForward, devicesBackward⟩ := devices_admitted deviceOps devicesOk
  constructor
  · intro admits
    have along := admits.accepted
    have same := admits.same
    rw [along_append] at along
    rw [run, run_append] at same
    obtain ⟨devicesCurrent, linksCurrent⟩ := same.not_overtaken ok
    rcases devicesForward along.1 with overtaken | ⟨replayed, filled⟩
    · refine absurd overtaken ?_
      unfold generationOf at devicesCurrent ⊢
      rwa [run_upsertLinks_devices linkOps] at devicesCurrent
    · rcases (links_admitted linkOps known linksOk filled).1 along.2 with
        overtaken | ⟨admitted, -⟩
      · exact absurd overtaken linksCurrent
      · exact ⟨replayed, admitted⟩
  · intro admissible
    obtain ⟨devicesAlong, devicesFilled⟩ := devicesBackward admissible.1
    obtain ⟨linksAlong, linksFilled⟩ :=
      (links_admitted linkOps known linksOk devicesFilled).2 admissible.2
    refine Filled.admitsAsUpserted ok admissible ?_ ?_
    · exact (along_append _).mpr ⟨devicesAlong, linksAlong⟩
    · rw [run, run_append]
      exact linksFilled

end Restored

/-- The calls that upsert the records of a durable state. -/
def upserts (durable : DurableState) : List Call :=
  durable.devices.map (⟨.upsertDevice ·, {}⟩) ++ durable.links.map (⟨.upsertLink ·, {}⟩)

/-- Two devices, the first of them listed twice, and a link between them. -/
def repeatedDevice : DurableState where
  devices := [{ id := ⟨1⟩, generation := ⟨1⟩ }, { id := ⟨1⟩, generation := ⟨1⟩ },
    { id := ⟨2⟩, generation := ⟨1⟩ }]
  links := [{ id := ⟨3⟩, source := ⟨1⟩, target := ⟨2⟩, generation := ⟨1⟩ }]

theorem repeatedDevice_admitsAsUpserted :
    ∃ restored, restoreDurableState {} {} repeatedDevice .initial = .ok restored ∧
      AdmitsAsUpserted {} repeatedDevice (upserts repeatedDevice) restored := by
  refine ⟨_, rfl, (restore_admitsAsUpserted_iff rfl rfl).mpr ⟨by decide, ?_⟩⟩
  change AtEach _ ([] ++ [_])
  rw [atEach_concat]
  exact ⟨by simp [AtEach], by decide, by simp⟩

/-- Two devices of one identity and one generation that contradict each other. -/
def contradictoryDevices : DurableState where
  devices := [{ id := ⟨1⟩, generation := ⟨1⟩ },
    { id := ⟨1⟩, generation := ⟨1⟩, health := .present }]

/-- A restore drops the second of two contradictory devices; an upsert refuses it. -/
theorem contradictoryDevices_dropped :
    ¬∀ (limits : Limits) (ambient : Ambient) (durable : DurableState)
      (state restored : State) (calls : List Call),
      restoreDurableState limits ambient durable state = .ok restored →
      calls.map (·.operation) =
        durable.devices.map .upsertDevice ++ durable.links.map .upsertLink →
      AdmitsAsUpserted limits durable calls restored := by
  intro always
  have admits :=
    always {} {} contradictoryDevices .initial _ (upserts contradictoryDevices)
    rfl rfl
  exact absurd admits.accepted (by decide)

end NvlinkFabric.Registry

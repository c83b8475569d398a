import NvlinkFabric.Route.Decision
import NvlinkFabric.Registry.Discovered

/-!
# The order of discovery

Accepted upserts of new identities only add records, and every one of them stamps
all links with the generation it advances to.  What is left of the order is the
iteration order of the two tables, which a snapshot sorts away.
-/

namespace NvlinkFabric

/-- Sorting by identity forgets the order of records with distinct identities. -/
theorem sortById_eq_of_perm {α : Type} {tag : Tag} {idOf : α → Id tag}
    {left right : List α} (perm : left.Perm right) (distinct : (left.map idOf).Nodup) :
    left.insertionSort (fun first second => idOf first ≤ idOf second) =
      right.insertionSort fun first second => idOf first ≤ idOf second := by
  have total : Std.Total fun first second : α => idOf first ≤ idOf second := by
    constructor
    intro first second
    simp only [Id.le_iff]
    omega
  have trans : IsTrans α fun first second => idOf first ≤ idOf second := by
    constructor
    intro first second third
    simp only [Id.le_iff]
    omega
  have sortedLeft :=
    List.pairwise_insertionSort (fun first second => idOf first ≤ idOf second)
    left
  have sortedRight := List.pairwise_insertionSort
    (fun first second => idOf first ≤ idOf second) right
  apply List.Perm.eq_of_pairwise _ sortedLeft sortedRight
  · exact (List.perm_insertionSort _ _).trans
      (perm.trans (List.perm_insertionSort _ _).symm)
  · intro first second firstMem secondMem below above
    rw [List.mem_insertionSort] at firstMem secondMem
    rw [Id.le_iff] at below above
    have same : idOf first = idOf second := Id.eq_iff.mpr (by omega)
    exact List.inj_on_of_nodup_map distinct firstMem (perm.mem_iff.mpr secondMem) same

namespace Registry

open Transition

variable {limits : Limits} {state : State}

/-- The operation inserts or updates one record. -/
def Operation.isUpsert : Operation → Bool
  | .upsertDevice _ | .upsertLink _ => true
  | _ => false

/-- Devices upserted by a list of operations. -/
def upsertedDevices (operations : List Operation) : List DeviceRecord :=
  operations.filterMap fun
    | .upsertDevice device => some device
    | _ => none

/-- Links upserted by a list of operations. -/
def upsertedLinks (operations : List Operation) : List LinkRecord :=
  operations.filterMap fun
    | .upsertLink link => some link
    | _ => none

namespace Discovered

variable {devices : List DeviceRecord} {links : List LinkRecord}

/-- An accepted upsert of a new identity adds its record and takes one generation. -/
theorem step {call : Call} (found : Discovered devices links state)
    (upsert : call.operation.isUpsert = true) (ok : accepted limits call state = true)
    (deviceIds : ((devices ++ upsertedDevices [call.operation]).map (·.id)).Nodup)
    (linkIds : ((links ++ upsertedLinks [call.operation]).map (·.id)).Nodup) :
    Discovered (devices ++ upsertedDevices [call.operation])
        (links ++ upsertedLinks [call.operation]) (Registry.step limits state call) ∧
      (Registry.step limits state call).topologyGen = state.topologyGen.next := by
  cases result : apply limits call state with
  | error error => simp [accepted_of_error result] at ok
  | ok next =>
      rw [step_of_apply_ok result]
      cases call with
      | mk operation ambient =>
          cases operation with
          | upsertDevice device =>
              have fresh : device.id ∉ devices.map (·.id) := by
                rw [List.map_append, List.nodup_append'] at deviceIds
                exact fun old => deviceIds.2.2 old (by simp [upsertedDevices])
              have absent := found.find?_device fresh
              obtain ⟨-, -, ⟨stored, -⟩ | ⟨-, -, observation, rfl⟩ | ⟨current,
                  stored, -⟩⟩ :=
                upsertDevice_ok result
              · simp [absent] at stored
              · simp only [upsertedDevices, upsertedLinks, List.filterMap_cons,
                  List.filterMap_nil, List.append_nil]
                exact ⟨(found.emplaceDevice fresh).commit observation, rfl⟩
              · simp [absent] at stored
          | upsertLink link =>
              have fresh : link.id ∉ links.map (·.id) := by
                rw [List.map_append, List.nodup_append'] at linkIds
                exact fun old => linkIds.2.2 old (by simp [upsertedLinks])
              have absent := found.find?_link fresh
              obtain ⟨-, ⟨stored, -⟩ | ⟨-, observation, rfl⟩ | ⟨current, stored, -⟩⟩ :=
                upsertLink_ok result
              · simp [absent] at stored
              · simp only [upsertedDevices, upsertedLinks, List.filterMap_cons,
                  List.filterMap_nil, List.append_nil]
                exact ⟨(found.emplaceLink fresh).commit observation, rfl⟩
              · simp [absent] at stored
          | _ => simp [Operation.isUpsert] at upsert

/-- A run of accepted upserts of distinct identities adds their records in turn. -/
theorem run {calls : List Call} (found : Discovered devices links state)
    (upserts : ∀ call ∈ calls, call.operation.isUpsert = true)
    (ok : Along (Registry.step limits) (fun state call =>
      accepted limits call state = true)
      state calls)
    (deviceIds : ((devices ++ upsertedDevices (calls.map (·.operation))).map
      (·.id)).Nodup)
    (linkIds : ((links ++ upsertedLinks (calls.map (·.operation))).map (·.id)).Nodup) :
    Discovered (devices ++ upsertedDevices (calls.map (·.operation)))
        (links ++ upsertedLinks (calls.map (·.operation)))
          (Registry.run limits state calls) ∧
      (Registry.run limits state calls).topologyGen =
        Generation.next^[calls.length] state.topologyGen := by
  induction calls generalizing devices links state with
  | nil => simpa [upsertedDevices, upsertedLinks] using found
  | cons call calls ih =>
      have splitDevices : upsertedDevices ((call :: calls).map (·.operation)) =
          upsertedDevices [call.operation] ++ upsertedDevices (calls.map (·.operation)) :=
        List.filterMap_append (l := [call.operation])
      have splitLinks : upsertedLinks ((call :: calls).map (·.operation)) =
          upsertedLinks [call.operation] ++ upsertedLinks (calls.map (·.operation)) :=
        List.filterMap_append (l := [call.operation])
      rw [splitDevices, ← List.append_assoc] at deviceIds ⊢
      rw [splitLinks, ← List.append_assoc] at linkIds ⊢
      have firstDevices := deviceIds.sublist ((List.sublist_append_left _ _).map _)
      have firstLinks := linkIds.sublist ((List.sublist_append_left _ _).map _)
      obtain ⟨foundNext, generation⟩ := found.step (upserts call List.mem_cons_self) ok.1
        firstDevices firstLinks
      have rest := ih foundNext
        (fun later member => upserts later (List.mem_cons_of_mem _ member)) ok.2 deviceIds
        linkIds
      rw [generation] at rest
      exact rest

end Discovered

/-- The snapshot of discovered records depends on their identities alone, not on their
order. -/
theorem buildSnapshot_eq_of_perm {left right : State}
    {leftDevices rightDevices : List DeviceRecord}
    {leftLinks rightLinks : List LinkRecord} (leftConsistent : Consistent limits left)
    (rightConsistent : Consistent limits right)
    (leftFound : Discovered leftDevices leftLinks left)
    (rightFound : Discovered rightDevices rightLinks right)
    (generation : left.topologyGen = right.topologyGen)
    (devices : leftDevices.Perm rightDevices) (links : leftLinks.Perm rightLinks)
    (deviceIds : (leftDevices.map (·.id)).Nodup)
    (linkIds : (leftLinks.map (·.id)).Nodup) :
    buildSnapshot left = buildSnapshot right := by
  have deviceValues {records : List DeviceRecord} {links : List LinkRecord}
      {state : State}
      (found : Discovered records links state) : state.devices.values = records := by
    simp [FiniteMap.values, found.devices_eq, Function.comp_def]
  have linkValues {devices : List DeviceRecord} {records : List LinkRecord}
      {state : State}
      (consistent : Consistent limits state) (found : Discovered devices records state) :
      state.links.values = records.map (stamp state.topologyGen) := by
    rw [← mapValues_stamp consistent, FiniteMap.values, found.links_eq]
    simp [Function.comp_def]
  have sortedDevices : leftDevices.insertionSort (fun left right => left.id ≤ right.id) =
      rightDevices.insertionSort fun left right => left.id ≤ right.id :=
    sortById_eq_of_perm devices deviceIds
  have sortedLinks : (leftLinks.map (stamp right.topologyGen)).insertionSort
        (fun left right => left.id ≤ right.id) =
      (rightLinks.map (stamp right.topologyGen)).insertionSort
        fun left right => left.id ≤ right.id :=
    sortById_eq_of_perm (links.map _) (by simpa [Function.comp_def, stamp] using linkIds)
  simp only [buildSnapshot, deviceValues leftFound, deviceValues rightFound,
    linkValues leftConsistent leftFound,
    linkValues rightConsistent rightFound, generation,
    sortedDevices, sortedLinks]

/-- What a decision says, apart from its own identity, clock and evidence. -/
structure SameDecision (left right : RouteDecision) : Prop where
  outcome : left.outcome = right.outcome
  candidatesConsidered : left.candidatesConsidered = right.candidatesConsidered
  rejected : left.rejected = right.rejected
  selected : left.selected = right.selected
  executable : left.executable = right.executable

/-- States with the same view give the same decision. -/
theorem decideRoute_congr {left right : State}
    (view : consistentView left = consistentView right)
    (leftAmbient rightAmbient : Ambient) (source target : DeviceId)
    (policy : RoutePolicy) :
    ∃ leftDecision rightDecision,
      decideRoute limits leftAmbient source target policy left = .ok leftDecision ∧
      decideRoute limits rightAmbient source target policy right = .ok rightDecision ∧
      SameDecision leftDecision rightDecision := by
  unfold decideRoute decideRouteWith decideRouteFrom
  simp only [view]
  split
  · exact ⟨_, _, rfl, rfl, rfl, rfl, rfl, rfl, rfl⟩
  · exact ⟨_, _, rfl, rfl, rfl, rfl, rfl, rfl, rfl⟩
  · split
    · exact ⟨_, _, rfl, rfl, rfl, rfl, rfl, rfl, rfl⟩
    · split
      · exact ⟨_, _, rfl, rfl, rfl, rfl, rfl, rfl, rfl⟩
      · exact ⟨_, _, rfl, rfl, rfl, rfl, rfl, rfl, rfl⟩

/-- Two orders of the same accepted upserts of distinct identities end in the same
generation and snapshot, and so in the same paths and decisions. -/
theorem discovery_order_irrelevant {first second : List Call}
    (same : (first.map (·.operation)).Perm (second.map (·.operation)))
    (upserts : ∀ call ∈ first, call.operation.isUpsert = true)
    (deviceIds : ((upsertedDevices (first.map (·.operation))).map (·.id)).Nodup)
    (linkIds : ((upsertedLinks (first.map (·.operation))).map (·.id)).Nodup)
    (firstAccepted : Along (step limits) (fun state call =>
      accepted limits call state = true)
      .initial first)
    (secondAccepted : Along (step limits)
      (fun state call => accepted limits call state = true) .initial second) :
    (run limits .initial first).topologyGen = (run limits .initial second).topologyGen ∧
      buildSnapshot (run limits .initial first) =
        buildSnapshot (run limits .initial second) ∧
      ∀ (history : List MeasurementRecord) (source target : DeviceId),
        enumeratePaths limits source target
            { run limits .initial first with measurementHistory := history } =
          enumeratePaths limits source target
            { run limits .initial second with measurementHistory := history } ∧
        ∀ (policy : RoutePolicy) (firstAmbient secondAmbient : Ambient),
          ∃ firstDecision secondDecision,
            decideRoute limits firstAmbient source target policy
                { run limits .initial first with measurementHistory := history } =
              .ok firstDecision ∧
            decideRoute limits secondAmbient source target policy
                { run limits .initial second with measurementHistory := history } =
              .ok secondDecision ∧
            SameDecision firstDecision secondDecision := by
  have secondUpserts : ∀ call ∈ second, call.operation.isUpsert = true := by
    intro call member
    have listed := same.mem_iff.mpr (List.mem_map_of_mem member)
    obtain ⟨other, otherMem, equal⟩ := List.mem_map.mp listed
    rw [← equal]
    exact upserts other otherMem
  have devices : (upsertedDevices (first.map (·.operation))).Perm
      (upsertedDevices (second.map (·.operation))) := same.filterMap _
  have links : (upsertedLinks (first.map (·.operation))).Perm
      (upsertedLinks (second.map (·.operation))) := same.filterMap _
  obtain ⟨firstFound, firstGeneration⟩ := discovered_initial.run upserts firstAccepted
    deviceIds linkIds
  obtain ⟨secondFound, secondGeneration⟩ := discovered_initial.run secondUpserts
    secondAccepted ((devices.map _).nodup_iff.mp deviceIds)
      ((links.map _).nodup_iff.mp linkIds)
  have generation : (run limits .initial first).topologyGen =
      (run limits .initial second).topologyGen := by
    have lengths : first.length = second.length := by simpa using same.length_eq
    rw [firstGeneration, secondGeneration, lengths]
  have snapshot := buildSnapshot_eq_of_perm (consistent_of_reachable ⟨first, rfl⟩)
    (consistent_of_reachable ⟨second, rfl⟩) firstFound secondFound
      generation devices links
    deviceIds linkIds
  refine ⟨generation, snapshot, fun history source target => ?_⟩
  have view : consistentView { run limits .initial first with
                               measurementHistory := history } =
      consistentView { run limits .initial second with measurementHistory := history } :=
    congrArg (ConsistentView.mk · history) snapshot
  refine ⟨?_, fun policy firstAmbient secondAmbient =>
    decideRoute_congr view firstAmbient secondAmbient source target policy⟩
  simp only [enumeratePaths, view]

/-- The worker's topology, its devices in the other order. -/
def swappedPublication : List Call :=
  [⟨.upsertDevice (Worker.targetDevice ⟨1⟩), {}⟩,
    ⟨.upsertDevice (Worker.sourceDevice ⟨1⟩), {}⟩, ⟨.upsertLink (Worker.link ⟨1⟩ {}), {}⟩]

/-- The worker's two devices can be published in either order. -/
theorem discovery_order_published :
    buildSnapshot Worker.published =
      buildSnapshot (run {} .initial swappedPublication) := by
  have same : ((Worker.publication ⟨1⟩).map (·.operation)).Perm
      (swappedPublication.map (·.operation)) := List.Perm.swap _ _ _
  have ordered : (run {} .initial (Worker.publication ⟨1⟩)).topologyGen = _ ∧ _ :=
    discovery_order_irrelevant same (by decide) (by decide) (by decide)
      (by decide) (by decide)
  exact ordered.2.1

end Registry

end NvlinkFabric

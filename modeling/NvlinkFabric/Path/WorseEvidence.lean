import NvlinkFabric.Path.Rating
import NvlinkFabric.Registry.Effects

/-!
# Evidence that gets worse

Two registries are compared of which the second knows worse of one path: links are
marked as degraded and the latest measurement as contended, and nothing else differs.
The search finds the same candidates in both, and their quality differs only in what
is counted as degraded or contended.
-/

namespace NvlinkFabric

section Enumeration

variable {left right : TopologySnapshot} {source target : DeviceId}

/-- A path records the technology of its links only. -/
theorem foundPath_congr (technology : ∀ id, (left.findLink id).map (·.technology) =
      (right.findLink id).map (·.technology)) (elements : List PathElement) :
    foundPath left source target elements = foundPath right source target elements := by
  have counted : countNvlink left elements = countNvlink right elements := by
    simp only [countNvlink]
    congr 1
    funext element
    cases element with
    | device id => rfl
    | link id =>
        have same := congrArg (Option.any (· = .nvlink)) (technology id)
        simpa only [Option.any_map, Function.comp_def] using same
  simp only [foundPath, counted]

theorem dfs_congr (adjacency : buildAdjacency left = buildAdjacency right)
    (found : ∀ elements, foundPath left source target elements =
      foundPath right source target elements) (limits : Limits) (budget : Nat) :
    dfs left source target limits budget = dfs right source target limits budget := by
  induction budget with
  | zero => rfl
  | succ budget ih =>
      have edge : dfsEdge left source target limits
          (dfs left source target limits budget) =
          dfsEdge right source target limits (dfs right source target limits budget) := by
        funext elements visited out edge
        simp only [dfsEdge, found, ih]
      funext current elements visited out
      simp only [dfs, adjacency, edge]

/-- The search reads the adjacency lists, the technology of links and the kind of
devices. -/
theorem enumeratePathsImpl_congr (adjacency : buildAdjacency left = buildAdjacency right)
    (technology : ∀ id, (left.findLink id).map (·.technology) =
      (right.findLink id).map (·.technology))
    (devices : ∀ id, left.findDevice id = right.findDevice id) (limits : Limits) :
    enumeratePathsImpl left source target limits =
      enumeratePathsImpl right source target limits := by
  have switch : markSwitch left = markSwitch right := by
    funext path
    simp only [markSwitch, devices]
  simp only [enumeratePathsImpl, switch, dfs_congr adjacency (foundPath_congr technology)]

end Enumeration

/-- The link is marked as degraded, by its flag or by a move from an active state. -/
structure LinkRecord.Worsened (before after : LinkRecord) : Prop where
  others : after =
    { before with
      state := after.state
      degraded := after.degraded
      degradationNote := after.degradationNote
      generation := after.generation
      lastObservation := after.lastObservation
      topologyGeneration := after.topologyGeneration }
  state : after.state = before.state ∨ before.state.isActive = true ∧
    after.state = .degraded
  degraded : before.degraded = true → after.degraded = true

/-- The measurement is marked as contended, by a publication of its own identity and
time. -/
structure MeasurementRecord.Worsened (before after : MeasurementRecord) : Prop where
  others : after =
    { before with
      id := after.id
      measuredAt := after.measuredAt
      contended := after.contended }
  contended : before.contended = true → after.contended = true

/-- The second registry knows worse of the path. -/
structure Registry.Worsened (path : Path) (before after : Registry.State) : Prop where
  devices : after.devices = before.devices
  links : ∀ id, Option.Rel LinkRecord.Worsened (before.links.find? id)
    (after.links.find? id)
  measured : Option.Rel MeasurementRecord.Worsened
    (bestMeasurement before.measurementHistory path)
    (bestMeasurement after.measurementHistory path)

/-- A test that cannot tell an active state from a degraded one. -/
theorem LinkRecord.Worsened.state_test {first second : LinkRecord}
    (worse : first.Worsened second) (test : LinkOperationalState → Bool)
    (up : test .degraded = test .up) (present : test .degraded = test .present)
    (supported : test .degraded = test .supported) :
    test second.state = test first.state := by
  rcases worse.state with same | ⟨was, now⟩
  · rw [same]
  · simp only [LinkOperationalState.isActive, Bool.or_eq_true, decide_eq_true_eq] at was
    rcases was with (was | was) | was
    · rw [was, now, up]
    · rw [was, now, present]
    · rw [was, now, supported]

/-- What a worse record leaves alone agrees in the records of one link, if there are
any. -/
theorem LinkRecord.Worsened.map_eq {left right : Option LinkRecord}
    (worse : Option.Rel LinkRecord.Worsened left right) {β : Type}
    (field : LinkRecord → β) (kept : ∀ first second : LinkRecord, first.Worsened second →
      field second = field first) :
    right.map field = left.map field := by
  cases worse with
  | none => rfl
  | some worse => exact congrArg some (kept _ _ worse)

theorem LinkRecord.Worsened.of_stamp (record : LinkRecord)
    (generation : TopologyGeneration) :
    record.Worsened (Registry.stamp generation record) where
  others := rfl
  state := .inl rfl
  degraded := fun was => was

theorem MeasurementRecord.Worsened.refl (record : MeasurementRecord) :
    record.Worsened record where
  others := rfl
  contended := fun was => was

namespace Registry

/-- `update_link_state` with the evidence of the link and a worse state or flag. -/
theorem worsened_updateLinkState {limits : Limits} {ambient : Ambient}
    {state next : State} {id : LinkId} {current : LinkRecord}
    {linkState : LinkOperationalState} {degraded : Bool} {note : Text} (path : Path)
    (found : state.links.find? id = some current) (moved : linkState = current.state ∨
      current.state.isActive = true ∧ linkState = .degraded)
    (kept : current.degraded = true → degraded = true)
    (ok : updateLinkState limits ambient id linkState current.evidence
      degraded note state =
      .ok next) : Worsened path state next := by
  obtain ⟨stored, same, observation, rfl⟩ := updateLinkState_ok ok
  obtain rfl := Option.some.inj (found.symm.trans same)
  refine ⟨rfl, ?_, ?_⟩
  · intro key
    rw [commit_links, FiniteMap.find?_mapValues]
    by_cases same : key = id
    · subst same
      rw [found, FiniteMap.find?_assign_self found]
      exact .some ⟨rfl, moved, kept⟩
    · rw [FiniteMap.find?_assign_of_ne same]
      cases state.links.find? key with
      | none => exact .none
      | some other => exact .some (.of_stamp _ _)
  · rw [commit_measurementHistory]
    cases bestMeasurement state.measurementHistory path with
    | none => exact .none
    | some best => exact .some (.refl best)

end Registry

/-! ## The same candidates in worse states -/

variable {limits : Limits} {before after : Registry.State} {path : Path}
variable {source target : DeviceId}

namespace Registry.Worsened

/-- A stored link worsens one that was stored before. -/
theorem stored (worse : Worsened path before after) {key : LinkId} {link : LinkRecord}
    (found : (key, link) ∈ after.links.entries) :
    ∃ old, (key, old) ∈ before.links.entries ∧ old.Worsened link := by
  have related := worse.links key
  rw [FiniteMap.find?_eq_some.mpr found] at related
  cases was : before.links.find? key with
  | none => simp [was] at related
  | some old =>
      rw [was, Option.rel_some_some] at related
      exact ⟨old, FiniteMap.find?_eq_some.mp was, related⟩

/-- The worse state is coherent in the sizes it has. -/
theorem tables (worse : Worsened path before after)
    (coherent : Tables limits before.devices before.links) :
    Tables { limits with maxLinks := after.links.size } after.devices after.links where
  device_key := by
    rw [worse.devices]
    exact coherent.device_key
  link_key := by
    intro key link found
    obtain ⟨old, was, related⟩ := worse.stored found
    have keyed := coherent.link_key was
    rw [related.others]
    exact keyed
  link_ends := by
    intro key link found
    obtain ⟨old, was, related⟩ := worse.stored found
    have ends := coherent.link_ends was
    rw [related.others, worse.devices]
    exact ends
  device_count := by
    rw [worse.devices]
    exact coherent.device_count
  link_count := Nat.le_refl _

theorem findLink (worse : Worsened path before after)
    (coherent : Tables limits before.devices before.links) (id : LinkId) :
    Option.Rel LinkRecord.Worsened ((buildSnapshot before).findLink id)
      ((buildSnapshot after).findLink id) := by
  rw [findLink_buildSnapshot coherent, findLink_buildSnapshot (worse.tables coherent)]
  exact worse.links id

theorem findDevice (worse : Worsened path before after)
    (coherent : Tables limits before.devices before.links) (id : DeviceId) :
    (buildSnapshot after).findDevice id = (buildSnapshot before).findDevice id := by
  rw [findDevice_buildSnapshot coherent, findDevice_buildSnapshot (worse.tables coherent),
    worse.devices]

/-- The ends and the direction of links are as they were. -/
theorem leaves (worse : Worsened path before after) (current : DeviceId) (edge : Edge) :
    Leaves after current edge ↔ Leaves before current edge := by
  have related := worse.links edge.link
  simp only [Leaves]
  generalize before.links.find? edge.link = first at related ⊢
  generalize after.links.find? edge.link = second at related ⊢
  cases related with
  | none => rfl
  | some worse =>
      simp only [Option.some.injEq, exists_eq_left']
      rw [worse.others]

theorem adjacency (worse : Worsened path before after)
    (coherent : Tables limits before.devices before.links) :
    buildAdjacency (buildSnapshot after) = buildAdjacency (buildSnapshot before) := by
  funext current
  have sorted := adjacency_increasing coherent current
  have sortedAfter := adjacency_increasing (worse.tables coherent) current
  have distinct {edges : List Edge}
      (sorted : edges.Pairwise fun left right => left.link < right.link) :
        edges.Nodup := by
    apply sorted.imp
    rintro left right less rfl
    exact absurd less (by simp [Id.lt_iff])
  have perm : (buildAdjacency (buildSnapshot after) current).Perm
      (buildAdjacency (buildSnapshot before) current) := by
    rw [List.perm_ext_iff_of_nodup (distinct sortedAfter) (distinct sorted)]
    intro edge
    rw [mem_adjacency coherent, mem_adjacency (worse.tables coherent), worse.leaves]
  apply perm.eq_of_pairwise _ sortedAfter sorted
  intro first second firstMem secondMem below above
  rw [Id.lt_iff] at below above
  omega

/-- The search finds the same candidates. -/
theorem enumerate (worse : Worsened path before after)
    (coherent : Tables limits before.devices before.links) (bounds : Limits) :
    enumeratePathsImpl (buildSnapshot after) source target bounds =
      enumeratePathsImpl (buildSnapshot before) source target bounds := by
  apply enumeratePathsImpl_congr (worse.adjacency coherent)
  · intro id
    apply LinkRecord.Worsened.map_eq (worse.findLink coherent id)
    intro first second worse
    rw [worse.others]
  · exact worse.findDevice coherent

end Registry.Worsened

/-- The nominal bandwidth is folded over the bandwidth of the links. -/
theorem scanLinks_nominal_congr {left right : TopologySnapshot}
    (bandwidth : ∀ id, (left.findLink id).map (·.capability.nominalBandwidthBps) =
      (right.findLink id).map (·.capability.nominalBandwidthBps)) (path : Path) :
    (scanLinks left path).nominal = (scanLinks right path).nominal ∧
      (scanLinks left path).haveNominal = (scanLinks right path).haveNominal := by
  apply List.foldl_rel (r := fun first second : LinkScan =>
    first.nominal = second.nominal ∧ first.haveNominal = second.haveNominal) ⟨rfl, rfl⟩
  rintro element - first second ⟨nominal, known⟩
  cases element with
  | device id => exact ⟨nominal, known⟩
  | link id =>
      have same := bandwidth id
      cases foundLeft : left.findLink id <;> cases foundRight : right.findLink id <;>
        simp only [foundLeft, foundRight, Option.map_none, Option.map_some,
          Option.some.injEq, reduceCtorEq] at same
      · simpa only [LinkScan.element, foundLeft, foundRight] using ⟨nominal, known⟩
      · simp only [LinkScan.element, foundLeft, foundRight, LinkScan.visit, same, nominal,
          and_self]

namespace Registry.Worsened

theorem any_eq (worse : Worsened path before after)
    (coherent : Tables limits before.devices before.links) (test : LinkRecord → Bool)
    (kept : ∀ first second : LinkRecord, first.Worsened second → test second = test first)
    (id : LinkId) :
    ((buildSnapshot after).findLink id).any test =
      ((buildSnapshot before).findLink id).any test := by
  have same := LinkRecord.Worsened.map_eq (worse.findLink coherent id) test kept
  have raised := congrArg (Option.any fun passed => passed) same
  simpa only [Option.any_map] using raised

/-- A test that worse records pass alike. -/
theorem someLink_eq (worse : Worsened path before after)
    (coherent : Tables limits before.devices before.links) (test : LinkRecord → Bool)
    (kept : ∀ first second : LinkRecord, first.Worsened second →
      test second = test first) :
    someLink (buildSnapshot after) path test =
      someLink (buildSnapshot before) path test := by
  simp only [someLink, worse.any_eq coherent test kept]

/-- What the measurement says besides contention is as it was. -/
theorem measured_eq (worse : Worsened path before after) {β : Type}
    (field : MeasurementRecord → β)
    (kept : ∀ first second : MeasurementRecord, first.Worsened second →
      field second = field first) :
    (bestMeasurement after.measurementHistory path).map field =
      (bestMeasurement before.measurementHistory path).map field := by
  have measured := worse.measured
  generalize bestMeasurement before.measurementHistory path = first at measured ⊢
  generalize bestMeasurement after.measurementHistory path = second at measured ⊢
  cases measured with
  | none => rfl
  | some related => exact congrArg some (kept _ _ related)

end Registry.Worsened

/-- Links are counted as down or as degraded if one is. -/
theorem candidate_counts {topo : TopologySnapshot}
    (member : path ∈ enumeratePathsImpl topo source target limits) :
    decide (0 < (scanLinks topo path).downLinks) = someLink topo path (·.state.isDown) ∧
      decide (0 < (scanLinks topo path).degradedLinks) =
        someLink topo path (·.isDegraded) := by
  have tested (test : LinkRecord → Bool) (missing : Bool) :=
    any_elementTest (fun _ => candidate_link member) test missing
  have counted (count : Nat) (raised : Bool) :
      decide (0 < if raised then count + 1 else count) =
        (decide (0 < count) || raised) := by
    cases raised <;> simp
  constructor
  · rw [← tested _ true]
    exact foldl_flag (decide <| 0 < ·.downLinks) _ true (fun scan _ =>
      counted scan.downLinks _)
      (fun _ => by simp) _ _
  · rw [← tested _ false]
    exact foldl_flag (decide <| 0 < ·.degradedLinks) _ false
      (fun scan _ => counted scan.degradedLinks _) (fun _ => by simp) _ _

end NvlinkFabric

import NvlinkFabric.Route.Decision

/-!
# Routes over parallel links

A topology whose links all run between the same two devices has one candidate
path per link.  Under the default policy a path whose link awaits revalidation
is rejected, so a single current link decides the route.
-/

namespace NvlinkFabric

variable {topo : TopologySnapshot} {source target : DeviceId} {limits : Limits}

/-- Every link runs from `source` to `target`. -/
def Parallel (topo : TopologySnapshot) (source target : DeviceId) : Prop :=
  ∀ link ∈ topo.links, link.source = source ∧ link.target = target

/-- The elements of a path over one link. -/
def directElements (source target : DeviceId) (link : LinkId) : List PathElement :=
  [.device source, .link link, .device target]

/-- The path over one link. -/
def directPath (topo : TopologySnapshot) (source target : DeviceId)
    (link : LinkId) : Path :=
  markSwitch topo (foundPath topo source target (directElements source target link))

@[simp] theorem directPath_elements (link : LinkId) :
    (directPath topo source target link).elements =
      directElements source target link := rfl

@[simp] theorem directPath_hopCount (link : LinkId) :
    (directPath topo source target link).hopCount = 1 := by
  simp [directPath, markSwitch, foundPath, directElements]

@[simp] theorem directPath_links (link : LinkId) :
    (directPath topo source target link).links = [link] := rfl

/-- Parallel links contribute one edge each to the device they start from. -/
theorem mem_buildAdjacency (parallel : Parallel topo source target)
    (distinct : source ≠ target) {edge : Edge} :
    edge ∈ buildAdjacency topo source ↔
      ∃ link ∈ topo.links, edge = ⟨link.id, target⟩ := by
  simp only [buildAdjacency, List.mem_insertionSort, List.mem_flatMap]
  refine exists_congr fun link => and_congr_right fun member => ?_
  obtain ⟨starts, ends⟩ := parallel link member
  simp [linkEdges, starts, ends, distinct.symm]

theorem length_buildAdjacency (parallel : Parallel topo source target)
    (distinct : source ≠ target) :
    (buildAdjacency topo source).length = topo.links.length := by
  have single : ∀ link ∈ topo.links, (linkEdges source link).length = 1 := by
    intro link member
    obtain ⟨starts, ends⟩ := parallel link member
    simp [linkEdges, starts, ends, distinct.symm]
  rw [buildAdjacency, List.length_insertionSort, List.length_flatMap,
    List.map_congr_left single]
  simp

/-- Edges that reach the target are recorded one after the other while the output
has room. -/
theorem foldl_dfsEdge_direct
    {descend : DeviceId → List PathElement → List DeviceId → List Path → List Path}
    {edges : List Edge} {out : List Path} (distinct : source ≠ target)
    (direct : ∀ edge ∈ edges, edge.dest = target)
    (room : out.length + edges.length ≤ limits.maxCandidatePaths) :
    edges.foldl (dfsEdge topo source target limits descend [.device source]
      [source]) out =
      out ++ edges.map fun edge =>
        foundPath topo source target (directElements source target edge.link) := by
  induction edges generalizing out with
  | nil => simp
  | cons edge edges ih =>
      rw [List.length_cons] at room
      have reaches := direct edge List.mem_cons_self
      have below : ¬out.length ≥ limits.maxCandidatePaths := by omega
      have recorded : dfsEdge topo source target limits descend
          [.device source] [source] out
          edge = out ++ [foundPath topo source target
            (directElements source target edge.link)] := by
        simp [dfsEdge, reaches, distinct.symm, below, directElements]
      rw [List.foldl_cons, recorded,
        ih (fun other member => direct other (List.mem_cons_of_mem _ member))
          (by simp only [List.length_append, List.length_cons, List.length_nil]; omega)]
      simp

/-- The candidates over parallel links are the paths over one of them. -/
theorem mem_enumerate_parallel (parallel : Parallel topo source target)
    (distinct : source ≠ target) (sourceKnown : source.value ≠ 0)
    (targetKnown : target.value ≠ 0)
    (room : topo.links.length ≤ limits.maxCandidatePaths) {path : Path} :
    path ∈ enumeratePathsImpl topo source target limits ↔
      ∃ link ∈ topo.links, path = directPath topo source target link.id := by
  have edges := length_buildAdjacency parallel distinct
  have direct : ∀ edge ∈ buildAdjacency topo source, edge.dest = target := by
    intro edge member
    obtain ⟨link, -, rfl⟩ := (mem_buildAdjacency parallel distinct).mp member
    rfl
  have searched : dfs topo source target limits (limits.maxPathDepth + 1) source
      [.device source] [source] [] = (buildAdjacency topo source).map fun edge =>
        foundPath topo source target (directElements source target edge.link) := by
    rw [dfs]
    split
    next full =>
      have none : buildAdjacency topo source = [] := by
        rw [← List.length_eq_zero_iff, edges]
        rw [List.length_nil] at full
        omega
      simp [none]
    · rw [foldl_dfsEdge_direct distinct direct (by simpa [edges] using room),
        List.nil_append]
  rw [enumeratePathsImpl, searched]
  simp only [Id.isNil, beq_iff_eq, sourceKnown, targetKnown, distinct, Bool.or_eq_true,
    decide_eq_true_eq, or_self, if_false, List.mem_map]
  constructor
  · rintro ⟨found, ⟨edge, member, rfl⟩, rfl⟩
    obtain ⟨link, linkMem, rfl⟩ := (mem_buildAdjacency parallel distinct).mp member
    exact ⟨link, linkMem, rfl⟩
  · rintro ⟨link, member, rfl⟩
    exact ⟨_, ⟨_, (mem_buildAdjacency parallel distinct).mpr ⟨link, member, rfl⟩, rfl⟩,
      rfl⟩

/-- A link that carries traffic: it is up, not degraded and declares a bandwidth. -/
structure Current (link : LinkRecord) : Prop where
  up : link.state = .up
  sound : link.degraded = false
  bandwidth : 0 < link.capability.nominalBandwidthBps

section Quality

variable {measurements : List MeasurementRecord} {id : LinkId} {link : LinkRecord}
variable (source target)

theorem scanLinks_direct (found : topo.findLink id = some link) :
    scanLinks topo (directPath topo source target id) =
      LinkScan.visit
        { nvlinkSegments := (directPath topo source target id).nvlinkSegments } link := by
  simp only [scanLinks, directPath_elements, directElements, List.foldl_cons,
    List.foldl_nil, LinkScan.element, found]

/-- A path over a current link is healthy, unless a contended measurement says
otherwise. -/
theorem quality_direct (found : topo.findLink id = some link) (current : Current link)
    (uncontended : ∀ measurement ∈ measurements, measurement.contended = false) :
    (computeQuality topo measurements (directPath topo source target id)).outcome =
      .healthy ∧
      (computeQuality topo measurements (directPath topo source target id)).stale =
        false ∧
      (computeQuality topo measurements (directPath topo source target id)).downLinks =
        0 := by
  have scanned := scanLinks_direct source target found
  have best (test : MeasurementRecord → Bool)
      (fails : ∀ measurement ∈ measurements, measurement.stale = false →
        test measurement = false) :
      (bestMeasurement measurements (directPath topo source target id)).any
        test = false := by
    cases chosen : bestMeasurement measurements (directPath topo source target id) with
    | none => rfl
    | some measurement =>
        obtain ⟨member, -, fresh⟩ := bestMeasurement_mem chosen
        exact fails measurement member fresh
  have notContended := best (·.contended) fun measurement member _ =>
    uncontended measurement member
  have notStale := best (·.stale) fun _ _ fresh => fresh
  have positive : link.capability.nominalBandwidthBps > 0 := current.bandwidth
  simp [computeQuality, scanned, notContended, notStale, LinkScan.visit, qualityOutcome,
    current.up, current.sound, positive, LinkOperationalState.isDown,
    LinkOperationalState.needsRevalidation]

/-- The default policy accepts a path over a current link. -/
theorem accepted_direct (found : topo.findLink id = some link) (current : Current link)
    (uncontended : ∀ measurement ∈ measurements, measurement.contended = false) :
    hardRejection .defaultPolicy topo (directPath topo source target id)
      (computeQuality topo measurements (directPath topo source target id)) = none := by
  obtain ⟨healthy, fresh, up⟩ := quality_direct source target found current uncontended
  simp [hardRejection, RoutePolicy.defaultPolicy, rejectUnsupportedLink,
    found, current.up, LinkOperationalState.isSupportedState, rejectNotFresh, healthy,
    fresh, rejectIf, up]

/-- The default policy rejects a path whose link awaits revalidation. -/
theorem rejected_direct (found : topo.findLink id = some link)
    (lapsed : link.state = .revalidationRequired) (quality : PathQuality) :
    hardRejection .defaultPolicy topo (directPath topo source target id)
      quality ≠ none := by
  simp [hardRejection, RoutePolicy.defaultPolicy, rejectUnsupportedLink, found, lapsed,
    LinkOperationalState.isSupportedState]

end Quality

namespace Registry

variable {state : State}

/-- Over parallel links, a current one is routed if all others await revalidation. -/
theorem decideRoute_direct {current : LinkRecord} (ambient : Ambient)
    (tables : Tables limits state.devices state.links)
    (parallel : Parallel (buildSnapshot state) source target) (distinct : source ≠ target)
    (sourceFound : state.devices.find? source ≠ none)
    (targetFound : state.devices.find? target ≠ none)
    (room : state.links.size ≤ limits.maxCandidatePaths)
    (found : state.links.find? current.id = some current) (carries : Current current)
    (others : ∀ link ∈ (buildSnapshot state).links, link.id ≠ current.id →
      link.state = .revalidationRequired)
    (uncontended : ∀ measurement ∈ state.measurementHistory,
      measurement.contended = false) :
    ∃ decision, decideRoute limits ambient source target .defaultPolicy state =
        .ok decision ∧
      decision.outcome = .routeAllowed ∧ decision.executable = true := by
  have nonNil {id : DeviceId} (stored : state.devices.find? id ≠ none) :
      id.value ≠ 0 := by
    obtain ⟨device, lookup⟩ := Option.ne_none_iff_exists'.mp stored
    exact (tables.device_key (FiniteMap.find?_eq_some.mp lookup)).2
  have stored {link : LinkRecord} (listed : link ∈ (buildSnapshot state).links) :
      (buildSnapshot state).findLink link.id = some link := by
    obtain ⟨key, member⟩ := FiniteMap.mem_values.mp ((List.mem_insertionSort _).mp listed)
    rw [findLink_buildSnapshot tables, FiniteMap.find?_eq_some,
      (tables.link_key member).1]
    exact member
  have listed : current ∈ (buildSnapshot state).links :=
    (List.mem_insertionSort _).mpr
      (FiniteMap.mem_values.mpr ⟨_, FiniteMap.find?_eq_some.mp found⟩)
  have snapshotRoom : (buildSnapshot state).links.length ≤ limits.maxCandidatePaths := by
    simpa [buildSnapshot, FiniteMap.values, FiniteMap.size] using room
  have enumerates (path : Path) :
      path ∈ enumeratePathsImpl (consistentView state).topology source target limits ↔
        ∃ link ∈ (buildSnapshot state).links,
          path = directPath (buildSnapshot state) source target link.id :=
    mem_enumerate_parallel parallel distinct (nonNil sourceFound) (nonNil targetFound)
      snapshotRoom
  obtain ⟨best, selected⟩ := exists_selectBest ((enumerates _).mpr ⟨current, listed, rfl⟩)
    (accepted_direct source target (stored listed) carries uncontended)
  obtain ⟨candidate, quality, accepted⟩ := selectBest_spec selected
  obtain ⟨link, linkListed, path⟩ := (enumerates _).mp candidate
  -- Only the current link survives the hard constraints.
  have same : link.id = current.id := by
    by_contra different
    rw [path] at accepted
    exact rejected_direct source target (stored linkListed)
      (others link linkListed different) best.quality accepted
  have healthy : best.quality.outcome = .healthy := by
    rw [quality, path, same]
    exact (quality_direct source target (stored listed) carries uncontended).1
  obtain ⟨decision, decided⟩ :=
    decideRoute_total limits ambient source target .defaultPolicy
    state
  obtain ⟨-, outcome, executable⟩ := decideRouteWith_of_selected
    (by rwa [findDevice_buildSnapshot tables]) (by rwa [findDevice_buildSnapshot tables])
    selected decided
  rw [healthy] at outcome
  refine ⟨decision, decided, outcome, ?_⟩
  rw [executable, outcome]
  rfl

end Registry

end NvlinkFabric

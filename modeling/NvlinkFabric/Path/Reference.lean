import NvlinkFabric.Path.Candidates
import NvlinkFabric.Lib.Selection

/-!
# The reference of path quality

What `compute_quality` accumulates in its two loops, stated over the stored links of
a path and the measurements for its ends: numbers of links in sets of states, the
latest measurement that may be used, and the weakest class of evidence.

The NVLink segments are the exception.  The search counts them as it records a path,
and the link loop starts from that count and adds the same links again.
-/

namespace NvlinkFabric

variable {limits : Limits} {state : Registry.State} {topo : TopologySnapshot}
variable {source target : DeviceId} {path : Path}

/-- The links that a path runs over, in its order, where `find` looks them up. -/
def Path.linkRecords (path : Path) (find : LinkId → Option LinkRecord) :
    List LinkRecord :=
  path.links.filterMap find

/-- Where no link is missing, the link loop visits the links of the path. -/
theorem scanLinks_eq_foldl
    (present : ∀ id ∈ path.links, ∃ link, topo.findLink id = some link) :
    scanLinks topo path =
      (path.linkRecords topo.findLink).foldl LinkScan.visit
        { nvlinkSegments := path.nvlinkSegments } := by
  rw [Path.linkRecords, Path.links, List.filterMap_filterMap, List.foldl_filterMap]
  refine List.foldl_ext _ _ _ fun scan element member => ?_
  cases element with
  | device id => rfl
  | link id =>
      obtain ⟨link, found⟩ := present id (Path.mem_links.mpr member)
      simp [LinkScan.element, found]

/-- A counter that each visit raises under a test ends up as the number of links that
pass it. -/
theorem counter_foldl (counter : LinkScan → Nat) (test : LinkRecord → Bool)
    (visit : ∀ scan link,
      counter (LinkScan.visit scan link) = if test link then counter scan + 1
        else counter scan)
    (links : List LinkRecord) (scan : LinkScan) :
    counter (links.foldl LinkScan.visit scan) = counter scan + links.countP test := by
  induction links generalizing scan with
  | nil => simp
  | cons link links ih =>
      rw [List.foldl_cons, ih, visit, List.countP_cons]
      split <;> omega

/-- A measurement that may be used for exactly these ends. -/
def MeasurementRecord.covers (source target : DeviceId)
    (measurement : MeasurementRecord) :
    Bool :=
  measurement.valid && !measurement.stale &&
    (measurement.source = source && measurement.target = target)

/-- The first of the latest measurements, if there are any. -/
def Latest (measurements : List MeasurementRecord) : Option MeasurementRecord → Prop
  | none => measurements = []
  | some latest =>
      ∃ earlier later, measurements = earlier ++ latest :: later ∧
        (∀ other ∈ earlier, other.measuredAt.unixNs < latest.measuredAt.unixNs) ∧
          ∀ other ∈ later, other.measuredAt.unixNs ≤ latest.measuredAt.unixNs

/-- The measurement loop finds the first maximum of the time among the usable ones. -/
theorem bestMeasurement_eq_firstMax (measurements : List MeasurementRecord)
    (path : Path) :
    bestMeasurement measurements path =
      Selection.firstMax (fun measurement => measurement.measuredAt.unixNs.toInt)
        (measurements.filter (·.covers path.source path.target)) := by
  rw [bestMeasurement, Selection.firstMax, List.argmax, List.foldl_filter]
  refine List.foldl_ext _ _ _ fun best measurement _ => ?_
  have skipped : (!measurement.valid || measurement.stale) =
      !(measurement.valid && !measurement.stale) := by
    rw [Bool.not_and, Bool.not_not]
  cases usable : measurement.valid && !measurement.stale with
  | false => simp [considerMeasurement, MeasurementRecord.covers, skipped, usable]
  | true =>
      cases best <;>
        simp [considerMeasurement, MeasurementRecord.covers, skipped, usable, List.argAux,
          Int64.lt_iff_toInt_lt]

theorem latest_bestMeasurement (measurements : List MeasurementRecord) (path : Path) :
    Latest (measurements.filter (·.covers path.source path.target))
      (bestMeasurement measurements path) := by
  have loop := bestMeasurement_eq_firstMax measurements path
  cases found : bestMeasurement measurements path with
  | none => exact Selection.firstMax_eq_none.mp (loop.symm.trans found)
  | some latest =>
      obtain ⟨earlier, later, split, smaller, atMost⟩ :=
        Selection.firstMax_split (loop.symm.trans found)
      refine ⟨earlier, later, split, fun other member => ?_, fun other member => ?_⟩
      · exact Int64.lt_iff_toInt_lt.mpr (smaller other member)
      · exact Int64.le_iff_toInt_le.mpr (atMost other member)

/-- The weakest of some classes of evidence. -/
def weakest (classes : List EvidenceClass) : EvidenceClass :=
  if .unsupported ∈ classes then .unsupported
  else if .synthetic ∈ classes then .synthetic
  else .real

/-- What path quality says about the links of a path and the measurement used for it. -/
structure ReferenceQuality (links : List LinkRecord) (used : Option MeasurementRecord)
    (quality : PathQuality) : Prop where
  activeLinks : quality.activeLinks = links.countP (·.state ∈ [.up, .present, .supported])
  degradedLinks :
    quality.degradedLinks = links.countP fun link =>
      link.degraded || link.state = .degraded
  downLinks : quality.downLinks = links.countP (·.state ∈ [.down, .absent, .unreachable])
  measuredBandwidthBps : quality.measuredBandwidthBps = used.map (·.bandwidthBps)
  measuredLatencySeconds : quality.measuredLatencySeconds = used.map (·.latencySeconds)
  contended : quality.contended = used.any (·.contended)
  stale : quality.stale = links.any (·.state ∈ [.revalidationRequired, .stale])
  evidenceClass : quality.evidence.evidenceClass =
    weakest ((links.map (·.evidence) ++ used.toList.map (·.evidence)).map
      (·.evidenceClass))

theorem aggregateClass_eq_weakest {scan : LinkScan} {links : List LinkRecord}
    {best : Option MeasurementRecord}
    (unsupported : scan.anyUnsupEv = links.any (·.evidence.evidenceClass = .unsupported))
    (synthetic : scan.anySynth = links.any (·.evidence.evidenceClass = .synthetic)) :
    aggregateClass scan best =
      weakest ((links.map (·.evidence) ++ best.toList.map (·.evidence)).map
        (·.evidenceClass)) := by
  have found (evidenceClass : EvidenceClass) :
      (links.any (·.evidence.evidenceClass = evidenceClass) ||
        best.any (·.evidence.evidenceClass = evidenceClass)) = true ↔
        evidenceClass ∈ (links.map (·.evidence) ++ best.toList.map (·.evidence)).map
          (·.evidenceClass) := by
    cases best with
    | none => simp
    | some used => simp [@eq_comm _ evidenceClass]
  simp only [aggregateClass, unsupported, synthetic, found, weakest]

/-- The loops of `compute_quality` compute the reference. -/
theorem computeQuality_reference {measurements : List MeasurementRecord}
    (present : ∀ id ∈ path.links, ∃ link, topo.findLink id = some link) :
    ReferenceQuality (path.linkRecords topo.findLink) (bestMeasurement measurements path)
      (computeQuality topo measurements path) := by
  have loop := scanLinks_eq_foldl present
  have unusedStale : (bestMeasurement measurements path).any (·.stale) = false := by
    cases best : bestMeasurement measurements path with
    | none => rfl
    | some used => exact (bestMeasurement_mem best).2.2
  constructor
  · rw [computeQuality, loop]
    refine (counter_foldl (·.activeLinks) _ (fun _ _ => ?_) _ _).trans (Nat.zero_add _)
    simp [LinkScan.visit, LinkOperationalState.isActive, or_assoc]
  · rw [computeQuality, loop]
    exact (counter_foldl (·.degradedLinks) _ (fun _ _ => rfl) _ _).trans (Nat.zero_add _)
  · rw [computeQuality, loop]
    refine (counter_foldl (·.downLinks) _ (fun _ _ => ?_) _ _).trans (Nat.zero_add _)
    simp [LinkScan.visit, LinkOperationalState.isDown, or_assoc]
  · rfl
  · rfl
  · rfl
  · simp only [computeQuality, loop, unusedStale, Bool.or_false]
    refine (foldl_raises LinkScan.visit (·.anyReval) _ (fun _ _ => ?_) _ _).trans
      (Bool.false_or _)
    simp [LinkScan.visit, LinkOperationalState.needsRevalidation]
  · refine aggregateClass_eq_weakest ?_ ?_
    · rw [loop]
      exact (foldl_raises LinkScan.visit (·.anyUnsupEv) _ (fun _ _ => rfl) _ _).trans
        (Bool.false_or _)
    · rw [loop]
      exact (foldl_raises LinkScan.visit (·.anySynth) _ (fun _ _ => rfl) _ _).trans
        (Bool.false_or _)

/-! ## Enumerated paths -/

namespace Registry

/-- The stored links that a path runs over. -/
def linksOf (state : State) (path : Path) : List LinkRecord :=
  path.linkRecords state.links.find?

/-- In a coherent state the records of some stored links carry their identities. -/
theorem map_id_filterMap_find? (tables : Tables limits state.devices state.links)
    {ids : List LinkId} (present : ∀ id ∈ ids, ∃ link, state.links.find? id = some link) :
    (ids.filterMap state.links.find?).map (·.id) = ids := by
  induction ids with
  | nil => rfl
  | cons id ids ih =>
      obtain ⟨link, found⟩ := present id List.mem_cons_self
      have rest := ih fun other member => present other (List.mem_cons_of_mem _ member)
      rw [List.filterMap_cons_some found, List.map_cons, rest,
        (tables.link_key (FiniteMap.find?_eq_some.mp found)).1]

/-- An enumerated path is a candidate of the snapshot, its links are stored, and its
quality is computed. -/
structure Enumerated (limits : Limits) (state : State) (source target : DeviceId)
    (path : Path) : Prop where
  candidate : path ∈ enumeratePathsImpl (buildSnapshot state) source target limits
  linkRecords : path.linkRecords (buildSnapshot state).findLink = linksOf state path
  identities : (linksOf state path).map (·.id) = path.links
  quality : computePathQuality path state =
    .ok (computeQuality (buildSnapshot state) state.measurementHistory path)

theorem enumerated_of_mem (reachable : Reachable limits state) {paths : List Path}
    (listed : enumeratePaths limits source target state = .ok paths)
    (member : path ∈ paths) :
    Enumerated limits state source target path := by
  have tables := (consistent_of_reachable reachable).tables
  obtain ⟨_, listed⟩ := guarded_ok.mp listed
  obtain ⟨sourceFound, listed⟩ := guarded_ok.mp listed
  obtain ⟨targetFound, listed⟩ := guarded_ok.mp listed
  obtain rfl := Except.ok.inj listed
  have stored : (buildSnapshot state).findLink = state.links.find? :=
    funext (findLink_buildSnapshot tables)
  refine ⟨member, by rw [stored, linksOf], ?_, ?_⟩
  · refine map_id_filterMap_find? tables fun id on => ?_
    rw [← stored]
    exact candidate_link member on
  · rw [consistentView] at sourceFound targetFound
    simp [computePathQuality, consistentView, candidate_source member,
      candidate_target member, sourceFound, targetFound]

/-- For every enumerated path of a reachable state, path quality is the reference over
its links and the latest measurement that covers its ends. -/
theorem computePathQuality_reference (reachable : Reachable limits state)
    {paths : List Path} (listed : enumeratePaths limits source target state = .ok paths)
    (member : path ∈ paths) :
    ∃ quality used, computePathQuality path state = .ok quality ∧
      (linksOf state path).map (·.id) = path.links ∧
      Latest (state.measurementHistory.filter (·.covers source target)) used ∧
      ReferenceQuality (linksOf state path) used quality := by
  have enumerated := enumerated_of_mem reachable listed member
  have candidate := enumerated.candidate
  refine ⟨_, bestMeasurement state.measurementHistory path, enumerated.quality,
    enumerated.identities, ?_, ?_⟩
  · rw [← candidate_source candidate, ← candidate_target candidate]
    exact latest_bestMeasurement _ _
  · rw [← enumerated.linkRecords]
    exact computeQuality_reference fun _ => candidate_link candidate

/-- A measurement between the ends of the relay. -/
def relayMeasurement (time : Int64) (bandwidth : ℚ) (evidence : EvidenceClass) : Call :=
  ⟨.publishMeasurement
    { id := ⟨1⟩, source := ⟨1⟩, target := ⟨2⟩, bandwidthBps := bandwidth, valid := true,
      evidence := { evidenceClass := evidence }, measuredAt :=
        { unixNs := time, valid := true } },
    {}⟩

/-- Two devices joined by way of a third one.  Of the measurements between them the second
and the third are the latest. -/
def relayCalls : List Call :=
  [⟨.upsertDevice { id := ⟨1⟩, generation := ⟨1⟩ }, {}⟩,
    ⟨.upsertDevice { id := ⟨2⟩, generation := ⟨1⟩ }, {}⟩,
    ⟨.upsertDevice { id := ⟨3⟩, generation := ⟨1⟩ }, {}⟩,
    ⟨.upsertLink
      { id := ⟨8⟩, source := ⟨1⟩, target := ⟨3⟩, generation := ⟨1⟩, state := .up,
        evidence := { evidenceClass := .real },
        capability := { nominalBandwidthBps := 100 } }, {}⟩,
    ⟨.upsertLink
      { id := ⟨9⟩, source := ⟨3⟩, target := ⟨2⟩, generation := ⟨1⟩, state := .degraded,
        evidence := { evidenceClass := .real },
        capability := { nominalBandwidthBps := 50 } }, {}⟩,
    relayMeasurement 5 10 .real, relayMeasurement 7 20 .synthetic,
    relayMeasurement 7 30 .real]

def relayed : State := run {} .initial relayCalls

/-- The path over both links of the relay. -/
def relayPath : Path :=
  pathOver (buildSnapshot relayed) ⟨1⟩ ⟨2⟩ [⟨⟨8⟩, ⟨3⟩⟩, ⟨⟨9⟩, ⟨2⟩⟩]

theorem enumeratePaths_relayed : enumeratePaths {} ⟨1⟩ ⟨2⟩ relayed = .ok [relayPath] := by
  decide +kernel

/-- Of two measurements taken at the same time the first is used. -/
theorem computePathQuality_published :
    ∃ quality used, computePathQuality relayPath relayed = .ok quality ∧
      (linksOf relayed relayPath).map (·.id) = [⟨8⟩, ⟨9⟩] ∧
      Latest (relayed.measurementHistory.filter (·.covers ⟨1⟩ ⟨2⟩)) used ∧
      ReferenceQuality (linksOf relayed relayPath) used quality := by
  obtain ⟨quality, used, computed, identities, latest, reference⟩ :=
    computePathQuality_reference ⟨relayCalls, rfl⟩ enumeratePaths_relayed
      List.mem_cons_self
  have links : relayPath.links = [⟨8⟩, ⟨9⟩] := by decide +kernel
  exact ⟨quality, used, computed, identities.trans links, latest, reference⟩

theorem countNvlink_eq (topo : TopologySnapshot) (path : Path) :
    countNvlink topo path.elements =
      (path.linkRecords topo.findLink).countP (·.technology = .nvlink) := by
  rw [Path.linkRecords, Path.links, List.filterMap_filterMap,
    List.countP_filterMap, countNvlink]
  congr 1
  funext element
  cases element with
  | device id => rfl
  | link id => cases found : topo.findLink id <;> simp [found]

theorem candidate_nvlinkSegments
    (member : path ∈ enumeratePathsImpl topo source target limits) :
    path.nvlinkSegments =
      (path.linkRecords topo.findLink).countP (·.technology = .nvlink) := by
  obtain ⟨edges, rfl, -⟩ := edges_of_candidate member
  exact countNvlink_eq topo (pathOver topo source target edges)

/-- The link loop adds the NVLink segments to those the path already counts. -/
theorem computeQuality_nvlinkSegments (measurements : List MeasurementRecord)
    (present : ∀ id ∈ path.links, ∃ link, topo.findLink id = some link) :
    (computeQuality topo measurements path).nvlinkSegments =
      path.nvlinkSegments + (path.linkRecords topo.findLink).countP
        (·.technology = .nvlink) := by
  rw [computeQuality, scanLinks_eq_foldl present]
  exact counter_foldl (·.nvlinkSegments) _ (fun _ _ => by simp [LinkScan.visit]) _ _

/-- The number of links of a path whose technology is NVLINK. -/
def nvlinkCount (state : State) (path : Path) : Nat :=
  (linksOf state path).countP (·.technology = .nvlink)

/-- The path counts its NVLink segments once, its quality counts them twice. -/
theorem enumerated_nvlinkSegments
    (enumerated : Enumerated limits state source target path) :
    path.nvlinkSegments = nvlinkCount state path ∧
      nvlinkCount state path ≤ path.hopCount ∧
      (computeQuality (buildSnapshot state) state.measurementHistory
        path).nvlinkSegments =
        2 * nvlinkCount state path := by
  have counted := candidate_nvlinkSegments enumerated.candidate
  have doubled := computeQuality_nvlinkSegments state.measurementHistory
    fun _ => candidate_link enumerated.candidate
  rw [enumerated.linkRecords] at counted doubled
  refine ⟨counted, ?_, by rw [doubled, counted, nvlinkCount]; omega⟩
  rw [(candidate_hops enumerated.candidate).2.1, ← enumerated.identities, List.length_map]
  exact List.countP_le_length

/-- Path and quality agree on the number of NVLink segments. -/
def SegmentsAgree (state : State) (path : Path) : Prop :=
  path.nvlinkSegments = nvlinkCount state path ∧ nvlinkCount state path ≤ path.hopCount ∧
    ∃ quality, computePathQuality path state = .ok quality ∧
      quality.nvlinkSegments = nvlinkCount state path

/-- For every enumerated path of a reachable state, path and quality agree exactly if no
link of the path is an NVLink. -/
theorem segments_agree_iff (reachable : Reachable limits state) {paths : List Path}
    (listed : enumeratePaths limits source target state = .ok paths)
    (member : path ∈ paths) :
    SegmentsAgree state path ↔ ∀ link ∈ linksOf state path,
      link.technology ≠ .nvlink := by
  have enumerated := enumerated_of_mem reachable listed member
  obtain ⟨counted, atMost, doubled⟩ := enumerated_nvlinkSegments enumerated
  have noNvlink : nvlinkCount state path = 0 ↔
      ∀ link ∈ linksOf state path, link.technology ≠ .nvlink := by
    simp [nvlinkCount, List.countP_eq_zero]
  rw [← noNvlink]
  constructor
  · rintro ⟨-, -, quality, computed, agrees⟩
    obtain rfl := Except.ok.inj (enumerated.quality.symm.trans computed)
    omega
  · intro zero
    exact ⟨counted, atMost, _, enumerated.quality, by omega⟩

/-- The path between the devices of a worker. -/
def publishedPath : Path :=
  pathOver (buildSnapshot Worker.published) Worker.sourceId Worker.targetId
    [⟨(Worker.link ⟨1⟩ {}).id, Worker.targetId⟩]

theorem enumeratePaths_published :
    enumeratePaths {} Worker.sourceId Worker.targetId Worker.published =
      .ok [publishedPath] := by
  rfl

/-- The link of a worker is an NVLink. -/
theorem segments_agree_published :
    SegmentsAgree Worker.published publishedPath ↔
      ∀ link ∈ linksOf Worker.published publishedPath, link.technology ≠ .nvlink :=
  segments_agree_iff ⟨Worker.publication ⟨1⟩, rfl⟩ enumeratePaths_published
    List.mem_cons_self

/-- The quality of a worker's path counts its only NVLink twice. -/
theorem segments_counted_twice :
    ¬∀ limits state, Reachable limits state → ∀ source target paths,
      enumeratePaths limits source target state = .ok paths →
        ∀ path ∈ paths, SegmentsAgree state path := by
  intro agree
  obtain ⟨-, -, quality, computed, counted⟩ :=
    agree {} Worker.published ⟨Worker.publication ⟨1⟩, rfl⟩ _ _ _ enumeratePaths_published
      publishedPath List.mem_cons_self
  have enumerated :
      Enumerated {} Worker.published Worker.sourceId Worker.targetId publishedPath :=
    enumerated_of_mem ⟨Worker.publication ⟨1⟩, rfl⟩ enumeratePaths_published
      List.mem_cons_self
  obtain rfl := Except.ok.inj (enumerated.quality.symm.trans computed)
  have doubled := (enumerated_nvlinkSegments enumerated).2.2
  have one : nvlinkCount Worker.published publishedPath = 1 := by decide +kernel
  omega

end Registry

end NvlinkFabric

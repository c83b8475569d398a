import NvlinkFabric.Path.Enumerate

/-!
# Path quality

`compute_quality` folds the links of a path into counters and flags, picks the
latest usable measurement for the endpoints, and maps the flags to an outcome by
a fixed priority.
-/

namespace NvlinkFabric

/-- `PathQuality`, without the explanation text, which nothing fills. -/
structure PathQuality where
  path : PathId
  source : DeviceId
  target : DeviceId
  hopCount : Nat
  nvlinkSegments : Nat
  switchTraversal : Bool
  direct : Bool
  nominalBandwidthBps : UInt64
  measuredBandwidthBps : Option ℚ
  measuredLatencySeconds : Option ℚ
  measurementTimestamp : Timestamp
  activeLinks : Nat
  degradedLinks : Nat
  downLinks : Nat
  evidenceSufficient : Bool
  stale : Bool
  contended : Bool
  outcome : PathQualityOutcome
  evidence : Evidence
  topologyGeneration : TopologyGeneration
  sourceGeneration : DeviceGeneration
  targetGeneration : DeviceGeneration
  deriving DecidableEq

namespace LinkOperationalState

/-- States counted as active. -/
def isActive (state : LinkOperationalState) : Bool :=
  state = .up || state = .present || state = .supported

/-- States counted as down. -/
def isDown (state : LinkOperationalState) : Bool :=
  state = .down || state = .absent || state = .unreachable

/-- States that require revalidation. -/
def needsRevalidation (state : LinkOperationalState) : Bool :=
  state = .revalidationRequired || state = .stale

/-- `is_supported_state`. -/
def isSupportedState (state : LinkOperationalState) : Bool :=
  state = .up || state = .present || state = .supported || state = .degraded

end LinkOperationalState

/-- Accumulators of the link loop. -/
structure LinkScan where
  nvlinkSegments : Nat
  activeLinks : Nat := 0
  degradedLinks : Nat := 0
  downLinks : Nat := 0
  nominal : UInt64 := 0
  haveNominal : Bool := false
  anyDown : Bool := false
  anyUnsupported : Bool := false
  anyReval : Bool := false
  anyDegraded : Bool := false
  anyUp : Bool := false
  anySynth : Bool := false
  anyUnsupEv : Bool := false
  anyUnknown : Bool := false
  hasCapability : Bool := false
  deriving DecidableEq

/-- Body of the link loop for a link that exists. -/
def LinkScan.visit (scan : LinkScan) (link : LinkRecord) : LinkScan :=
  let bandwidth := link.capability.nominalBandwidthBps
  let degraded := link.degraded || link.state = .degraded
  { nvlinkSegments :=
      if link.technology = .nvlink then scan.nvlinkSegments + 1 else scan.nvlinkSegments
    activeLinks := if link.state.isActive then scan.activeLinks + 1 else scan.activeLinks
    degradedLinks := if degraded then scan.degradedLinks + 1 else scan.degradedLinks
    downLinks := if link.state.isDown then scan.downLinks + 1 else scan.downLinks
    nominal :=
      if bandwidth > 0 then
        if scan.nominal = 0 then bandwidth else min scan.nominal bandwidth
      else scan.nominal
    haveNominal := true
    anyDown := scan.anyDown || link.state.isDown
    anyUnsupported := scan.anyUnsupported || link.state = .unsupported
    anyReval := scan.anyReval || link.state.needsRevalidation
    anyDegraded := scan.anyDegraded || degraded
    anyUp := scan.anyUp || link.state.isActive
    anySynth := scan.anySynth || link.evidence.evidenceClass = .synthetic
    anyUnsupEv := scan.anyUnsupEv || link.evidence.evidenceClass = .unsupported
    anyUnknown := scan.anyUnknown || link.state = .unknown
    hasCapability := scan.hasCapability || bandwidth > 0 ||
      link.capability.interconnect ≠ .unknown }

/-- Body of the link loop. -/
def LinkScan.element (topo : TopologySnapshot) (scan : LinkScan) (element : PathElement) :
    LinkScan :=
  match element with
  | .device _ => scan
  | .link id =>
      match topo.findLink id with
      | none => { scan with downLinks := scan.downLinks + 1, anyDown := true }
      | some link => scan.visit link

/-- The link loop. -/
def scanLinks (topo : TopologySnapshot) (path : Path) : LinkScan :=
  path.elements.foldl (LinkScan.element topo) { nvlinkSegments := path.nvlinkSegments }

/-- One step of the measurement loop. -/
def considerMeasurement (path : Path) (best : Option MeasurementRecord)
    (measurement : MeasurementRecord) : Option MeasurementRecord :=
  if !measurement.valid || measurement.stale then best
  else if measurement.source = path.source && measurement.target = path.target then
    match best with
    | none => some measurement
    | some current =>
        if measurement.measuredAt.unixNs > current.measuredAt.unixNs then some measurement
        else best
  else best

/-- The latest usable measurement for the endpoints of a path. -/
def bestMeasurement (measurements : List MeasurementRecord) (path : Path) :
    Option MeasurementRecord :=
  measurements.foldl (considerMeasurement path) none

/-- The priority cascade that ends `compute_quality`. -/
def qualityOutcome (scan : LinkScan) (hopCount : Nat) (contended : Bool) :
    PathQualityOutcome :=
  if scan.anyDown || hopCount = 0 then .linkDown
  else if scan.anyUnsupported then .unsupported
  else if scan.anyReval then .revalidationRequired
  else if contended then .contended
  else if scan.anyDegraded then .degraded
  else if scan.anyUnknown || !scan.hasCapability then .insufficientEvidence
  else .healthy

/-- Aggregate evidence class of the links and the measurement used. -/
def aggregateClass (scan : LinkScan) (best : Option MeasurementRecord) : EvidenceClass :=
  if scan.anyUnsupEv || best.any (·.evidence.evidenceClass = .unsupported)
    then .unsupported
  else if scan.anySynth || best.any (·.evidence.evidenceClass = .synthetic)
    then .synthetic
  else .real

/-- `compute_quality`. -/
def computeQuality (topo : TopologySnapshot) (measurements : List MeasurementRecord)
    (path : Path) : PathQuality :=
  let scan := scanLinks topo path
  let best := bestMeasurement measurements path
  let contended := best.any (·.contended)
  { path := path.id
    source := path.source
    target := path.target
    hopCount := path.hopCount
    nvlinkSegments := scan.nvlinkSegments
    switchTraversal := path.switchTraversal
    direct := path.direct
    nominalBandwidthBps :=
      if scan.haveNominal && scan.nominal > 0 then scan.nominal else 0
    measuredBandwidthBps := best.map (·.bandwidthBps)
    measuredLatencySeconds := best.map (·.latencySeconds)
    measurementTimestamp := (best.map (·.measuredAt)).getD {}
    activeLinks := scan.activeLinks
    degradedLinks := scan.degradedLinks
    downLinks := scan.downLinks
    evidenceSufficient := scan.anyUp && (scan.hasCapability || best.isSome)
    stale := scan.anyReval || best.any (·.stale)
    contended := contended
    outcome := qualityOutcome scan path.hopCount contended
    evidence :=
      { evidenceClass := aggregateClass scan best
        source := "path"
        note := "aggregate of traversed link evidence" }
    topologyGeneration := topo.generation
    sourceGeneration := ((topo.findDevice path.source).map (·.generation)).getD {}
    targetGeneration := ((topo.findDevice path.target).map (·.generation)).getD {} }

/-- `TopologyRegistry::compute_path_quality`. -/
def Registry.computePathQuality (path : Path) (state : Registry.State) :
    Result PathQuality :=
  let view := Registry.consistentView state
  if view.topology.findDevice path.source = none ||
      view.topology.findDevice path.target = none then
    err .notFound "path endpoint unknown"
  else .ok (computeQuality view.topology view.measurements path)

/-! ## What the link loop observes -/

/-- A property of the link an element refers to; `missing` is its value for a
link the snapshot does not hold. -/
def elementTest (topo : TopologySnapshot) (test : LinkRecord → Bool) (missing : Bool) :
    PathElement → Bool
  | .device _ => false
  | .link id =>
      match topo.findLink id with
      | none => missing
      | some link => test link

/-- A flag that each visit can only raise ends up as the disjunction of its test. -/
theorem foldl_raises {ι : Type} (visit : LinkScan → ι → LinkScan) (flag : LinkScan → Bool)
    (test : ι → Bool) (raises : ∀ scan item,
      flag (visit scan item) = (flag scan || test item))
    (items : List ι) (scan : LinkScan) :
    flag (items.foldl visit scan) = (flag scan || items.any test) := by
  induction items generalizing scan with
  | nil => simp
  | cons item items ih => rw [List.foldl_cons, ih, raises, List.any_cons, Bool.or_assoc]

/-- Such a flag after the elements of a path, some of whose links may be missing. -/
theorem foldl_flag {topo : TopologySnapshot} (flag : LinkScan → Bool)
    (test : LinkRecord → Bool) (missing : Bool)
    (visit : ∀ scan link, flag (LinkScan.visit scan link) = (flag scan || test link))
    (absent : ∀ scan : LinkScan,
      flag { scan with downLinks := scan.downLinks + 1, anyDown := true } =
        (flag scan || missing))
    (elements : List PathElement) (scan : LinkScan) :
    flag (elements.foldl (LinkScan.element topo) scan) =
      (flag scan || elements.any (elementTest topo test missing)) := by
  refine foldl_raises _ flag _ (fun scan element => ?_) elements scan
  cases element with
  | device id => simp [LinkScan.element, elementTest]
  | link id =>
      cases found : topo.findLink id with
      | none => simp [LinkScan.element, elementTest, found, absent]
      | some link => simp [LinkScan.element, elementTest, found, visit]

theorem scanLinks_anyDown (topo : TopologySnapshot) (path : Path) :
    (scanLinks topo path).anyDown =
      path.elements.any (elementTest topo (·.state.isDown) true) :=
  foldl_flag (·.anyDown) (·.state.isDown) true (fun _ _ => rfl)
    (fun scan => (Bool.or_true scan.anyDown).symm) _ _

theorem scanLinks_anyReval (topo : TopologySnapshot) (path : Path) :
    (scanLinks topo path).anyReval =
      path.elements.any (elementTest topo (·.state.needsRevalidation) false) :=
  foldl_flag (·.anyReval) (·.state.needsRevalidation) false (fun _ _ => rfl)
    (fun scan => (Bool.or_false scan.anyReval).symm) _ _

theorem Path.mem_links {path : Path} {id : LinkId} :
    id ∈ path.links ↔ PathElement.link id ∈ path.elements := by
  simp only [Path.links, List.mem_filterMap]
  constructor
  · rintro ⟨element, member, equal⟩
    cases element with
    | device other => simp at equal
    | link other =>
        obtain rfl : other = id := by simpa using equal
        exact member
  · intro member
    exact ⟨_, member, rfl⟩

/-- Unless the outcome is blocking, every link of the path exists and none of
them is down or awaits revalidation. -/
theorem links_current_of_outcome {topo : TopologySnapshot} {path : Path}
    {contended : Bool}
    (notDown : qualityOutcome (scanLinks topo path) path.hopCount contended ≠ .linkDown)
    (notUnsupported :
      qualityOutcome (scanLinks topo path) path.hopCount contended ≠ .unsupported)
    (notStale :
      qualityOutcome (scanLinks topo path) path.hopCount contended ≠
        .revalidationRequired)
    {id : LinkId} (member : id ∈ path.links) :
    ∃ link, topo.findLink id = some link ∧ link.state.isDown = false ∧
      link.state.needsRevalidation = false := by
  have element := Path.mem_links.mp member
  have anyDown : (scanLinks topo path).anyDown = false := by
    by_contra raised
    simp [qualityOutcome, raised] at notDown
  have anyReval : (scanLinks topo path).anyReval = false := by
    by_contra raised
    simp only [qualityOutcome] at notDown notUnsupported notStale
    split at notDown
    · exact notDown rfl
    next up =>
      simp only [if_neg up] at notUnsupported notStale
      split at notUnsupported
      · exact notUnsupported rfl
      next supported => simp [supported, raised] at notStale
  rw [scanLinks_anyDown, List.any_eq_false] at anyDown
  rw [scanLinks_anyReval, List.any_eq_false] at anyReval
  have down := anyDown _ element
  have reval := anyReval _ element
  cases found : topo.findLink id with
  | none => simp [elementTest, found] at down
  | some link =>
      simp only [elementTest, found, Bool.not_eq_true] at down reval
      exact ⟨link, rfl, down, reval⟩

/-- A measurement that may be selected. -/
def Usable (measurement : MeasurementRecord) : Prop :=
  measurement.valid = true ∧ measurement.stale = false

instance (measurement : MeasurementRecord) : Decidable (Usable measurement) :=
  inferInstanceAs (Decidable (_ ∧ _))

/-- One step of the measurement loop keeps the choice or takes a usable measurement. -/
theorem considerMeasurement_cases (path : Path) (best : Option MeasurementRecord)
    (measurement : MeasurementRecord) :
    considerMeasurement path best measurement = best ∨
      Usable measurement ∧
      considerMeasurement path best measurement = some measurement := by
  unfold considerMeasurement
  split
  · exact .inl rfl
  next usable =>
    have usable : Usable measurement := by simpa [Usable] using usable
    split
    · split
      · exact .inr ⟨usable, rfl⟩
      · split
        · exact .inr ⟨usable, rfl⟩
        · exact .inl rfl
    · exact .inl rfl

theorem foldl_considerMeasurement {measurements : List MeasurementRecord} {path : Path}
    {initial : Option MeasurementRecord} {best : MeasurementRecord}
    (found : measurements.foldl (considerMeasurement path) initial = some best) :
    initial = some best ∨ best ∈ measurements ∧ Usable best := by
  induction measurements generalizing initial with
  | nil => exact .inl found
  | cons measurement measurements ih =>
      rcases ih found with chosen | ⟨member, usable⟩
      · rcases considerMeasurement_cases path initial measurement with
          same | ⟨usable, taken⟩
        · exact .inl (same.symm.trans chosen)
        · obtain rfl := Option.some.inj (taken.symm.trans chosen)
          exact .inr ⟨List.mem_cons_self, usable⟩
      · exact .inr ⟨List.mem_cons_of_mem _ member, usable⟩

/-- The measurement used for a path is a usable one of the list. -/
theorem bestMeasurement_mem {measurements : List MeasurementRecord} {path : Path}
    {best : MeasurementRecord} (found : bestMeasurement measurements path = some best) :
    best ∈ measurements ∧ Usable best :=
  (foldl_considerMeasurement found).resolve_left (by simp)

end NvlinkFabric

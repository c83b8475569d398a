import NvlinkFabric.Route.Policy
import NvlinkFabric.Lib.Selection

/-!
# Route decisions

`decide_route` takes a consistent view, filters the enumerated candidates by the
policy's hard constraints, ranks the rest and maps the winner's quality to an
outcome.  The observation log is read a second time after the decision is made;
that read is a separate argument, so an interleaving between the two reads can
be expressed.

The ranking compares sums of `double`s.  How it compares is an argument as well;
`decideRouteWith` ranks in exact arithmetic.
-/

namespace NvlinkFabric

/-- `RejectedCandidate`. -/
structure RejectedCandidate where
  path : PathId
  reason : RouteRejectionReason
  detail : Text
  deriving DecidableEq

/-- `RouteDecision`. -/
structure RouteDecision where
  id : RouteDecisionId := .nil
  source : DeviceId := .nil
  target : DeviceId := .nil
  topologyGeneration : TopologyGeneration := {}
  sourceGeneration : DeviceGeneration := {}
  targetGeneration : DeviceGeneration := {}
  routeGeneration : RouteGeneration := {}
  policy : PolicyId := .nil
  candidatesConsidered : List PathId := []
  rejected : List RejectedCandidate := []
  selected : Option PathId := none
  outcome : RouteDecisionOutcome := .noRoute
  evidenceReferences : List ObservationId := []
  explanation : Text := []
  createdAt : Timestamp := {}
  executable : Bool := false
  deriving DecidableEq

/-- Why a candidate is not eligible.  `freshness` records whether the freshness
block issued the reason, which is what the overall outcome looks at. -/
structure Rejection where
  reason : RouteRejectionReason
  detail : Text
  freshness : Bool := false

/-- Reason attached to a link whose state is not supported. -/
def unsupportedStateReason (state : LinkOperationalState) : RouteRejectionReason :=
  if state.isDown then .linkDown
  else if state = .unsupported then .linkUnsupported
  else if state = .stale then .linkStaleGeneration
  else if state = .revalidationRequired then .freshnessViolation
  else .linkDown

/-- The `require_supported_links` block: the first link without a supported state. -/
def rejectUnsupportedLink (topo : TopologySnapshot) (path : Path) : Option Rejection :=
  path.links.findSome? fun id =>
    match topo.findLink id with
    | none => some { reason := .linkDown, detail := "link missing" }
    | some link =>
        if link.state.isSupportedState then none
        else
          some { reason := unsupportedStateReason link.state,
                 detail := linkStateName link.state }

/-- The `require_fresh` block. -/
def rejectNotFresh (quality : PathQuality) : Option Rejection :=
  if quality.outcome = .revalidationRequired then
    some { reason := .freshnessViolation, detail := "revalidation required",
           freshness := true }
  else if quality.stale then
    some { reason := .freshnessViolation, detail := "stale evidence", freshness := true }
  else none

/-- The `min_measured_bandwidth_bps` block. -/
def rejectMeasuredBelow (quality : PathQuality) (minimum : ℚ) : Option Rejection :=
  match quality.measuredBandwidthBps with
  | none => some { reason := .insufficientEvidence, detail := "no measured bandwidth" }
  | some measured =>
      if measured < minimum then
        some { reason := .minCapabilityUnmet,
               detail := "measured bandwidth below minimum" }
      else none

/-- The `required_technology` block. -/
def rejectTechnology (topo : TopologySnapshot) (path : Path)
    (technology : InterconnectTechnology) : Option Rejection :=
  if path.links.any fun id => (topo.findLink id).all (·.technology ≠ technology) then
    some { reason := .technologyExcluded, detail := "technology mismatch" }
  else none

/-- A block that rejects with one fixed reason. -/
def rejectIf (violated : Bool) (reason : RouteRejectionReason) (detail : Text) :
    Option Rejection :=
  if violated then some { reason := reason, detail := detail } else none

/-- The hard constraints in code order; the first violated one decides. -/
def hardRejection (policy : RoutePolicy) (topo : TopologySnapshot) (path : Path)
    (quality : PathQuality) : Option Rejection :=
  [ if policy.hard.requireSupportedLinks then rejectUnsupportedLink topo path else none,
    if policy.hard.requireFresh then rejectNotFresh quality else none,
    rejectIf (policy.hard.requireDirect && !path.direct) .notDirect "not direct",
    rejectIf (policy.hard.minNominalBandwidthBps.any (quality.nominalBandwidthBps < ·))
      .minCapabilityUnmet "nominal bandwidth below minimum",
    policy.hard.minMeasuredBandwidthBps.bind (rejectMeasuredBelow quality),
    policy.hard.requiredTechnology.bind (rejectTechnology topo path),
    rejectIf (policy.hard.maxHops.any (path.hopCount > ·)) .pathTooDeep "too many hops",
    rejectIf (policy.hard.excludeDegraded && quality.degradedLinks > 0)
      .linkDegradedBelowMinimum "degraded links present",
    rejectIf (policy.hard.excludeDown && quality.downLinks > 0)
      .linkDown "down links present",
    rejectIf (policy.hard.excludeContended && quality.contended)
      .policyExcluded "contended" ].findSome? id

/-- `Eval`: a candidate with its quality and score. -/
structure Eval where
  path : Path
  quality : PathQuality
  score : ℚ := 0

def optBwHigher (left right : Option ℚ) : Bool :=
  match left, right with
  | some left, some right => left > right
  | some _, none => true
  | none, _ => false

def optLatLower (left right : Option ℚ) : Bool :=
  match left, right with
  | some left, some right => left < right
  | some _, none => true
  | none, _ => false

/-- The comparator of the ranking sort behind its first line, for equal scores. -/
def Eval.tieBefore (left right : Eval) : Bool :=
  if left.path.direct ≠ right.path.direct then left.path.direct
  else if left.path.hopCount ≠ right.path.hopCount then
    left.path.hopCount < right.path.hopCount
  else if left.quality.nominalBandwidthBps ≠ right.quality.nominalBandwidthBps then
    left.quality.nominalBandwidthBps > right.quality.nominalBandwidthBps
  else if optBwHigher left.quality.measuredBandwidthBps right.quality.measuredBandwidthBps
    then true
  else if optBwHigher right.quality.measuredBandwidthBps left.quality.measuredBandwidthBps
    then false
  else if optLatLower left.quality.measuredLatencySeconds
    right.quality.measuredLatencySeconds
    then true
  else if optLatLower right.quality.measuredLatencySeconds
    left.quality.measuredLatencySeconds
    then false
  else left.path.id < right.path.id

/-- The comparator of the ranking sort, on exact scores. -/
def Eval.before (left right : Eval) : Bool :=
  if left.score ≠ right.score then left.score > right.score
  else left.tieBefore right

/-- How the sort of a decision compares two of the eligible candidates. -/
abbrev Ranking := RoutePolicy → List Eval → Eval → Eval → Bool

/-- Maxima over the eligible candidates. -/
def factorContext (evals : List Eval) : FactorContext :=
  evals.foldl
    (fun context eval =>
      { maxNominalBps := max context.maxNominalBps eval.quality.nominalBandwidthBps.toNat
        maxMeasuredBps :=
          match eval.quality.measuredBandwidthBps with
          | none => context.maxMeasuredBps
          | some measured => max context.maxMeasuredBps measured })
    {}

/-- Score every candidate exactly and sort stably: an element stays before the later
ones unless the comparator puts a later one first. -/
def rank (policy : RoutePolicy) (evals : List Eval) : List Eval :=
  let context := factorContext evals
  (evals.map fun eval =>
    { eval with score := scorePath policy eval.quality context }).insertionSort
    fun left right => !right.before left

/-! ## The decision -/

/-- A candidate after quality computation and the hard constraints. -/
structure Candidate where
  path : Path
  quality : PathQuality
  rejection : Option Rejection

/-- Every enumerated path with its quality and the constraint it violates. -/
def candidates (limits : Limits) (policy : RoutePolicy) (view : ConsistentView)
    (source target : DeviceId) : List Candidate :=
  (enumeratePathsImpl view.topology source target limits).map fun path =>
    let quality := computeQuality view.topology view.measurements path
    { path := path
      quality := quality
      rejection := hardRejection policy view.topology path quality }

/-- Candidates that compete in the ranking. -/
def eligible (candidates : List Candidate) : List Eval :=
  candidates.filterMap fun candidate =>
    match candidate.rejection with
    | none => some { path := candidate.path, quality := candidate.quality }
    | some _ => none

/-- Candidates recorded as rejected. -/
def rejections (candidates : List Candidate) : List RejectedCandidate :=
  candidates.filterMap fun candidate =>
    candidate.rejection.map fun rejection =>
      { path := candidate.path.id
        reason := rejection.reason
        detail :=
          if rejection.detail.isEmpty then "rejected by policy" else rejection.detail }

/-- The candidate sorted to the front. -/
def selectBest (limits : Limits) (policy : RoutePolicy) (view : ConsistentView)
    (source target : DeviceId) : Option Eval :=
  (rank policy (eligible (candidates limits policy view source target))).head?

/-- Outcome when every candidate was rejected. -/
def rejectedOutcome (candidates : List Candidate) : RouteDecisionOutcome :=
  if candidates.any fun candidate =>
      candidate.rejection.isSome && candidate.quality.outcome = .unsupported then
    .unsupported
  else if candidates.any fun candidate => candidate.rejection.any (·.freshness) then
    .revalidationRequired
  else .policyRejected

/-- Outcome of a selected candidate. -/
def selectedOutcome : PathQualityOutcome → RouteDecisionOutcome
  | .healthy => .routeAllowed
  | .degraded | .contended => .routeAllowedDegraded
  | .unsupported => .unsupported
  | .revalidationRequired => .revalidationRequired
  | .insufficientEvidence => .insufficientEvidence
  | .linkDown | .noPath => .noRoute

/-- Outcomes that permit a route. -/
def RouteDecisionOutcome.permits (outcome : RouteDecisionOutcome) : Bool :=
  outcome = .routeAllowed || outcome = .routeAllowedDegraded

/-- One entry of `join_rejections`. -/
def rejectionText (candidate : RejectedCandidate) : Text :=
  let detail : Text :=
    if candidate.detail.isEmpty then [] else (": " : Text) ++ candidate.detail
  rejectionReasonName candidate.reason ++ "(" ++ candidate.path.toText ++ detail ++ ")"

def joinRejections (rejected : List RejectedCandidate) : Text :=
  "no eligible path; rejected: " ++ ("; " : Text).intercalate (rejected.map rejectionText)

/-- Explanation of a selected candidate. -/
def explainSelection (best : Eval) (rejected : List RejectedCandidate) : Text :=
  let direct : Text := if best.path.direct then "true" else "false"
  let others : Text :=
    if rejected.isEmpty then [] else ("; rejected=" : Text) ++ joinRejections rejected
  "selected path " ++ best.path.id.toText ++ " hops=" ++ Text.ofNat best.path.hopCount ++
    " directed=" ++ direct ++
    " outcome=" ++ pathQualityOutcomeName best.quality.outcome ++
    " evidence=" ++ evidenceClassName best.quality.evidence.evidenceClass ++ others

/-- `collect_evidence`: the newest device observation of each device on the path. -/
def collectEvidence (observations : List Observation) (path : Path) :
    List ObservationId :=
  path.devices.filterMap fun id =>
    (observations.reverse.find? fun observation =>
      observation.source = id && observation.kind = Text.ofLiteral "device").map (·.id)

namespace Registry

/-- `decide_route`, with the candidate that its sort puts to the front of the eligible
ones and the observation log its second read finds. -/
def decideRouteFrom (front : List Eval → Option Eval) (limits : Limits)
    (ambient : Ambient) (source target : DeviceId) (policy : RoutePolicy) (state : State)
    (observed : List Observation) : Result RouteDecision :=
  let decision : RouteDecision :=
    { id := ambient.routeDecisionId
      source := source
      target := target
      routeGeneration := ambient.routeGeneration
      policy := policy.id
      createdAt := ambient.now }
  let view := consistentView state
  match view.topology.findDevice source, view.topology.findDevice target with
  | none, _ =>
      .ok { decision with
        outcome := .noRoute
        explanation := "source endpoint not present in current topology" }
  | some _, none =>
      .ok { decision with
        outcome := .noRoute
        explanation := "target endpoint not present in current topology" }
  | some sourceDevice, some targetDevice =>
      let decision : RouteDecision :=
        { decision with
          sourceGeneration := sourceDevice.generation
          targetGeneration := targetDevice.generation
          topologyGeneration := view.topology.generation }
      let found : List Candidate := candidates limits policy view source target
      if found.isEmpty then
        .ok { decision with
          outcome := .noRoute
          explanation := "no path exists between endpoints in current topology" }
      else
        let decision : RouteDecision :=
          { decision with
            candidatesConsidered := found.map (·.path.id)
            rejected := rejections found }
        match front (eligible found) with
        | none =>
            .ok { decision with
              outcome := rejectedOutcome found
              explanation := joinRejections (rejections found) }
        | some best =>
            let outcome := selectedOutcome best.quality.outcome
            .ok { decision with
              selected := some best.path.id
              outcome := outcome
              executable := outcome.permits
              explanation := explainSelection best (rejections found)
              evidenceReferences := collectEvidence observed best.path }

/-- `decide_route` with any comparator, undisturbed by other threads. -/
def decideRouteBy (ranking : Ranking) (limits : Limits) (ambient : Ambient)
    (source target : DeviceId) (policy : RoutePolicy) (state : State) :
    Result RouteDecision :=
  decideRouteFrom (fun evals =>
    Selection.front (ranking policy evals) evals) limits ambient
    source target policy state state.observations

/-- `decide_route` with exact scores. -/
def decideRouteWith (limits : Limits) (ambient : Ambient) (source target : DeviceId)
    (policy : RoutePolicy) (state : State) (observed : List Observation) :
    Result RouteDecision :=
  decideRouteFrom (fun evals =>
    (rank policy evals).head?) limits ambient source target policy
    state observed

/-- `decide_route` with no concurrent mutation between its two reads. -/
def decideRoute (limits : Limits) (ambient : Ambient) (source target : DeviceId)
    (policy : RoutePolicy) (state : State) : Result RouteDecision :=
  decideRouteWith limits ambient source target policy state state.observations

/-- `is_route_executable`. -/
def isRouteExecutable (decision : RouteDecision) (state : State) : Bool :=
  let topology := (consistentView state).topology
  decision.executable &&
    (topology.generation = decision.topologyGeneration &&
      match topology.findDevice decision.source, topology.findDevice decision.target with
      | some source, some target =>
          source.generation = decision.sourceGeneration &&
            target.generation = decision.targetGeneration
      | _, _ => false)

/-- `revalidate_route`. -/
def revalidateRoute (ambient : Ambient) (decision : RouteDecision) (state : State) :
    Result RouteDecision :=
  if isRouteExecutable decision state then .ok decision
  else
    .ok
      { id := ambient.routeDecisionId
        source := decision.source
        target := decision.target
        routeGeneration := ambient.routeGeneration
        policy := decision.policy
        createdAt := ambient.now
        outcome := .revalidationRequired
        explanation := "route decision is stale; fresh evidence or a new topology is " ++
          "required before routing may proceed" }

/-- Ranking only writes scores: the winner is an eligible candidate with the
quality computed for its path. -/
theorem selectBest_spec {limits : Limits} {policy : RoutePolicy} {view : ConsistentView}
    {source target : DeviceId} {best : Eval}
    (selected : selectBest limits policy view source target = some best) :
    best.path ∈ enumeratePathsImpl view.topology source target limits ∧
      best.quality = computeQuality view.topology view.measurements best.path ∧
      hardRejection policy view.topology best.path best.quality = none := by
  have ranked := List.mem_of_mem_head? (Option.mem_def.mpr selected)
  simp only [rank, List.mem_insertionSort, List.mem_map, eligible, candidates,
    List.mem_filterMap] at ranked
  obtain ⟨eval, ⟨candidate, ⟨path, enumerated, rfl⟩, kept⟩, rfl⟩ := ranked
  simp only at kept
  split at kept
  next accepted =>
    simp only [Option.some.injEq] at kept
    subst kept
    exact ⟨enumerated, rfl, accepted⟩
  · simp at kept

/-- Some candidate is selected if one passes the hard constraints. -/
theorem exists_selectBest {limits : Limits} {policy : RoutePolicy} {view : ConsistentView}
    {source target : DeviceId} {path : Path}
    (enumerated : path ∈ enumeratePathsImpl view.topology source target limits)
    (accepted : hardRejection policy view.topology path
      (computeQuality view.topology view.measurements path) = none) :
    ∃ best, selectBest limits policy view source target = some best := by
  have competes :
      { path, quality := computeQuality view.topology view.measurements path } ∈
      eligible (candidates limits policy view source target) := by
    simp only [eligible, candidates, List.mem_filterMap, List.mem_map]
    exact ⟨_, ⟨path, enumerated, rfl⟩, by simp [accepted]⟩
  rw [← Option.isSome_iff_exists, selectBest, List.isSome_head?]
  intro unranked
  have lengths := congrArg List.length unranked
  rw [rank, List.length_insertionSort, List.length_map] at lengths
  exact List.ne_nil_of_mem competes (List.length_eq_zero_iff.mp lengths)

/-- An outcome that permits a route is not a blocking one. -/
theorem outcome_of_permits {outcome : PathQualityOutcome}
    (permitted : (selectedOutcome outcome).permits = true) :
    outcome ≠ .linkDown ∧ outcome ≠ .unsupported ∧ outcome ≠ .revalidationRequired := by
  cases outcome <;> simp [selectedOutcome, RouteDecisionOutcome.permits] at permitted ⊢

/-! ## Executable decisions -/

variable {limits : Limits} {ambient : Ambient} {source target : DeviceId}
variable {policy : RoutePolicy} {state : State} {decision : RouteDecision}

/-- Everything an executable decision was taken from: both endpoints, the
generation of the view and a chosen candidate with a permitting outcome. -/
structure Justified (source target : DeviceId) (state : State) (chosen : Option Eval)
    (decision : RouteDecision) : Prop where
  source_eq : decision.source = source
  target_eq : decision.target = target
  generation_eq : decision.topologyGeneration = state.topologyGen
  source_found : ∃ device, (buildSnapshot state).findDevice source = some device ∧
    decision.sourceGeneration = device.generation
  target_found : ∃ device, (buildSnapshot state).findDevice target = some device ∧
    decision.targetGeneration = device.generation
  best_selected : ∃ best, chosen = some best ∧ decision.selected = some best.path.id ∧
    (selectedOutcome best.quality.outcome).permits = true

/-- A decision between devices of the view. -/
structure Located (source target : DeviceId) (state : State) (decision : RouteDecision) :
    Prop where
  source_eq : decision.source = source
  target_eq : decision.target = target
  generation_eq : decision.topologyGeneration = state.topologyGen
  source_found : ∃ device, (buildSnapshot state).findDevice source = some device ∧
    decision.sourceGeneration = device.generation
  target_found : ∃ device, (buildSnapshot state).findDevice target = some device ∧
    decision.targetGeneration = device.generation

/-- A decision without a selected path. -/
structure Unselected (decision : RouteDecision) : Prop where
  selected : decision.selected = none
  evidence : decision.evidenceReferences = []
  executable : decision.executable = false

/-- The ways in which `decide_route` ends, by the candidate it chose. -/
inductive Decided (limits : Limits) (source target : DeviceId) (policy : RoutePolicy)
    (state : State) (observed : List Observation) (chosen : Option Eval)
    (decision : RouteDecision) : Prop where
  | absent
      (missing : (buildSnapshot state).findDevice source = none ∨
        (buildSnapshot state).findDevice target = none)
      (unselected : Unselected decision)
      (outcome : decision.outcome = .noRoute)
  | noPath
      (located : Located source target state decision)
      (empty : candidates limits policy (consistentView state) source target = [])
      (lists : decision.candidatesConsidered = [] ∧ decision.rejected = [])
      (unselected : Unselected decision)
      (outcome : decision.outcome = .noRoute)
  | rejected
      (located : Located source target state decision)
      (front : chosen = none)
      (lists : decision.candidatesConsidered =
          (candidates limits policy (consistentView state) source target).map
            (·.path.id) ∧
        decision.rejected =
          rejections (candidates limits policy (consistentView state) source target))
      (unselected : Unselected decision)
      (outcome : decision.outcome =
        rejectedOutcome (candidates limits policy (consistentView state) source target))
  | selected
      (located : Located source target state decision) (best : Eval)
      (front : chosen = some best)
      (lists : decision.candidatesConsidered =
          (candidates limits policy (consistentView state) source target).map
            (·.path.id) ∧
        decision.rejected =
          rejections (candidates limits policy (consistentView state) source target))
      (selected : decision.selected = some best.path.id)
      (evidence : decision.evidenceReferences = collectEvidence observed best.path)
      (outcome : decision.outcome = selectedOutcome best.quality.outcome)
      (executable : decision.executable = decision.outcome.permits)

section From

variable {front : List Eval → Option Eval} {observed : List Observation}

theorem decidedFrom_of_ok
    (ok : decideRouteFrom front limits ambient source target policy state observed =
      .ok decision) :
    Decided limits source target policy state observed
      (front (eligible (candidates limits policy (consistentView state) source target)))
      decision := by
  unfold decideRouteFrom at ok
  simp only at ok
  split at ok
  next missing =>
    obtain rfl := Except.ok.inj ok
    exact .absent (.inl missing) ⟨rfl, rfl, rfl⟩ rfl
  next missing =>
    obtain rfl := Except.ok.inj ok
    exact .absent (.inr missing) ⟨rfl, rfl, rfl⟩ rfl
  next sourceDevice targetDevice sourceFound targetFound =>
    split at ok
    next empty =>
      obtain rfl := Except.ok.inj ok
      exact .noPath ⟨rfl, rfl, rfl, ⟨_, sourceFound, rfl⟩, ⟨_, targetFound, rfl⟩⟩
        (List.isEmpty_iff.mp empty) ⟨rfl, rfl⟩ ⟨rfl, rfl, rfl⟩ rfl
    split at ok
    next front =>
      obtain rfl := Except.ok.inj ok
      exact .rejected ⟨rfl, rfl, rfl, ⟨_, sourceFound, rfl⟩, ⟨_, targetFound, rfl⟩⟩ front
        ⟨rfl, rfl⟩ ⟨rfl, rfl, rfl⟩ rfl
    next best front =>
      obtain rfl := Except.ok.inj ok
      exact .selected ⟨rfl, rfl, rfl, ⟨_, sourceFound, rfl⟩, ⟨_, targetFound, rfl⟩⟩ best
        front ⟨rfl, rfl⟩ rfl rfl rfl rfl

theorem justifiedFrom_of_executable
    (decided : decideRouteFrom front limits ambient source target policy state observed =
      .ok decision) (executable : decision.executable = true) :
    Justified source target state
      (front (eligible (candidates limits policy (consistentView state) source target)))
      decision := by
  cases decidedFrom_of_ok decided with
  | absent _ unselected | noPath _ _ _ unselected | rejected _ _ _ unselected =>
      rw [unselected.executable] at executable
      simp at executable
  | selected located best front _ selected _ outcome permitted =>
      rw [permitted, outcome] at executable
      exact ⟨located.source_eq, located.target_eq, located.generation_eq,
        located.source_found, located.target_found, ⟨best, front, selected, executable⟩⟩

/-- A decision depends on the path and the quality of the chosen candidate, not on its
score. -/
theorem decideRouteFrom_congr {other : List Eval → Option Eval}
    (same : ∀ evals, (front evals).map (fun eval => (eval.path, eval.quality)) =
      (other evals).map fun eval => (eval.path, eval.quality)) :
    decideRouteFrom front limits ambient source target policy state observed =
      decideRouteFrom other limits ambient source target policy state observed := by
  have chosen :=
    same (eligible (candidates limits policy (consistentView state) source target))
  simp only [decideRouteFrom]
  split
  · rfl
  · rfl
  · cases left : front (eligible (candidates limits policy (consistentView state) source
        target)) with
    | none =>
        rw [left, Option.map_none, eq_comm, Option.map_eq_none_iff] at chosen
        rw [chosen]
    | some best =>
        rw [left, Option.map_some, eq_comm, Option.map_eq_some_iff] at chosen
        obtain ⟨twin, right, equal⟩ := chosen
        obtain ⟨path, quality⟩ := Prod.mk.inj equal
        simp only [right, path, quality, explainSelection]

/-- Between present devices the outcome of the chosen candidate is the outcome of the
decision. -/
theorem decideRouteFrom_of_chosen {best : Eval}
    (sourceFound : (buildSnapshot state).findDevice source ≠ none)
    (targetFound : (buildSnapshot state).findDevice target ≠ none)
    (nonempty : candidates limits policy (consistentView state) source target ≠ [])
    (chosen : front (eligible
      (candidates limits policy (consistentView state) source target)) = some best)
    (decided : decideRouteFrom front limits ambient source target policy state observed =
      .ok decision) :
    decision.selected = some best.path.id ∧
      decision.outcome = selectedOutcome best.quality.outcome ∧
      decision.executable = decision.outcome.permits := by
  cases decidedFrom_of_ok decided with
  | absent missing => exact absurd missing (not_or.mpr ⟨sourceFound, targetFound⟩)
  | noPath _ empty => exact absurd empty nonempty
  | rejected _ front =>
      rw [front] at chosen
      simp at chosen
  | selected _ other front _ selected _ outcome executable =>
      obtain rfl := Option.some.inj (front.symm.trans chosen)
      exact ⟨selected, outcome, executable⟩

/-- A selected path is that of the chosen candidate. -/
theorem chosen_of_selected {id : PathId}
    (decided : decideRouteFrom front limits ambient source target policy state observed =
      .ok decision) (selected : decision.selected = some id) :
    ∃ best, front (eligible
        (candidates limits policy (consistentView state) source target)) = some best ∧
      best.path.id = id := by
  cases decidedFrom_of_ok decided with
  | absent _ unselected | noPath _ _ _ unselected | rejected _ _ _ unselected =>
      rw [unselected.selected] at selected
      simp at selected
  | selected _ best front _ chosen =>
      exact ⟨best, front, Option.some.inj (chosen.symm.trans selected)⟩

/-- `decide_route` always returns a decision. -/
theorem decideRouteFrom_total (front : List Eval → Option Eval) (limits : Limits)
    (ambient : Ambient) (source target : DeviceId) (policy : RoutePolicy) (state : State)
    (observed : List Observation) :
    ∃ decision, decideRouteFrom front limits ambient source target policy state observed =
      .ok decision := by
  unfold decideRouteFrom
  simp only
  split
  · exact ⟨_, rfl⟩
  · exact ⟨_, rfl⟩
  · split
    · exact ⟨_, rfl⟩
    · split <;> exact ⟨_, rfl⟩

end From

theorem decided_of_ok {observed : List Observation}
    (ok : decideRouteWith limits ambient source target policy state observed =
      .ok decision) :
    Decided limits source target policy state observed
      (selectBest limits policy (consistentView state) source target) decision :=
  decidedFrom_of_ok ok

theorem justified_of_executable {observed : List Observation}
    (decided : decideRouteWith limits ambient source target policy state observed =
      .ok decision) (executable : decision.executable = true) :
    Justified source target state
      (selectBest limits policy (consistentView state) source target) decision :=
  justifiedFrom_of_executable decided executable

/-- Between present devices the outcome of the selected candidate is the outcome of the
decision. -/
theorem decideRouteWith_of_selected {best : Eval} {observed : List Observation}
    (sourceFound : (buildSnapshot state).findDevice source ≠ none)
    (targetFound : (buildSnapshot state).findDevice target ≠ none)
    (selected : selectBest limits policy (consistentView state) source target = some best)
    (decided : decideRouteWith limits ambient source target policy state observed =
      .ok decision) :
    decision.selected = some best.path.id ∧
      decision.outcome = selectedOutcome best.quality.outcome ∧
      decision.executable = decision.outcome.permits := by
  refine decideRouteFrom_of_chosen sourceFound targetFound ?_ selected decided
  intro empty
  rw [selectBest, empty] at selected
  simp [eligible, rank] at selected

/-- Between present devices the outcome over rejected candidates follows the
rejections. -/
theorem decideRouteWith_of_rejected {observed : List Observation}
    (sourceFound : (buildSnapshot state).findDevice source ≠ none)
    (targetFound : (buildSnapshot state).findDevice target ≠ none)
    (nonempty : candidates limits policy (consistentView state) source target ≠ [])
    (unselected : selectBest limits policy (consistentView state) source target = none)
    (decided : decideRouteWith limits ambient source target policy state observed =
      .ok decision) :
    decision.outcome =
        rejectedOutcome (candidates limits policy (consistentView state) source target) ∧
      decision.rejected =
        rejections (candidates limits policy (consistentView state) source target) := by
  cases decided_of_ok decided with
  | absent missing => exact absurd missing (not_or.mpr ⟨sourceFound, targetFound⟩)
  | noPath _ empty => exact absurd empty nonempty
  | rejected _ _ lists _ outcome => exact ⟨outcome, lists.2⟩
  | selected _ best front =>
      rw [front] at unselected
      simp at unselected

theorem decideRouteWith_total (limits : Limits) (ambient : Ambient)
    (source target : DeviceId) (policy : RoutePolicy) (state : State)
    (observed : List Observation) :
    ∃ decision, decideRouteWith limits ambient source target policy state observed =
      .ok decision :=
  decideRouteFrom_total _ limits ambient source target policy state observed

theorem decideRoute_total (limits : Limits) (ambient : Ambient) (source target : DeviceId)
    (policy : RoutePolicy) (state : State) :
    ∃ decision, decideRoute limits ambient source target policy state = .ok decision :=
  decideRouteWith_total limits ambient source target policy state state.observations

/-- A decision is executable in the state it was taken from exactly when it is
marked executable, whenever its log was read. -/
theorem isRouteExecutable_decidedWith {observed : List Observation}
    (decided : decideRouteWith limits ambient source target policy state observed =
      .ok decision) : isRouteExecutable decision state = decision.executable := by
  cases executable : decision.executable with
  | false => simp [isRouteExecutable, executable]
  | true =>
      have justified := justified_of_executable decided executable
      obtain ⟨sourceDevice, sourceFound, sourceGeneration⟩ := justified.source_found
      obtain ⟨targetDevice, targetFound, targetGeneration⟩ := justified.target_found
      simp [isRouteExecutable, executable, consistentView, justified.source_eq,
        justified.target_eq, sourceFound, targetFound, sourceGeneration, targetGeneration,
        justified.generation_eq]

theorem isRouteExecutable_decided
    (decided : decideRoute limits ambient source target policy state = .ok decision) :
    isRouteExecutable decision state = decision.executable :=
  isRouteExecutable_decidedWith decided

/-- The check reads the generation and the device table alone. -/
theorem isRouteExecutable_congr {left right : State}
    (generation : left.topologyGen = right.topologyGen)
    (devices : left.devices = right.devices) :
    isRouteExecutable decision left = isRouteExecutable decision right := by
  have found (id : DeviceId) :
      (buildSnapshot left).findDevice id = (buildSnapshot right).findDevice id := by
    simp only [buildSnapshot, TopologySnapshot.findDevice, devices]
  simp only [isRouteExecutable, consistentView, buildSnapshot_generation,
    generation, found]
  rfl

/-- A decision made under another topology generation is not executable. -/
theorem isRouteExecutable_of_generation_ne
    (different : state.topologyGen ≠ decision.topologyGeneration) :
    isRouteExecutable decision state = false := by
  simp [isRouteExecutable, consistentView, different]

end Registry

end NvlinkFabric

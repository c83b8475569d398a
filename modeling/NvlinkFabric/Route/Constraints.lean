import NvlinkFabric.Route.Decision
import NvlinkFabric.Path.Exact

/-!
# Candidates and hard constraints

The blocks of `decide_route` that reject a candidate are read here as constraints
of their own, each with the condition that violates it and the reason attached to
it.  The blocks reject exactly the candidates that violate an enabled constraint,
for the first one in code order, and only the others are ranked.
-/

namespace NvlinkFabric

/-- The hard constraints of a policy. -/
inductive Constraint where
  | supportedLinks | fresh | direct | nominalBandwidth | measuredBandwidth | technology
  | hops | notDegraded | notDown | notContended
  deriving DecidableEq

/-- The order in which `decide_route` checks them. -/
def Constraint.codeOrder : List Constraint :=
  [.supportedLinks, .fresh, .direct, .nominalBandwidth, .measuredBandwidth, .technology,
    .hops, .notDegraded, .notDown, .notContended]

variable (policy : RoutePolicy) (topo : TopologySnapshot) (path : Path)
variable (quality : PathQuality)

/-- The snapshot holds no link of that identity in one of the supported states. -/
def unsupportedLink (id : LinkId) : Bool :=
  !(topo.findLink id).any fun link =>
    link.state = .up || link.state = .present || link.state = .supported ||
      link.state = .degraded

/-- The constraint is enabled and the candidate violates it. -/
def Constraint.violated : Constraint → Bool
  | .supportedLinks =>
      policy.hard.requireSupportedLinks && path.links.any (unsupportedLink topo)
  | .fresh =>
      policy.hard.requireFresh &&
        (quality.outcome = .revalidationRequired || quality.stale)
  | .direct => policy.hard.requireDirect && !path.direct
  | .nominalBandwidth =>
      policy.hard.minNominalBandwidthBps.any fun minimum =>
        quality.nominalBandwidthBps < minimum
  | .measuredBandwidth =>
      policy.hard.minMeasuredBandwidthBps.any fun minimum =>
        quality.measuredBandwidthBps.all (· < minimum)
  | .technology =>
      policy.hard.requiredTechnology.any fun technology =>
        path.links.any fun id => !(topo.findLink id).any (·.technology = technology)
  | .hops => policy.hard.maxHops.any (· < path.hopCount)
  | .notDegraded => policy.hard.excludeDegraded && 0 < quality.degradedLinks
  | .notDown => policy.hard.excludeDown && 0 < quality.downLinks
  | .notContended => policy.hard.excludeContended && quality.contended

/-- Reason attached to a violated constraint.  An unsupported link gives the reason of
its state, the first such link of the path deciding. -/
def Constraint.reason : Constraint → RouteRejectionReason
  | .supportedLinks =>
      match (path.links.find? (unsupportedLink topo)).bind topo.findLink with
      | none => .linkDown
      | some link => unsupportedStateReason link.state
  | .fresh => .freshnessViolation
  | .direct => .notDirect
  | .nominalBandwidth => .minCapabilityUnmet
  | .measuredBandwidth =>
      if quality.measuredBandwidthBps = none then .insufficientEvidence
      else .minCapabilityUnmet
  | .technology => .technologyExcluded
  | .hops => .pathTooDeep
  | .notDegraded => .linkDegradedBelowMinimum
  | .notDown => .linkDown
  | .notContended => .policyExcluded

/-- The first violated constraint in code order. -/
def firstViolated : Option Constraint :=
  Constraint.codeOrder.find? (Constraint.violated policy topo path quality)

/-- The block of `decide_route` that checks a constraint. -/
def Constraint.block : Constraint → Option Rejection
  | .supportedLinks =>
      if policy.hard.requireSupportedLinks then rejectUnsupportedLink topo path else none
  | .fresh => if policy.hard.requireFresh then rejectNotFresh quality else none
  | .direct =>
      rejectIf (policy.hard.requireDirect && !path.direct) .notDirect "not direct"
  | .nominalBandwidth =>
      rejectIf (policy.hard.minNominalBandwidthBps.any (quality.nominalBandwidthBps < ·))
        .minCapabilityUnmet "nominal bandwidth below minimum"
  | .measuredBandwidth =>
      policy.hard.minMeasuredBandwidthBps.bind (rejectMeasuredBelow quality)
  | .technology => policy.hard.requiredTechnology.bind (rejectTechnology topo path)
  | .hops =>
      rejectIf (policy.hard.maxHops.any (path.hopCount > ·)) .pathTooDeep "too many hops"
  | .notDegraded =>
      rejectIf (policy.hard.excludeDegraded && quality.degradedLinks > 0)
        .linkDegradedBelowMinimum "degraded links present"
  | .notDown =>
      rejectIf (policy.hard.excludeDown && quality.downLinks > 0)
        .linkDown "down links present"
  | .notContended =>
      rejectIf (policy.hard.excludeContended && quality.contended)
        .policyExcluded "contended"

theorem hardRejection_eq_findSome? :
    hardRejection policy topo path quality =
      Constraint.codeOrder.findSome? (Constraint.block policy topo path quality) := rfl

theorem rejectIf_reason (violated : Bool) (reason : RouteRejectionReason)
    (detail : Text) :
    (rejectIf violated reason detail).map (·.reason) =
      if violated then some reason else none := by
  cases violated <;> rfl

theorem rejectUnsupportedLink_reason :
    (rejectUnsupportedLink topo path).map (·.reason) =
      if path.links.any (unsupportedLink topo) then
        some (Constraint.reason topo path quality .supportedLinks)
      else none := by
  simp only [rejectUnsupportedLink, Constraint.reason]
  induction path.links with
  | nil => simp
  | cons id ids ih =>
      cases found : topo.findLink id with
      | none => simp [unsupportedLink, found]
      | some link =>
          have same : unsupportedLink topo id = !link.state.isSupportedState := by
            rw [unsupportedLink, found]
            rfl
          cases supported : link.state.isSupportedState with
          | true => simpa [found, supported, same] using ih
          | false => simp [found, supported, same]

/-- A block rejects if its constraint is violated, with the reason attached to it. -/
theorem block_reason (constraint : Constraint) :
    (Constraint.block policy topo path quality constraint).map (·.reason) =
      if Constraint.violated policy topo path quality constraint then
        some (Constraint.reason topo path quality constraint)
      else none := by
  cases constraint with
  | supportedLinks =>
      cases enabled : policy.hard.requireSupportedLinks with
      | false => simp [Constraint.block, Constraint.violated, enabled]
      | true =>
          simp only [Constraint.block, Constraint.violated, enabled, if_true,
            Bool.true_and]
          exact rejectUnsupportedLink_reason topo path quality
  | fresh =>
      cases enabled : policy.hard.requireFresh with
      | false => simp [Constraint.block, Constraint.violated, enabled]
      | true =>
          by_cases lapsed : quality.outcome = .revalidationRequired
          · simp [Constraint.block, Constraint.violated, Constraint.reason, enabled,
              rejectNotFresh, lapsed]
          · cases stale : quality.stale <;>
              simp [Constraint.block, Constraint.violated, Constraint.reason, enabled,
                rejectNotFresh, lapsed, stale]
  | measuredBandwidth =>
      cases minimum : policy.hard.minMeasuredBandwidthBps with
      | none => simp [Constraint.block, Constraint.violated, minimum]
      | some bound =>
          cases measured : quality.measuredBandwidthBps with
          | none =>
              simp [Constraint.block, Constraint.violated, Constraint.reason, minimum,
                rejectMeasuredBelow, measured]
          | some bandwidth =>
              by_cases below : bandwidth < bound <;>
                simp [Constraint.block, Constraint.violated, Constraint.reason, minimum,
                  rejectMeasuredBelow, measured, below]
  | technology =>
      cases required : policy.hard.requiredTechnology with
      | none => simp [Constraint.block, Constraint.violated, required]
      | some technology =>
          have mismatch (id : LinkId) :
              (topo.findLink id).all (·.technology ≠ technology) =
              !(topo.findLink id).any (·.technology = technology) := by
            cases topo.findLink id <;> simp
          simp only [Constraint.block, Constraint.violated, Constraint.reason, required,
            Option.bind_some, Option.any_some, rejectTechnology, mismatch]
          split <;> rfl
  | direct | nominalBandwidth | hops | notDegraded | notDown | notContended =>
      exact rejectIf_reason _ _ _

/-- The rejection comes from the block of the first violated constraint. -/
theorem hardRejection_eq_bind :
    hardRejection policy topo path quality =
      (firstViolated policy topo path quality).bind
        (Constraint.block policy topo path quality) := by
  rw [hardRejection_eq_findSome?, firstViolated]
  induction Constraint.codeOrder with
  | nil => rfl
  | cons constraint constraints ih =>
      have checked := block_reason policy topo path quality constraint
      rw [List.findSome?_cons, List.find?_cons]
      cases violated : Constraint.violated policy topo path quality constraint with
      | false =>
          rw [violated, if_neg Bool.false_ne_true, Option.map_eq_none_iff] at checked
          simpa [checked] using ih
      | true =>
          rw [violated, if_pos rfl] at checked
          obtain ⟨rejection, rejected, -⟩ := Option.map_eq_some_iff.mp checked
          simp [rejected]

/-- Its reason is that of the first violated constraint. -/
theorem hardRejection_reason :
    (hardRejection policy topo path quality).map (·.reason) =
      (firstViolated policy topo path quality).map
        (Constraint.reason topo path quality) := by
  rw [hardRejection_eq_bind]
  cases first : firstViolated policy topo path quality with
  | none => rfl
  | some constraint =>
      have violated := List.find?_some first
      rw [Option.bind_some, block_reason, if_pos violated, Option.map_some]

/-- A candidate violates one of the enabled constraints. -/
def violatesSome : Bool :=
  Constraint.codeOrder.any (Constraint.violated policy topo path quality)

theorem hardRejection_isSome :
    (hardRejection policy topo path quality).isSome =
      violatesSome policy topo path quality := by
  rw [← Option.isSome_map, hardRejection_reason, Option.isSome_map, firstViolated,
    violatesSome, List.isSome_find?]

/-! ## All candidates -/

namespace Registry

variable {limits : Limits} {ambient : Ambient} {state : State} {source target : DeviceId}

/-- The quality `decide_route` computes for a candidate. -/
def qualityIn (state : State) (path : Path) : PathQuality :=
  computeQuality (buildSnapshot state) state.measurementHistory path

/-- The candidate violates an enabled constraint in the state. -/
def rejectedIn (policy : RoutePolicy) (state : State) (path : Path) : Bool :=
  violatesSome policy (buildSnapshot state) path (qualityIn state path)

theorem rejectedIn_eq_false_iff {policy : RoutePolicy} {path : Path} :
    rejectedIn policy state path = false ↔
      hardRejection policy (buildSnapshot state) path (qualityIn state path) = none := by
  rw [rejectedIn, ← hardRejection_isSome, Option.isSome_eq_false_iff,
    Option.isNone_iff_eq_none]

/-- Reason attached to the first violated constraint of a candidate. -/
def reasonIn (policy : RoutePolicy) (state : State) (path : Path) :
    Option RouteRejectionReason :=
  (firstViolated policy (buildSnapshot state) path (qualityIn state path)).map
    (Constraint.reason (buildSnapshot state) path (qualityIn state path))

/-- The candidates of a list of paths. -/
def candidatesOf (policy : RoutePolicy) (state : State) (paths : List Path) :
    List Candidate :=
  paths.map fun path =>
    { path := path
      quality := qualityIn state path
      rejection := hardRejection policy (buildSnapshot state) path
        (qualityIn state path) }

theorem candidates_eq (policy : RoutePolicy) (state : State) :
    candidates limits policy (consistentView state) source target =
      candidatesOf policy state
        (enumeratePathsImpl (buildSnapshot state) source target limits) := rfl

theorem rejections_candidatesOf (policy : RoutePolicy) (state : State)
    (paths : List Path) :
    (rejections (candidatesOf policy state paths)).map
        (fun candidate => (candidate.path, some candidate.reason)) =
      (paths.filter (rejectedIn policy state)).map
        (fun path => (path.id, reasonIn policy state path)) := by
  induction paths with
  | nil => rfl
  | cons path paths ih =>
      have reason := hardRejection_reason policy (buildSnapshot state) path
        (qualityIn state path)
      have violates : _ = rejectedIn policy state path := hardRejection_isSome policy
        (buildSnapshot state) path (qualityIn state path)
      rw [candidatesOf, List.map_cons, rejections, List.filterMap_cons, List.filter_cons,
        ← violates]
      cases rejected : hardRejection policy (buildSnapshot state) path
          (qualityIn state path) with
      | none => exact ih
      | some rejection =>
          rw [rejected, Option.map_some] at reason
          simp only [Option.map_some, Option.isSome_some, if_true, List.map_cons]
          rw [reasonIn, ← reason]
          exact congrArg _ ih

theorem eligible_candidatesOf (policy : RoutePolicy) (state : State) (paths : List Path) :
    (eligible (candidatesOf policy state paths)).map (·.path) =
      paths.filter fun path => !rejectedIn policy state path := by
  induction paths with
  | nil => rfl
  | cons path paths ih =>
      have violates : _ = rejectedIn policy state path := hardRejection_isSome policy
        (buildSnapshot state) path (qualityIn state path)
      rw [candidatesOf, List.map_cons, eligible, List.filterMap_cons, List.filter_cons,
        ← violates]
      cases rejected : hardRejection policy (buildSnapshot state) path
          (qualityIn state path) with
      | none => exact congrArg (path :: ·) ih
      | some rejection => exact ih

/-- Ranking reorders the candidates that compete. -/
theorem rank_paths_perm (policy : RoutePolicy) (evals : List Eval) :
    ((rank policy evals).map (·.path)).Perm (evals.map (·.path)) := by
  have scored := (List.perm_insertionSort (fun left right : Eval => !right.before left)
    (evals.map fun eval =>
      { eval with score := scorePath policy eval.quality (factorContext evals) })).map
        (·.path)
  rw [List.map_map] at scored
  exact scored

/-- The candidates that compete are those that violate nothing. -/
theorem rank_eligible_perm (policy : RoutePolicy) (state : State) (paths : List Path) :
    ((rank policy (eligible (candidatesOf policy state paths))).map (·.path)).Perm
      (paths.filter fun path => !rejectedIn policy state path) := by
  rw [← eligible_candidatesOf]
  exact rank_paths_perm policy _

theorem rank_eligible_eq_nil_iff (policy : RoutePolicy) (state : State)
    (paths : List Path) :
    rank policy (eligible (candidatesOf policy state paths)) = [] ↔
      ∀ path ∈ paths, rejectedIn policy state path = true := by
  rw [← List.map_eq_nil_iff (f := (·.path)), ← List.perm_nil]
  constructor
  · intro none path member
    have empty := (rank_eligible_perm policy state paths).symm.trans none
    rw [List.perm_nil, List.filter_eq_nil_iff] at empty
    simpa using empty path member
  · intro all
    apply (rank_eligible_perm policy state paths).trans
    rw [List.perm_nil, List.filter_eq_nil_iff]
    simpa using all

/-- The lists and the selection of a decision between present devices. -/
theorem decideRouteWith_fields (policy : RoutePolicy) (observed : List Observation)
    (sourceFound : (buildSnapshot state).findDevice source ≠ none)
    (targetFound : (buildSnapshot state).findDevice target ≠ none) :
    ∃ decision, decideRouteWith limits ambient source target policy state observed =
        .ok decision ∧
      decision.candidatesConsidered =
        (candidates limits policy (consistentView state) source target).map (·.path.id) ∧
      decision.rejected =
        rejections (candidates limits policy (consistentView state) source target) ∧
      decision.selected =
        (selectBest limits policy (consistentView state) source target).map
          (·.path.id) := by
  obtain ⟨decision, decided⟩ :=
    decideRouteWith_total limits ambient source target policy state observed
  refine ⟨decision, decided, ?_⟩
  cases decided_of_ok decided with
  | absent missing => exact absurd missing (not_or.mpr ⟨sourceFound, targetFound⟩)
  | noPath _ empty lists unselected =>
      rw [lists.1, lists.2, unselected.selected, selectBest, empty]
      exact ⟨rfl, rfl, rfl⟩
  | rejected _ front lists unselected =>
      rw [front, unselected.selected]
      exact ⟨lists.1, lists.2, rfl⟩
  | selected _ best front lists selected =>
      rw [front, selected]
      exact ⟨lists.1, lists.2, rfl⟩

/-- The candidates of a decision are the enumerated paths.  Those that violate an enabled
constraint are rejected, each once and for the first such constraint; the others are
ranked, and the first of them, if any, is selected. -/
theorem decideRoute_partition (reachable : Reachable limits state)
    (sourcePresent : state.devices.find? source ≠ none)
    (targetPresent : state.devices.find? target ≠ none) (policy : RoutePolicy)
    (ambient : Ambient) (observed : List Observation) :
    ∃ paths decision, enumeratePaths limits source target state = .ok paths ∧
      decideRouteWith limits ambient source target policy state observed = .ok decision ∧
      decision.candidatesConsidered = paths.map (·.id) ∧
      decision.rejected.map (fun candidate => (candidate.path, some candidate.reason)) =
        (paths.filter (rejectedIn policy state)).map
          (fun path => (path.id, reasonIn policy state path)) ∧
      (∃ ranked : List Eval, ranked = rank policy
          (eligible (candidates limits policy (consistentView state) source target)) ∧
        (ranked.map (·.path)).Perm (paths.filter fun path =>
          !rejectedIn policy state path) ∧
        decision.selected = ranked.head?.map (·.path.id)) ∧
      (decision.selected = none ↔ ∀ path ∈ paths, rejectedIn policy state path = true) ∧
      ∀ id, decision.selected = some id →
        ∃ path ∈ paths, rejectedIn policy state path = false ∧ path.id = id := by
  have tables := (consistent_of_reachable reachable).tables
  have found := findDevice_buildSnapshot tables
  obtain ⟨decision, decided, considered, rejected, selected⟩ :
      ∃ decision,
        decideRouteWith limits ambient source target policy state observed = _ ∧ _ :=
    decideRouteWith_fields policy observed (found source ▸ sourcePresent)
      (found target ▸ targetPresent)
  rw [candidates_eq] at considered rejected
  rw [selectBest, candidates_eq] at selected
  refine ⟨_, decision,
    enumeratePaths_of_present tables sourcePresent targetPresent, decided, ?_, ?_,
    ⟨_, candidates_eq policy state ▸ rfl, ?_, selected⟩, ?_, ?_⟩
  · rw [considered, candidatesOf, List.map_map]
    rfl
  · rw [rejected, rejections_candidatesOf]
  · exact rank_eligible_perm policy state _
  · rw [selected, Option.map_eq_none_iff, List.head?_eq_none_iff]
    exact rank_eligible_eq_nil_iff policy state _
  · intro id chosen
    rw [selected, Option.map_eq_some_iff] at chosen
    obtain ⟨best, first, rfl⟩ := chosen
    have competes := List.mem_map_of_mem (f := (·.path)) (List.mem_of_mem_head? first)
    rw [(rank_eligible_perm policy state _).mem_iff, List.mem_filter,
      Bool.not_eq_true'] at competes
    exact ⟨best.path, competes.1, competes.2, rfl⟩

/-- Between two corners of the triangle a decision divides the candidates. -/
theorem decideRoute_triangle :
    ∃ paths decision,
      enumeratePaths {} ⟨1⟩ ⟨2⟩ (run {} State.initial triangleCalls) = .ok paths ∧
      decideRouteWith {} {} ⟨1⟩ ⟨2⟩ .defaultPolicy
        (run {} State.initial triangleCalls) [] =
        .ok decision ∧
      decision.candidatesConsidered = paths.map (·.id) := by
  obtain ⟨paths, decision, enumerated, decided, considered, -⟩ : ∃ paths decision,
      enumeratePaths {} ⟨1⟩ ⟨2⟩ (run {} State.initial triangleCalls) = .ok paths ∧ _ :=
    decideRoute_partition ⟨triangleCalls, rfl⟩ (by decide) (by decide)
      .defaultPolicy {} []
  exact ⟨paths, decision, enumerated, decided, considered⟩

end Registry

end NvlinkFabric

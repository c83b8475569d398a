import NvlinkFabric.Route.UsableRoutes
import NvlinkFabric.Worker.Evidence

/-!
# The outcome when every candidate is rejected

The freshness reason is issued by two blocks, of which only `require_fresh` raises the
flag that the overall outcome looks at.  The block of the supported links comes first
and, while it is enabled, lets nothing through that could raise the flag.
-/

namespace NvlinkFabric

section Flag

variable (policy : RoutePolicy) (topo : TopologySnapshot) (path : Path)
variable (quality : PathQuality)

theorem rejectIf_freshness (violated : Bool) (reason : RouteRejectionReason)
    (detail : Text) :
    (rejectIf violated reason detail).any (·.freshness) = false := by
  cases violated <;> rfl

theorem rejectUnsupportedLink_freshness :
    (rejectUnsupportedLink topo path).any (·.freshness) = false := by
  cases rejected : rejectUnsupportedLink topo path with
  | none => rfl
  | some rejection =>
      obtain ⟨id, -, issued⟩ := List.exists_of_findSome?_eq_some rejected
      split at issued
      · simp [← Option.some.inj issued]
      · split at issued
        · simp at issued
        · simp [← Option.some.inj issued]

/-- Only the `require_fresh` block raises the flag. -/
theorem block_freshness (constraint : Constraint) :
    (Constraint.block policy topo path quality constraint).any (·.freshness) =
      (decide (constraint = .fresh) &&
        Constraint.violated policy topo path quality constraint) := by
  cases constraint with
  | supportedLinks =>
      simp only [Constraint.block]
      split
      · exact rejectUnsupportedLink_freshness topo path
      · rfl
  | fresh =>
      cases enabled : policy.hard.requireFresh with
      | false => simp [Constraint.block, Constraint.violated, enabled]
      | true =>
          by_cases lapsed : quality.outcome = .revalidationRequired
          · simp [Constraint.block, Constraint.violated, enabled, rejectNotFresh, lapsed]
          · cases stale : quality.stale <;>
              simp [Constraint.block, Constraint.violated, enabled,
                rejectNotFresh, lapsed, stale]
  | measuredBandwidth =>
      cases minimum : policy.hard.minMeasuredBandwidthBps with
      | none => simp [Constraint.block, minimum]
      | some bound =>
          simp only [Constraint.block, minimum, Option.bind_some, rejectMeasuredBelow]
          split
          · rfl
          · split <;> rfl
  | technology =>
      cases required : policy.hard.requiredTechnology with
      | none => simp [Constraint.block, required]
      | some technology =>
          simp only [Constraint.block, required, Option.bind_some, rejectTechnology]
          split <;> rfl
  | direct | nominalBandwidth | hops | notDegraded | notDown | notContended =>
      exact rejectIf_freshness _ _ _

/-- The flag is raised exactly if freshness is the first violated constraint. -/
theorem hardRejection_freshness :
    (hardRejection policy topo path quality).any (·.freshness) =
      decide (firstViolated policy topo path quality = some .fresh) := by
  rw [hardRejection_eq_bind]
  cases first : firstViolated policy topo path quality with
  | none => simp
  | some constraint =>
      have violated := List.find?_some first
      rw [Option.bind_some, block_freshness, violated]
      simp

/-- The first link of the path that the supported states exclude requires revalidation. -/
def AwaitsRevalidation : Prop :=
  ∃ id link, path.links.find? (unsupportedLink topo) = some id ∧
    topo.findLink id = some link ∧ link.state = .revalidationRequired

theorem unsupportedStateReason_eq_freshness {state : LinkOperationalState} :
    unsupportedStateReason state = .freshnessViolation ↔
      state = .revalidationRequired := by
  cases state <;> simp [unsupportedStateReason, LinkOperationalState.isDown]

variable {policy topo path quality}

theorem reason_supportedLinks_iff :
    Constraint.reason topo path quality .supportedLinks = .freshnessViolation ↔
      AwaitsRevalidation topo path := by
  simp only [Constraint.reason, AwaitsRevalidation]
  cases first : path.links.find? (unsupportedLink topo) with
  | none => simp
  | some id =>
      cases found : topo.findLink id with
      | none => simp [found]
      | some link => simp [found, unsupportedStateReason_eq_freshness]

theorem firstViolated_supportedLinks
    (enabled : policy.hard.requireSupportedLinks = true) :
    firstViolated policy topo path quality = some .supportedLinks ↔
      path.links.any (unsupportedLink topo) = true := by
  have violated : Constraint.violated policy topo path quality .supportedLinks =
      path.links.any (unsupportedLink topo) := by
    simp [Constraint.violated, enabled]
  rw [firstViolated, Constraint.codeOrder, List.find?_cons, violated]
  cases unsupported : path.links.any (unsupportedLink topo) with
  | true => simp
  | false =>
      simp only [Bool.false_eq_true, iff_false]
      intro first
      have member := List.mem_of_find?_eq_some first
      simp at member

end Flag

/-- A path over supported links is fresh. -/
theorem fresh_of_supported {policy : RoutePolicy} {topo : TopologySnapshot} {path : Path}
    (measurements : List MeasurementRecord)
    (supported : path.links.any (unsupportedLink topo) = false) :
    Constraint.violated policy topo path (computeQuality topo measurements path) .fresh =
      false := by
  have anyReval : (scanLinks topo path).anyReval = false := by
    rw [scanLinks_anyReval, List.any_eq_false]
    rw [List.any_eq_false] at supported
    intro element member
    cases element with
    | device id => simp [elementTest]
    | link id =>
        have present := supported id (Path.mem_links.mpr member)
        cases found : topo.findLink id with
        | none => simp [elementTest, found]
        | some link =>
            simp only [unsupportedLink, found, Option.any_some, Bool.not_eq_true',
              Bool.not_eq_false] at present
            simp only [elementTest, found]
            revert present
            cases link.state <;> simp [LinkOperationalState.needsRevalidation]
  have settled : (computeQuality topo measurements path).outcome ≠
      .revalidationRequired := by
    simp only [computeQuality, qualityOutcome, anyReval, Bool.false_eq_true, if_false]
    split_ifs <;> simp
  have current : (computeQuality topo measurements path).stale = false := by
    simp only [computeQuality, anyReval, Bool.false_or]
    cases found : bestMeasurement measurements path with
    | none => rfl
    | some best => exact (bestMeasurement_mem found).2.2
  simp [Constraint.violated, settled, current]

/-! ## The outcome -/

namespace Registry

variable {limits : Limits} {state : State} {source target : DeviceId}
  {policy : RoutePolicy}

/-- The outcome that the qualities of the candidates and the recorded reasons call for. -/
def agreedOutcome (state : State) (paths : List Path)
    (rejected : List RejectedCandidate) :
    RouteDecisionOutcome :=
  if paths.any fun path => (qualityIn state path).outcome = .unsupported then .unsupported
  else if rejected.any fun candidate => candidate.reason = .freshnessViolation then
    .revalidationRequired
  else .policyRejected

/-- The outcome that the code computes, with its flag read as a constraint. -/
theorem rejectedOutcome_eq {paths : List Path}
    (rejected : ∀ path ∈ paths, rejectedIn policy state path = true) :
    rejectedOutcome (candidatesOf policy state paths) =
      if paths.any fun path => (qualityIn state path).outcome = .unsupported
        then .unsupported
      else if paths.any fun path =>
          firstViolated policy (buildSnapshot state) path (qualityIn state path) =
            some .fresh then
        .revalidationRequired
      else .policyRejected := by
  have unsupported : ((candidatesOf policy state paths).any fun candidate =>
      candidate.rejection.isSome && candidate.quality.outcome = .unsupported) =
        paths.any fun path => (qualityIn state path).outcome = .unsupported := by
    rw [candidatesOf, List.any_map, Bool.eq_iff_iff, List.any_eq_true, List.any_eq_true]
    refine exists_congr fun path => and_congr_right fun member => ?_
    have violates := rejected path member
    rw [rejectedIn, ← hardRejection_isSome] at violates
    simp [violates]
  have fresh : ((candidatesOf policy state paths).any fun candidate =>
      candidate.rejection.any (·.freshness)) = paths.any fun path =>
        firstViolated policy (buildSnapshot state) path (qualityIn state path) =
          some .fresh := by
    rw [candidatesOf, List.any_map]
    simp only [Function.comp_def, hardRejection_freshness]
  rw [rejectedOutcome, unsupported, fresh]

/-- A recorded reason is that of a candidate. -/
theorem any_freshness_iff (paths : List Path) :
    ((rejections (candidatesOf policy state paths)).any fun candidate =>
        candidate.reason = .freshnessViolation) = true ↔
      ∃ path ∈ paths, reasonIn policy state path = some .freshnessViolation := by
  have recorded := rejections_candidatesOf policy state paths
  have reasons : (rejections (candidatesOf policy state paths)).any (fun candidate =>
      candidate.reason = .freshnessViolation) =
        ((rejections (candidatesOf policy state paths)).map fun candidate =>
          (candidate.path, some candidate.reason)).any fun entry =>
            entry.2 = some .freshnessViolation := by
    rw [List.any_map]
    simp [Function.comp_def]
  rw [reasons, recorded, List.any_map, List.any_eq_true]
  simp only [List.mem_filter, Function.comp_apply, decide_eq_true_eq, and_assoc]
  refine exists_congr fun path => and_congr_right fun _ =>
    ⟨And.right, fun freshness => ?_⟩
  refine ⟨?_, freshness⟩
  obtain ⟨constraint, first, -⟩ := Option.map_eq_some_iff.mp freshness
  rw [rejectedIn, violatesSome, ← List.isSome_find?]
  exact Option.isSome_of_eq_some first

/-- Two blocks issue the freshness reason. -/
theorem reason_freshness_iff (path : Path) :
    reasonIn policy state path = some .freshnessViolation ↔
      firstViolated policy (buildSnapshot state) path (qualityIn state path) =
        some .fresh ∨
        firstViolated policy (buildSnapshot state) path (qualityIn state path) =
          some .supportedLinks ∧ AwaitsRevalidation (buildSnapshot state) path := by
  rw [reasonIn, Option.map_eq_some_iff]
  constructor
  · rintro ⟨constraint, first, reason⟩
    cases constraint with
    | fresh => exact .inl first
    | supportedLinks => exact .inr ⟨first, reason_supportedLinks_iff.mp reason⟩
    | measuredBandwidth =>
        simp only [Constraint.reason] at reason
        split at reason <;> simp at reason
    | direct | nominalBandwidth | technology | hops | notDegraded | notDown
        | notContended =>
        simp [Constraint.reason] at reason
  · rintro (first | ⟨first, awaits⟩)
    · exact ⟨.fresh, first, rfl⟩
    · exact ⟨.supportedLinks, first, reason_supportedLinks_iff.mpr awaits⟩

/-- Without the block of the supported links the reason and the flag agree. -/
theorem reason_freshness_of_disabled
    (disabled : policy.hard.requireSupportedLinks = false) (path : Path) :
    reasonIn policy state path = some .freshnessViolation ↔
      firstViolated policy (buildSnapshot state) path (qualityIn state path) =
        some .fresh := by
  rw [reason_freshness_iff, or_iff_left]
  rintro ⟨first, -⟩
  have violated := List.find?_some first
  simp [Constraint.violated, disabled] at violated

/-- With it the flag is never raised. -/
theorem firstViolated_ne_fresh (enabled : policy.hard.requireSupportedLinks = true)
    (path : Path) :
    firstViolated policy (buildSnapshot state) path (qualityIn state path) ≠
      some .fresh := by
  intro first
  have violated := List.find?_some first
  cases unsupported : path.links.any (unsupportedLink (buildSnapshot state)) with
  | true =>
      rw [(firstViolated_supportedLinks enabled).mpr unsupported] at first
      simp at first
  | false =>
      rw [qualityIn, fresh_of_supported state.measurementHistory unsupported] at violated
      simp at violated

theorem reason_freshness_of_enabled (enabled : policy.hard.requireSupportedLinks = true)
    (path : Path) :
    reasonIn policy state path = some .freshnessViolation ↔
      AwaitsRevalidation (buildSnapshot state) path := by
  rw [reason_freshness_iff, or_iff_right (firstViolated_ne_fresh enabled path),
    firstViolated_supportedLinks enabled, and_iff_right_iff_imp]
  rintro ⟨id, -, first, -⟩
  exact List.any_eq_true.mpr ⟨id, List.mem_of_find?_eq_some first, List.find?_some first⟩

/-- Where the outcome computed over rejected candidates agrees with their reasons. -/
theorem rejectedOutcome_agrees_iff {paths : List Path}
    (rejected : ∀ path ∈ paths, rejectedIn policy state path = true) :
    rejectedOutcome (candidatesOf policy state paths) =
        agreedOutcome state paths (rejections (candidatesOf policy state paths)) ↔
      policy.hard.requireSupportedLinks = false ∨
        (∃ path ∈ paths, (qualityIn state path).outcome = .unsupported) ∨
        ∀ path ∈ paths, ¬AwaitsRevalidation (buildSnapshot state) path := by
  rw [rejectedOutcome_eq rejected, agreedOutcome]
  by_cases unsupported : ∃ path ∈ paths, (qualityIn state path).outcome = .unsupported
  · have flagged : (paths.any fun path =>
        (qualityIn state path).outcome = .unsupported) = true := by
      simpa using unsupported
    simp [flagged, unsupported]
  · have unflagged : (paths.any fun path =>
        (qualityIn state path).outcome = .unsupported) = false := by
      simpa using unsupported
    simp only [unflagged, Bool.false_eq_true, if_false, unsupported, false_or]
    cases enabled : policy.hard.requireSupportedLinks with
    | false =>
        have same : (paths.any fun path =>
            firstViolated policy (buildSnapshot state) path (qualityIn state path) =
              some .fresh) = (rejections (candidatesOf policy state paths)).any
                fun candidate => candidate.reason = .freshnessViolation := by
          rw [Bool.eq_iff_iff, any_freshness_iff]
          simp [reason_freshness_of_disabled enabled]
        simp [same]
    | true =>
        have never : (paths.any fun path =>
            firstViolated policy (buildSnapshot state) path (qualityIn state path) =
              some .fresh) = false := by
          simp [firstViolated_ne_fresh enabled]
        have reasons : (rejections (candidatesOf policy state paths)).any
            (fun candidate =>
            candidate.reason = .freshnessViolation) = true ↔ _ := any_freshness_iff paths
        simp only [reason_freshness_of_enabled enabled] at reasons
        rw [never]
        cases issued : (rejections (candidatesOf policy state paths)).any fun candidate =>
            candidate.reason = .freshnessViolation with
        | false => simpa [issued] using reasons
        | true => simpa [issued] using reasons

/-- When every candidate is rejected, the outcome of the decision agrees with the recorded
reasons exactly if the supported states are not required, some candidate is rated as
unsupported, or no candidate is refused for a link that requires revalidation. -/
theorem decideRoute_agrees_iff (reachable : Reachable limits state)
    (nonempty : enumeratePathsImpl (buildSnapshot state) source target limits ≠ [])
    (rejected : ∀ path ∈ enumeratePathsImpl (buildSnapshot state) source target limits,
      rejectedIn policy state path = true) :
    (∀ (ambient : Ambient) (decision : RouteDecision),
      decideRoute limits ambient source target policy state = .ok decision →
      decision.outcome = agreedOutcome state
        (enumeratePathsImpl (buildSnapshot state) source target limits)
          decision.rejected) ↔
      policy.hard.requireSupportedLinks = false ∨
        (∃ path ∈ enumeratePathsImpl (buildSnapshot state) source target limits,
          (qualityIn state path).outcome = .unsupported) ∨
        ∀ path ∈ enumeratePathsImpl (buildSnapshot state) source target limits,
          ¬AwaitsRevalidation (buildSnapshot state) path := by
  have tables := (consistent_of_reachable reachable).tables
  obtain ⟨path, enumerated⟩ := List.exists_mem_of_ne_nil _ nonempty
  obtain ⟨sourceFound, targetFound⟩ := candidate_ends_found tables enumerated
  have unselected : selectBest limits policy (consistentView state) source
      target = none := by
    rw [selectBest, candidates_eq, (rank_eligible_eq_nil_iff policy state _).mpr rejected]
    rfl
  have fields {ambient : Ambient} {decision : RouteDecision}
      (decided : decideRoute limits ambient source target policy state = .ok decision) :
      decision.outcome = rejectedOutcome (candidatesOf policy state
          (enumeratePathsImpl (buildSnapshot state) source target limits)) ∧
        decision.rejected = rejections (candidatesOf policy state
          (enumeratePathsImpl (buildSnapshot state) source target limits)) := by
    refine decideRouteWith_of_rejected sourceFound targetFound ?_ unselected decided
    rw [candidates_eq, candidatesOf, Ne, List.map_eq_nil_iff]
    exact nonempty
  rw [← rejectedOutcome_agrees_iff rejected]
  constructor
  · intro agrees
    obtain ⟨decision, decided⟩ := decideRoute_total limits {} source target policy state
    obtain ⟨outcome, recorded⟩ := fields decided
    rw [← outcome, ← recorded]
    exact agrees {} decision decided
  · intro agrees ambient decision decided
    obtain ⟨outcome, recorded⟩ := fields decided
    rw [outcome, recorded]
    exact agrees

/-- The publication of a worker that then died. -/
def orphanedCalls : List Call :=
  Worker.publication ⟨1⟩ ++ [⟨.markDynamicEvidenceRevalidationRequired, {}⟩]

/-- The default policy rejects every candidate for freshness and reports a plain
rejection. -/
theorem decideRoute_orphaned :
    ¬∀ (limits : Limits) (ambient : Ambient) (state : State) (source target : DeviceId)
        (policy : RoutePolicy) (decision : RouteDecision), Reachable limits state →
      enumeratePathsImpl (buildSnapshot state) source target limits ≠ [] →
      (∀ path ∈ enumeratePathsImpl (buildSnapshot state) source target limits,
        rejectedIn policy state path = true) →
      decideRoute limits ambient source target policy state = .ok decision →
      decision.outcome = agreedOutcome state
        (enumeratePathsImpl (buildSnapshot state) source target limits)
          decision.rejected := by
  intro agrees
  obtain ⟨decision, decided⟩ := decideRoute_total {} {} Worker.sourceId Worker.targetId
    .defaultPolicy (run {} State.initial orphanedCalls)
  have outcomes : (decideRoute {} {} Worker.sourceId Worker.targetId .defaultPolicy
      (run {} State.initial orphanedCalls)).toOption.map (fun decision =>
        (decision.outcome, agreedOutcome (run {} State.initial orphanedCalls)
          (enumeratePathsImpl (buildSnapshot (run {} State.initial orphanedCalls))
            Worker.sourceId Worker.targetId {}) decision.rejected)) =
      some (.policyRejected, .revalidationRequired) := by
    decide +kernel
  rw [decided, Except.toOption, Option.map_some, Option.some.injEq,
    Prod.mk.injEq] at outcomes
  have same := agrees {} {} _ Worker.sourceId Worker.targetId .defaultPolicy decision
    ⟨orphanedCalls, rfl⟩ (by decide +kernel) (by decide +kernel) decided
  rw [outcomes.1, outcomes.2] at same
  simp at same

/-- Where the supported states are not required the outcome is that of the reasons. -/
theorem decideRoute_agrees_orphaned :
    ∃ decision, decideRoute {} {} Worker.sourceId Worker.targetId
        { hard := { requireSupportedLinks := false } }
        (run {} State.initial orphanedCalls) = .ok decision ∧
      decision.outcome = agreedOutcome (run {} State.initial orphanedCalls)
        (enumeratePathsImpl (buildSnapshot (run {} State.initial orphanedCalls))
          Worker.sourceId Worker.targetId {}) decision.rejected := by
  obtain ⟨decision, decided⟩ := decideRoute_total {} {} Worker.sourceId Worker.targetId
    { hard := { requireSupportedLinks := false } } (run {} State.initial orphanedCalls)
  exact ⟨decision, decided,
    (decideRoute_agrees_iff ⟨orphanedCalls, rfl⟩ (by decide +kernel)
    (by decide +kernel)).mpr (.inl rfl) {} decision decided⟩

end Registry

end NvlinkFabric

import NvlinkFabric.Path.WorseEvidence
import NvlinkFabric.Route.UsableRoutes

/-!
# Decisions under worse evidence

The cascade of `compute_quality` looks at contention and degradation before it asks
whether the state of the links is known and whether they have a capability.  Where a
path is refused for missing evidence, marking it as degraded or contended therefore
grants it, unless the policy excludes what was marked.
-/

namespace NvlinkFabric

namespace Registry

open Transition

variable {limits : Limits} {before after : State} {source target : DeviceId} {path : Path}

/-- Some link of the path is marked as degraded. -/
def degradedIn (state : State) (path : Path) : Bool :=
  someLink (buildSnapshot state) path (·.isDegraded)

/-- The measurement used for the path is contended. -/
def contendedIn (state : State) (path : Path) : Bool :=
  (bestMeasurement state.measurementHistory path).any (·.contended)

namespace Worsened

theorem degraded_mono (worse : Worsened path before after)
    (coherent : Tables limits before.devices before.links)
    (was : degradedIn before path = true) : degradedIn after path = true := by
  obtain ⟨id, on, old, found, degraded⟩ := someLink_iff.mp was
  have related := worse.findLink coherent id
  rw [found] at related
  generalize now : (buildSnapshot after).findLink id = looked at related
  cases related with
  | some related =>
      refine someLink_iff.mpr ⟨id, on, _, now, ?_⟩
      simp only [LinkRecord.isDegraded, Bool.or_eq_true, decide_eq_true_eq] at degraded ⊢
      rcases degraded with flag | state
      · exact .inl (related.degraded flag)
      · rcases related.state with same | ⟨-, now⟩
        · exact .inr (same.trans state)
        · exact .inr now

theorem contended_mono (worse : Worsened path before after)
    (was : contendedIn before path = true) : contendedIn after path = true := by
  have measured := worse.measured
  obtain ⟨best, found, contended⟩ := Option.any_eq_true .. |>.mp was
  rw [found] at measured
  generalize now : bestMeasurement after.measurementHistory path = chosen at measured
  cases measured with
  | some related =>
      rw [contendedIn, now]
      exact related.contended contended

end Worsened

/-- The constraints that worse evidence can violate, where they are enabled and it
does. -/
def raised (policy : RoutePolicy) (state : State) (path : Path) : Constraint → Bool
  | .notDegraded => policy.hard.excludeDegraded && degradedIn state path
  | .notContended => policy.hard.excludeContended && contendedIn state path
  | _ => false

/-- A candidate is not fresh if its quality is stale, whatever the outcome. -/
theorem violated_fresh (policy : RoutePolicy) (state : State) (path : Path) :
    Constraint.violated policy (buildSnapshot state) path (qualityIn state path) .fresh =
      (policy.hard.requireFresh && (qualityIn state path).stale) := by
  have lapsed : (qualityIn state path).outcome = .revalidationRequired →
      (qualityIn state path).stale = true := by
    simp only [qualityIn, computeQuality, qualityOutcome, Bool.or_eq_true]
    split_ifs <;> simp_all
  rw [Constraint.violated]
  by_cases outcome : (qualityIn state path).outcome = .revalidationRequired
  · simp [lapsed outcome]
  · simp [outcome]

namespace Worsened

/-- What the other constraints read of the quality is as it was. -/
theorem quality_eq (worse : Worsened path before after)
    (coherent : Tables limits before.devices before.links)
    (member : path ∈ enumeratePathsImpl (buildSnapshot before) source target limits) :
    (qualityIn after path).nominalBandwidthBps =
      (qualityIn before path).nominalBandwidthBps ∧
      (qualityIn after path).measuredBandwidthBps =
        (qualityIn before path).measuredBandwidthBps ∧
      (qualityIn after path).stale = (qualityIn before path).stale ∧
      decide (0 < (qualityIn after path).downLinks) =
        decide (0 < (qualityIn before path).downLinks) := by
  have memberAfter := worse.enumerate coherent limits ▸ member
  obtain ⟨nominal, known⟩ := scanLinks_nominal_congr (fun id =>
    LinkRecord.Worsened.map_eq (worse.findLink coherent id)
      (·.capability.nominalBandwidthBps)
      fun _ _ related => congrArg (·.capability.nominalBandwidthBps) related.others) path
  have reval := worse.someLink_eq coherent (·.state.needsRevalidation)
    fun _ _ related => related.state_test _ rfl rfl rfl
  have down := worse.someLink_eq coherent (·.state.isDown)
    fun _ _ related => related.state_test _ rfl rfl rfl
  have measured := worse.measured_eq (·.bandwidthBps)
    fun _ _ related => congrArg (·.bandwidthBps) related.others
  have stale := worse.measured_eq (·.stale) fun _ _ related =>
    congrArg (·.stale) related.others
  have staleBest := congrArg (Option.any fun passed => passed) stale
  simp only [Option.any_map] at staleBest
  refine ⟨?_, measured, ?_, ?_⟩
  · simp only [qualityIn, computeQuality, nominal, known]
  · simp only [qualityIn, computeQuality, (candidate_flags member).reval,
      (candidate_flags memberAfter).reval, reval, staleBest]
  · exact (candidate_counts memberAfter).1.trans
      (down.trans (candidate_counts member).1.symm)

theorem excluded_mono {excluded was now : Bool} (kept : was = true → now = true) :
    (excluded && now) = (excluded && was || excluded && now) := by
  cases was with
  | false => simp
  | true => simp [kept rfl]

/-- Worse evidence violates what was violated before, and what it raises. -/
theorem violated_after (worse : Worsened path before after)
    (coherent : Tables limits before.devices before.links)
    (member : path ∈ enumeratePathsImpl (buildSnapshot before) source target limits)
    (policy : RoutePolicy) (constraint : Constraint) :
    Constraint.violated policy (buildSnapshot after) path
      (qualityIn after path) constraint =
      (Constraint.violated policy (buildSnapshot before) path (qualityIn before path)
        constraint || raised policy after path constraint) := by
  have memberAfter := worse.enumerate coherent limits ▸ member
  obtain ⟨nominal, measured, stale, down⟩ := worse.quality_eq coherent member
  cases constraint with
  | supportedLinks =>
      have supported :
          unsupportedLink (buildSnapshot after) =
            unsupportedLink (buildSnapshot before) := by
        funext id
        refine congrArg not (worse.any_eq coherent (·.state.isSupportedState) ?_ id)
        intro _ _ related
        exact related.state_test _ rfl rfl rfl
      simp [Constraint.violated, raised, supported]
  | fresh =>
      rw [violated_fresh, violated_fresh, stale]
      exact (Bool.or_false _).symm
  | direct | hops => simp [Constraint.violated, raised]
  | nominalBandwidth => simp [Constraint.violated, raised, nominal]
  | measuredBandwidth => simp [Constraint.violated, raised, measured]
  | technology =>
      have technology (wanted : InterconnectTechnology) (id : LinkId) :=
        worse.any_eq coherent (·.technology = wanted)
          (fun _ _ related => by rw [related.others]) id
      simp [Constraint.violated, raised, technology]
  | notDegraded =>
      have counted : decide (0 < (qualityIn before path).degradedLinks) =
        degradedIn before path := (candidate_counts member).2
      have countedAfter : decide (0 < (qualityIn after path).degradedLinks) =
        degradedIn after path := (candidate_counts memberAfter).2
      have kept := worse.degraded_mono coherent
      simp only [Constraint.violated, raised, counted, countedAfter]
      exact excluded_mono kept
  | notDown => simp [Constraint.violated, raised, down]
  | notContended =>
      have kept := worse.contended_mono
      exact excluded_mono kept

/-- Worse evidence rejects what was rejected before, and what the policy excludes of
it. -/
theorem rejectedIn_after (worse : Worsened path before after)
    (coherent : Tables limits before.devices before.links)
    (member : path ∈ enumeratePathsImpl (buildSnapshot before) source target limits)
    (policy : RoutePolicy) :
    rejectedIn policy after path =
      (rejectedIn policy before path ||
        (policy.hard.excludeDegraded && degradedIn after path ||
          policy.hard.excludeContended && contendedIn after path)) := by
  have raising : Constraint.codeOrder.any (raised policy after path) =
      (policy.hard.excludeDegraded && degradedIn after path ||
        policy.hard.excludeContended && contendedIn after path) := by
    simp [Constraint.codeOrder, raised]
  have violated := funext (worse.violated_after coherent member policy)
  rw [rejectedIn, rejectedIn, violatesSome, violatesSome, violated, ← raising]
  induction Constraint.codeOrder with
  | nil => rfl
  | cons constraint constraints ih =>
      simp only [List.any_cons, ih]
      ac_rfl

theorem usable_after (worse : Worsened path before after)
    (coherent : Tables limits before.devices before.links)
    (member : path ∈ enumeratePathsImpl (buildSnapshot before) source target limits) :
    (qualityIn after path).outcome.Usable ↔
      someLink (buildSnapshot before) path (·.state.isBlocking) = false ∧
        (contendedIn after path = true ∨ degradedIn after path = true ∨
          someLink (buildSnapshot before) path (·.state = .unknown) = false ∧
            someLink (buildSnapshot before) path (·.hasCapability) = true) := by
  have memberAfter := worse.enumerate coherent limits ▸ member
  have blocking := worse.someLink_eq coherent (·.state.isBlocking)
    fun _ _ related => related.state_test _ rfl rfl rfl
  have unknown := worse.someLink_eq coherent (·.state = .unknown)
    fun _ _ related => related.state_test (· = .unknown) rfl rfl rfl
  have capability := worse.someLink_eq coherent (·.hasCapability)
    fun _ _ related => congrArg (·.hasCapability) related.others
  rw [qualityIn, usable_iff memberAfter, blocking, Carries, unknown, capability]
  rfl

end Worsened

/-! ## Decisions over a single candidate -/

/-- A single candidate is granted if it passes the hard constraints and is usable. -/
theorem single_executable_iff {bounds : Limits} {state : State} {policy : RoutePolicy}
    {ambient : Ambient} {decision : RouteDecision}
    (coherent : Tables bounds state.devices state.links)
    (single : enumeratePathsImpl (buildSnapshot state) source target limits = [path])
    (decided : decideRoute limits ambient source target policy state = .ok decision) :
    decision.executable = true ↔
      rejectedIn policy state path = false ∧ (qualityIn state path).outcome.Usable := by
  constructor
  · intro executable
    obtain ⟨best, selected, -, permitted⟩ :=
      (justified_of_executable decided executable).best_selected
    obtain ⟨enumerated, quality, accepted⟩ := selectBest_spec selected
    have only : best.path ∈ [path] := single ▸ enumerated
    obtain rfl := List.mem_singleton.mp only
    change best.quality = qualityIn state best.path at quality
    rw [quality] at accepted permitted
    exact ⟨rejectedIn_eq_false_iff.mpr accepted, permits_iff.mp permitted⟩
  · rintro ⟨accepted, usable⟩
    have enumerated : path ∈ enumeratePathsImpl (buildSnapshot state) source
        target limits := by
      rw [single]
      exact List.mem_singleton_self path
    obtain ⟨best, selected⟩ := selectBest_of_accepted enumerated accepted
    obtain ⟨candidate, quality, -⟩ := selectBest_spec selected
    have only : best.path ∈ [path] := single ▸ candidate
    obtain rfl := List.mem_singleton.mp only
    obtain ⟨sourceFound, targetFound⟩ := candidate_ends_found coherent enumerated
    obtain ⟨-, outcome, executable⟩ :=
      decideRouteWith_of_selected sourceFound targetFound selected decided
    rw [executable, outcome, permits_iff, quality]
    exact usable

theorem single_refused_iff {bounds : Limits} {state : State} {policy : RoutePolicy}
    (coherent : Tables bounds state.devices state.links)
    (single : enumeratePathsImpl (buildSnapshot state) source target limits = [path]) :
    (∀ (ambient : Ambient) (decision : RouteDecision),
      decideRoute limits ambient source target policy state = .ok decision →
      decision.executable = false) ↔
      ¬(rejectedIn policy state path = false ∧
        (qualityIn state path).outcome.Usable) := by
  constructor
  · intro refused granted
    obtain ⟨decision, decided⟩ := decideRoute_total limits {} source target policy state
    have executable := (single_executable_iff coherent single decided).mpr granted
    rw [refused {} decision decided] at executable
    exact Bool.false_ne_true executable
  · intro refused ambient decision decided
    rw [Bool.eq_false_iff, Ne, single_executable_iff coherent single decided]
    exact refused

/-- Before the change the candidate passes the hard constraints and is refused only
because a link is in state UNKNOWN or none has a capability; the change marks it as
degraded or contended, and the policy does not exclude what is marked. -/
structure Masked (policy : RoutePolicy) (before after : State) (path : Path) : Prop where
  accepted : rejectedIn policy before path = false
  unblocked : someLink (buildSnapshot before) path (·.state.isBlocking) = false
  lacking : someLink (buildSnapshot before) path (·.state = .unknown) = true ∨
    someLink (buildSnapshot before) path (·.hasCapability) = false
  unmarked : degradedIn before path = false ∧ contendedIn before path = false
  marked : degradedIn after path = true ∨ contendedIn after path = true
  degradedAllowed : policy.hard.excludeDegraded = true → degradedIn after path = false
  contendedAllowed : policy.hard.excludeContended = true → contendedIn after path = false

/-- Worse evidence for the only candidate leaves a refused route refused exactly where it
does not mask that evidence is missing. -/
theorem refused_of_worse_iff (reachable : Reachable limits before)
    (single : enumeratePathsImpl (buildSnapshot before) source target limits = [path])
    (worse : Worsened path before after) (policy : RoutePolicy) :
    ((∀ (ambient : Ambient) (decision : RouteDecision),
        decideRoute limits ambient source target policy before = .ok decision →
        decision.executable = false) →
      ∀ (ambient : Ambient) (decision : RouteDecision),
        decideRoute limits ambient source target policy after = .ok decision →
        decision.executable = false) ↔
      ¬Masked policy before after path := by
  have coherent := (consistent_of_reachable reachable).tables
  have member : path ∈ enumeratePathsImpl (buildSnapshot before) source
      target limits := by
    rw [single]
    exact List.mem_singleton_self path
  have singleAfter := (worse.enumerate coherent limits).trans single
  have usableBefore : (qualityIn before path).outcome.Usable ↔ _ ∧
      (contendedIn before path = true ∨ degradedIn before path = true ∨ _) :=
    usable_iff member before.measurementHistory
  rw [single_refused_iff coherent single,
    single_refused_iff (worse.tables coherent) singleAfter, usableBefore,
    worse.rejectedIn_after coherent member policy, worse.usable_after coherent member]
  simp only [Bool.or_eq_false_iff, Bool.and_eq_false_imp]
  constructor
  · rintro kept ⟨accepted, unblocked, lacking, ⟨undegraded, uncontended⟩, marked,
      degradedAllowed, contendedAllowed⟩
    have refused := kept (by
      rintro ⟨-, -, contended | degraded | ⟨known, capable⟩⟩
      · simp [uncontended] at contended
      · simp [undegraded] at degraded
      · simp [known, capable] at lacking)
    exact refused ⟨⟨accepted, degradedAllowed, contendedAllowed⟩, unblocked,
      marked.elim (.inr <| .inl ·) .inl⟩
  · rintro unmasked refused ⟨⟨accepted, degradedAllowed, contendedAllowed⟩,
      unblocked, carried⟩
    -- Nothing carried the path before, so what carries it now is a new mark.
    have uncarried : ¬(_ ∨ _ ∨ _) := fun carried => refused ⟨accepted, unblocked, carried⟩
    rw [not_or, not_or, Bool.not_eq_true, Bool.not_eq_true] at uncarried
    obtain ⟨uncontended, undegraded, unknown⟩ := uncarried
    refine unmasked ⟨accepted, unblocked, ?_, ⟨undegraded, uncontended⟩, ?_,
      degradedAllowed, contendedAllowed⟩
    · rwa [not_and_or, Bool.not_eq_false, Bool.not_eq_true] at unknown
    · rcases carried with contended | degraded | known
      · exact .inr contended
      · exact .inl degraded
      · exact absurd known unknown

/-- Two devices joined by a link that is up but of unknown capability. -/
def unratedCalls : List Call :=
  [⟨.upsertDevice { id := ⟨1⟩, generation := ⟨1⟩ }, {}⟩,
    ⟨.upsertDevice { id := ⟨2⟩, generation := ⟨1⟩ }, {}⟩,
    ⟨.upsertLink
      { id := ⟨7⟩, source := ⟨1⟩, target := ⟨2⟩, generation := ⟨1⟩, state := .up }, {}⟩]

/-- The link is reported as degraded on the same evidence. -/
def degradedReport : Call := ⟨.updateLinkState ⟨7⟩ .up {} true "", {}⟩

theorem unrated_single :
    (enumeratePathsImpl (buildSnapshot (run {} State.initial unratedCalls)) ⟨1⟩
      ⟨2⟩ {}).length =
      1 := by
  decide +kernel

theorem unrated_worsened (path : Path) :
    Worsened path (run {} State.initial unratedCalls)
      (run {} State.initial (unratedCalls ++ [degradedReport])) := by
  obtain ⟨next, ok⟩ : ∃ next,
      apply {} degradedReport (run {} State.initial unratedCalls) =
      .ok next := accepted_iff.mp (by decide +kernel)
  have stored : ((run {} State.initial unratedCalls).links.find? ⟨7⟩).any (fun link =>
      link.state = .up && link.evidence = {}) = true := by decide +kernel
  obtain ⟨current, found, same⟩ := Option.any_eq_true .. |>.mp stored
  simp only [Bool.and_eq_true, decide_eq_true_eq] at same
  obtain ⟨up, evidence⟩ := same
  have taken : run {} State.initial (unratedCalls ++ [degradedReport]) = next := by
    rw [run, run_append, run_cons, run_nil]
    exact step_of_apply_ok ok
  rw [taken]
  apply worsened_updateLinkState path found (.inl up.symm) fun _ => rfl
  rw [evidence]
  exact ok

/-- The report turns INSUFFICIENT_EVIDENCE into ROUTE_ALLOWED_DEGRADED. -/
theorem unrated_granted :
    (decideRoute {} {} ⟨1⟩ ⟨2⟩ .defaultPolicy
        (run {} State.initial unratedCalls)).toOption.map (fun decision =>
          (decision.outcome, decision.executable)) = some (.insufficientEvidence, false) ∧
    (decideRoute {} {} ⟨1⟩ ⟨2⟩ .defaultPolicy
        (run {} State.initial (unratedCalls ++ [degradedReport]))).toOption.map
          (fun decision =>
          (decision.outcome, decision.executable)) =
            some (.routeAllowedDegraded, true) := by
  decide +kernel

theorem unrated_refused (ambient : Ambient) (decision : RouteDecision)
    (decided : decideRoute {} ambient ⟨1⟩ ⟨2⟩ .defaultPolicy
      (run {} State.initial unratedCalls) = .ok decision) :
        decision.executable = false := by
  have reachable : Reachable {} (run {} State.initial unratedCalls) := ⟨unratedCalls, rfl⟩
  have coherent := (consistent_of_reachable reachable).tables
  obtain ⟨path, single⟩ := List.length_eq_one_iff.mp unrated_single
  revert ambient decision
  rw [single_refused_iff coherent single]
  obtain ⟨decision, decided⟩ := decideRoute_total {} {} ⟨1⟩ ⟨2⟩ .defaultPolicy
    (run {} State.initial unratedCalls)
  have refused := unrated_granted.1
  rw [decided] at refused
  rw [← single_executable_iff coherent single decided]
  simp_all [Except.toOption]

/-- The decision after the report. -/
theorem unrated_executable :
    ∃ decision, decideRoute {} {} ⟨1⟩ ⟨2⟩ .defaultPolicy
        (run {} State.initial (unratedCalls ++ [degradedReport])) = .ok decision ∧
      decision.executable = true := by
  obtain ⟨decision, decided⟩ := decideRoute_total {} {} ⟨1⟩ ⟨2⟩ .defaultPolicy
    (run {} State.initial (unratedCalls ++ [degradedReport]))
  have granted := unrated_granted.2
  rw [decided] at granted
  exact ⟨decision, decided, by simp_all [Except.toOption]⟩

/-- Worse evidence can grant a route. -/
theorem refused_of_worse_unrated :
    ¬∀ (limits : Limits) (before after : State) (source target : DeviceId) (path : Path)
        (policy : RoutePolicy), Reachable limits before →
      enumeratePathsImpl (buildSnapshot before) source target limits = [path] →
      Worsened path before after →
      (∀ (ambient : Ambient) (decision : RouteDecision),
        decideRoute limits ambient source target policy before = .ok decision →
        decision.executable = false) →
      ∀ (ambient : Ambient) (decision : RouteDecision),
        decideRoute limits ambient source target policy after = .ok decision →
        decision.executable = false := by
  intro kept
  obtain ⟨path, single⟩ := List.length_eq_one_iff.mp unrated_single
  obtain ⟨decision, decided, executable⟩ := unrated_executable
  have refused := kept {} _ _ ⟨1⟩ ⟨2⟩ path .defaultPolicy ⟨unratedCalls, rfl⟩ single
    (unrated_worsened path) unrated_refused {} decision decided
  exact Bool.false_ne_true (refused.symm.trans executable)

/-- The report masks that the capability of the link is unknown. -/
theorem refused_of_worse_iff_unrated :
    ∃ path,
      enumeratePathsImpl (buildSnapshot (run {} State.initial unratedCalls)) ⟨1⟩ ⟨2⟩ {} =
        [path] ∧
      Masked .defaultPolicy (run {} State.initial unratedCalls)
        (run {} State.initial (unratedCalls ++ [degradedReport])) path := by
  obtain ⟨path, single⟩ := List.length_eq_one_iff.mp unrated_single
  refine ⟨path, single, ?_⟩
  by_contra unmasked
  have kept := (refused_of_worse_iff ⟨unratedCalls, rfl⟩ single (unrated_worsened path)
    .defaultPolicy).mpr unmasked
  obtain ⟨decision, decided, executable⟩ := unrated_executable
  have refused := kept unrated_refused {} decision decided
  exact Bool.false_ne_true (refused.symm.trans executable)

end Registry

end NvlinkFabric

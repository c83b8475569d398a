import NvlinkFabric.Route.UsableRoutes
import Mathlib.Tactic.Linarith
import Mathlib.Tactic.Ring
import Mathlib.Tactic.Positivity

/-!
# Degradation under the default policy

The measured factors of a score come from the measurement chosen for the two
endpoints, so they agree across the candidates of one decision.  Freshness agrees too,
since the default policy refuses what is not fresh.  Against the other factors the
weight of degradation suffices by the least margin: a degraded path of one hop reaches
what every sound path exceeds by its hop term.
-/

namespace NvlinkFabric

section Score

variable (quality : PathQuality) (context : FactorContext)

/-- The part of the default score that comes from a measurement. -/
def measuredScore : ℚ :=
  4 * routeFactorValue .measuredBandwidth quality context +
    routeFactorValue .measuredLatency quality context

theorem scorePath_default :
    scorePath .defaultPolicy quality context =
      measuredScore quality context + 5 * routeFactorValue .degradation quality context +
        routeFactorValue .freshness quality context +
        (3 * routeFactorValue .directness quality context +
          2 * routeFactorValue .hopCount quality context +
          routeFactorValue .confidence quality context) := by
  simp only [scorePath, RoutePolicy.defaultPolicy, List.foldl_cons, List.foldl_nil,
    measuredScore]
  ring

theorem confidence_bounds :
    0 ≤ routeFactorValue .confidence quality context ∧
      routeFactorValue .confidence quality context ≤ 1 := by
  simp only [routeFactorValue, confidenceValue]
  split <;> norm_num

theorem hopCount_pos : 0 < routeFactorValue .hopCount quality context := by
  simp only [routeFactorValue]
  positivity

variable {quality}

/-- A path of one hop collects half of the hop factor, a longer one a third at most. -/
theorem hopCount_le (hops : 0 < quality.hopCount) :
    routeFactorValue .hopCount quality context ≤
      if quality.hopCount = 1 then 1 / 2 else 1 / 3 := by
  simp only [routeFactorValue]
  split
  next single => norm_num [single]
  next several =>
    have long : (2 : ℚ) ≤ quality.hopCount := by
      exact_mod_cast (by omega : 2 ≤ quality.hopCount)
    rw [div_le_div_iff₀ (by positivity) (by norm_num)]
    linarith

/-- Without degraded links a fresh path exceeds the weights of degradation and
freshness. -/
theorem lt_score_of_sound (sound : quality.degradedLinks = 0)
    (fresh : quality.stale = false) :
    measuredScore quality context + 6 < scorePath .defaultPolicy quality context := by
  have confidence := (confidence_bounds quality context).1
  have hop := hopCount_pos quality context
  have direct : 0 ≤ routeFactorValue .directness quality context := by
    simp only [routeFactorValue]
    split <;> norm_num
  have degradation : routeFactorValue .degradation quality context = 1 := by
    simp [routeFactorValue, sound]
  have freshness : routeFactorValue .freshness quality context = 1 := by
    simp [routeFactorValue, fresh]
  rw [scorePath_default, degradation, freshness]
  linarith

/-- With a degraded link a path does not exceed them. -/
theorem score_le_of_degraded (degraded : quality.degradedLinks ≠ 0)
    (hops : 0 < quality.hopCount)
    (direct_iff : quality.direct = true ↔ quality.hopCount = 1) :
    scorePath .defaultPolicy quality context ≤ measuredScore quality context + 6 := by
  have confidence := (confidence_bounds quality context).2
  have hop := hopCount_le context hops
  have degradation : routeFactorValue .degradation quality context = 0 := by
    simp [routeFactorValue, degraded]
  have freshness : routeFactorValue .freshness quality context ≤ 1 := by
    simp only [routeFactorValue]
    split <;> norm_num
  have direct : routeFactorValue .directness quality context =
      if quality.hopCount = 1 then 1 else 0 := by
    simp only [routeFactorValue, direct_iff]
  rw [scorePath_default, degradation, direct]
  split at hop
  next single =>
    rw [if_pos single]
    linarith
  next several =>
    rw [if_neg several]
    linarith

end Score

/-- The measurement used for a path depends on its endpoints only. -/
theorem bestMeasurement_congr (measurements : List MeasurementRecord) {left right : Path}
    (source : left.source = right.source) (target : left.target = right.target) :
    bestMeasurement measurements left = bestMeasurement measurements right := by
  have step : considerMeasurement left = considerMeasurement right := by
    funext best measurement
    simp only [considerMeasurement, source, target]
  rw [bestMeasurement, bestMeasurement, step]

theorem measuredScore_congr {topo : TopologySnapshot}
    (measurements : List MeasurementRecord) (context : FactorContext) {left right : Path}
    (source : left.source = right.source) (target : left.target = right.target) :
    measuredScore (computeQuality topo measurements left) context =
      measuredScore (computeQuality topo measurements right) context := by
  simp only [measuredScore, routeFactorValue, computeQuality,
    bestMeasurement_congr measurements source target]

namespace Registry

variable {limits : Limits} {state : State} {source target : DeviceId}

/-- A candidate that the default policy accepts is fresh. -/
theorem fresh_of_accepted {path : Path}
    (accepted : rejectedIn .defaultPolicy state path = false) :
    (qualityIn state path).stale = false := by
  rw [rejectedIn, violatesSome, List.any_eq_false] at accepted
  have kept := accepted .fresh (by decide)
  simp only [Constraint.violated, RoutePolicy.defaultPolicy, Bool.true_and,
    Bool.or_eq_true, not_or, Bool.not_eq_true] at kept
  exact kept.2

/-- A sound candidate of the default policy scores more than a degraded one. -/
theorem score_lt_of_sound {sound degraded : Path} (context : FactorContext)
    (soundFound : sound ∈ enumeratePathsImpl (buildSnapshot state) source target limits)
    (accepted : rejectedIn .defaultPolicy state sound = false)
    (soundLinks : (qualityIn state sound).degradedLinks = 0)
    (degradedFound : degraded ∈ enumeratePathsImpl (buildSnapshot state) source
      target limits)
    (degradedLinks : (qualityIn state degraded).degradedLinks ≠ 0) :
    scorePath .defaultPolicy (qualityIn state degraded) context <
      scorePath .defaultPolicy (qualityIn state sound) context := by
  have measured : measuredScore (qualityIn state degraded) context =
      measuredScore (qualityIn state sound) context :=
    measuredScore_congr state.measurementHistory context
      ((candidate_source degradedFound).trans (candidate_source soundFound).symm)
      ((candidate_target degradedFound).trans (candidate_target soundFound).symm)
  calc scorePath .defaultPolicy (qualityIn state degraded) context
      ≤ measuredScore (qualityIn state degraded) context + 6 :=
        score_le_of_degraded context degradedLinks (candidate_hopCount_pos degradedFound)
          (candidate_hops degradedFound).2.2
    _ = measuredScore (qualityIn state sound) context + 6 := by rw [measured]
    _ < scorePath .defaultPolicy (qualityIn state sound) context :=
        lt_score_of_sound context soundLinks (fresh_of_accepted accepted)

/-- A scored competitor is an accepted candidate with the quality of its path. -/
theorem of_mem_scored {policy : RoutePolicy} {eval : Eval}
    (member : eval ∈ scored policy (competitors limits policy state source target)) :
    eval.path ∈ enumeratePathsImpl (buildSnapshot state) source target limits ∧
      eval.quality = qualityIn state eval.path := by
  obtain ⟨unscored, competes, rfl⟩ := List.mem_map.mp member
  obtain ⟨enumerated, -, quality⟩ := of_mem_competitors competes
  exact ⟨enumerated, quality⟩

/-- Under the default policy a candidate without degraded links keeps every candidate with
degraded links from being selected. -/
theorem defaultPolicy_avoids_degraded (reachable : Reachable limits state) {path : Path}
    (enumerated : path ∈ enumeratePathsImpl (buildSnapshot state) source target limits)
    (accepted : rejectedIn .defaultPolicy state path = false)
    (sound : (qualityIn state path).degradedLinks = 0) (ambient : Ambient) :
    ∃ decision best, decideRoute limits ambient source target .defaultPolicy state =
        .ok decision ∧
      selectBest limits .defaultPolicy (consistentView state) source target = some best ∧
      decision.selected = some best.path.id ∧ best.quality.degradedLinks = 0 := by
  obtain ⟨decision, decided⟩ :=
    decideRoute_total limits ambient source target .defaultPolicy
    state
  obtain ⟨best, front⟩ := selectBest_of_accepted enumerated accepted
  obtain ⟨sourceFound, targetFound⟩ :=
    candidate_ends_found (consistent_of_reachable reachable).tables enumerated
  obtain ⟨selected, -, -⟩ :=
    decideRouteWith_of_selected sourceFound targetFound front decided
  refine ⟨decision, best, decided, front, selected, ?_⟩
  by_contra degraded
  have competes : _ ∈ scored .defaultPolicy _ :=
    mem_scored (mem_competitors_of_accepted enumerated accepted)
  have member := Selection.front_mem front
  obtain ⟨bestFound, bestQuality⟩ := of_mem_scored member
  have atMost := Eval.score_le_of_key_le (Selection.front_max Eval.ranks front competes)
  rw [score_of_mem_scored competes, score_of_mem_scored member, bestQuality] at atMost
  rw [bestQuality] at degraded
  exact absurd atMost (not_le.mpr
    (score_lt_of_sound _ enumerated accepted sound bestFound degraded))

/-- A degraded direct link and a way around it. -/
def detourCalls : List Call :=
  [⟨.upsertDevice { id := ⟨1⟩, generation := ⟨1⟩ }, {}⟩,
    ⟨.upsertDevice { id := ⟨2⟩, generation := ⟨1⟩ }, {}⟩,
    ⟨.upsertDevice { id := ⟨3⟩, generation := ⟨1⟩ }, {}⟩,
    ⟨.upsertLink
      { id := ⟨7⟩, source := ⟨1⟩, target := ⟨2⟩, generation := ⟨1⟩, state := .up,
        degraded := true, capability := { nominalBandwidthBps := 100 } }, {}⟩,
    ⟨.upsertLink
      { id := ⟨8⟩, source := ⟨1⟩, target := ⟨3⟩, generation := ⟨1⟩, state := .up,
        capability := { nominalBandwidthBps := 100 } }, {}⟩,
    ⟨.upsertLink
      { id := ⟨9⟩, source := ⟨3⟩, target := ⟨2⟩, generation := ⟨1⟩, state := .up,
        capability := { nominalBandwidthBps := 100 } }, {}⟩]

/-- The way around the degraded link is selected. -/
theorem defaultPolicy_detour :
    ∃ decision best, decideRoute {} {} ⟨1⟩ ⟨2⟩ .defaultPolicy
        (run {} State.initial detourCalls) = .ok decision ∧
      selectBest {} .defaultPolicy (consistentView (run {} State.initial detourCalls))
        ⟨1⟩ ⟨2⟩ = some best ∧
      decision.selected = some best.path.id ∧ best.quality.degradedLinks = 0 := by
  obtain ⟨path, enumerated, accepted, sound⟩ :
      ∃ path ∈ enumeratePathsImpl (buildSnapshot (run {} State.initial detourCalls))
          ⟨1⟩ ⟨2⟩ {},
        rejectedIn .defaultPolicy (run {} State.initial detourCalls) path = false ∧
          (qualityIn (run {} State.initial detourCalls) path).degradedLinks = 0 := by
    decide +kernel
  exact defaultPolicy_avoids_degraded ⟨detourCalls, rfl⟩ enumerated accepted sound {}

end Registry

end NvlinkFabric

import NvlinkFabric.Path.Quality
import Mathlib.Algebra.Order.Field.Rat

/-!
# Route policies

Hard constraints, the named ranking factors and the weighted score.  Scores are exact
rationals here, without the rounding, the infinities and the NaNs of the doubles that
the code computes.
-/

namespace NvlinkFabric

/-- `RouteFactorKey`. -/
inductive RouteFactorKey where
  | directness | hopCount | measuredBandwidth | nominalBandwidth | measuredLatency
  | degradation | contention | freshness | confidence | policyPreference
  deriving DecidableEq

/-- `RouteFactor`. -/
structure RouteFactor where
  key : RouteFactorKey := .directness
  weight : ℚ := 1

/-- `HardConstraint`: the constraints that `decide_route` reads. -/
structure HardConstraint where
  requireSupportedLinks : Bool := true
  requireFresh : Bool := true
  minNominalBandwidthBps : Option UInt64 := none
  minMeasuredBandwidthBps : Option ℚ := none
  requiredTechnology : Option InterconnectTechnology := none
  maxHops : Option Nat := none
  requireDirect : Bool := false
  excludeDegraded : Bool := false
  excludeDown : Bool := true
  excludeContended : Bool := false

/-- `RoutePolicy`. -/
structure RoutePolicy where
  id : PolicyId := .nil
  hard : HardConstraint := {}
  ranking : List RouteFactor := []

/-- `RoutePolicy::default_policy`. -/
def RoutePolicy.defaultPolicy : RoutePolicy where
  ranking :=
    [⟨.directness, 3⟩, ⟨.hopCount, 2⟩, ⟨.measuredBandwidth, 4⟩, ⟨.measuredLatency, 1⟩,
      ⟨.degradation, 5⟩, ⟨.freshness, 1⟩, ⟨.confidence, 1⟩]

/-- `FactorContext`: maxima over the eligible candidates. -/
structure FactorContext where
  maxNominalBps : ℚ := 1
  maxMeasuredBps : ℚ := 1

def clamp01 (value : ℚ) : ℚ :=
  if value < 0 then 0 else if value > 1 then 1 else value

def confidenceValue (evidence : Evidence) : ℚ :=
  match evidence.evidenceClass with
  | .real => 1
  | .synthetic => 1 / 2
  | .unsupported => 0
  | .undeclared _ _ => 0

def routeFactorValue (key : RouteFactorKey) (quality : PathQuality)
    (context : FactorContext) : ℚ :=
  match key with
  | .directness => if quality.direct then 1 else 0
  | .hopCount => 1 / (quality.hopCount + 1)
  | .measuredBandwidth =>
      match quality.measuredBandwidthBps with
      | none => 0
      | some measured =>
          if context.maxMeasuredBps ≤ 0 then 0
            else clamp01 (measured / context.maxMeasuredBps)
  | .nominalBandwidth =>
      if context.maxNominalBps ≤ 0 then 0
      else clamp01 (quality.nominalBandwidthBps.toNat / context.maxNominalBps)
  | .measuredLatency =>
      match quality.measuredLatencySeconds with
      | none => 0
      | some latency => 1 / (1 + latency)
  | .degradation => if quality.degradedLinks = 0 then 1 else 0
  | .contention => if quality.outcome = .contended then 0 else 1
  | .freshness => if quality.stale then 0 else 1
  | .confidence => confidenceValue quality.evidence
  | .policyPreference => 1 / 2

def scorePath (policy : RoutePolicy) (quality : PathQuality)
    (context : FactorContext) : ℚ :=
  policy.ranking.foldl
    (fun score factor => score +
      factor.weight * routeFactorValue factor.key quality context) 0

end NvlinkFabric

import NvlinkFabric.Route.Selection
import NvlinkFabric.Lib.Binary64

/-!
# Scores in doubles

The scores of `policy.cpp` as they are computed, in binary64: each operation rounds, and
a latency of minus one second scores infinitely high.  The comparator of the ranking sort
meets the requirement of `std::stable_sort` unless a score is a NaN, which the weighted
sum of an infinite factor can produce.
-/

namespace NvlinkFabric

namespace Double

/-- `FactorContext`. -/
structure FactorContext where
  maxNominalBps : Float := 1
  maxMeasuredBps : Float := 1

def clamp01 (value : Float) : Float :=
  if value < 0 then 0 else if value > 1 then 1 else value

def confidenceValue (evidence : Evidence) : Float :=
  match evidence.evidenceClass with
  | .real => 1
  | .synthetic => 0.5
  | .unsupported => 0
  | .undeclared _ _ => 0

/-- `route_factor_value`; the records hold the exact values of their doubles. -/
def routeFactorValue (key : RouteFactorKey) (quality : PathQuality)
    (context : FactorContext) : Float :=
  match key with
  | .directness => if quality.direct then 1 else 0
  | .hopCount => 1 / (quality.hopCount + 1).toFloat
  | .measuredBandwidth =>
      match quality.measuredBandwidthBps with
      | none => 0
      | some measured =>
          if context.maxMeasuredBps ≤ 0 then 0
          else clamp01 (Binary64.nearest measured / context.maxMeasuredBps)
  | .nominalBandwidth =>
      if context.maxNominalBps ≤ 0 then 0
      else clamp01 (quality.nominalBandwidthBps.toFloat / context.maxNominalBps)
  | .measuredLatency =>
      match quality.measuredLatencySeconds with
      | none => 0
      | some latency => 1 / (1 + Binary64.nearest latency)
  | .degradation => if quality.degradedLinks = 0 then 1 else 0
  | .contention => if quality.outcome = .contended then 0 else 1
  | .freshness => if quality.stale then 0 else 1
  | .confidence => confidenceValue quality.evidence
  | .policyPreference => 0.5

example (quality : PathQuality) (context : FactorContext)
    (latency : quality.measuredLatencySeconds = some (-1)) :
    routeFactorValue .measuredLatency quality context = 1 / 0 := by
  simp only [routeFactorValue, latency]
  decide +kernel

def scorePath (policy : RoutePolicy) (quality : PathQuality) (context : FactorContext) :
    Float :=
  policy.ranking.foldl
    (fun score factor =>
      score + Binary64.nearest factor.weight * routeFactorValue factor.key
        quality context) 0

/-- `std::max`. -/
def larger (left right : Float) : Float :=
  if left < right then right else left

/-- Maxima over the eligible candidates. -/
def factorContext (evals : List Eval) : FactorContext :=
  evals.foldl
    (fun context eval =>
      { maxNominalBps :=
          larger context.maxNominalBps eval.quality.nominalBandwidthBps.toFloat
        maxMeasuredBps :=
          match eval.quality.measuredBandwidthBps with
          | none => context.maxMeasuredBps
          | some measured => larger context.maxMeasuredBps (Binary64.nearest measured) })
    {}

/-- The score of a candidate among the eligible ones. -/
def score (policy : RoutePolicy) (evals : List Eval) (eval : Eval) : Float :=
  scorePath policy eval.quality (factorContext evals)

/-- The comparator of the ranking sort. -/
def ranking : Ranking := fun policy evals left right =>
  if score policy evals left != score policy evals right then
    decide (score policy evals left > score policy evals right)
  else left.tieBefore right

/-- No score is a NaN. -/
def Numbers (policy : RoutePolicy) (evals : List Eval) : Prop :=
  ∀ eval ∈ evals, (score policy evals eval).isNaN = false

instance (policy : RoutePolicy) (evals : List Eval) : Decidable (Numbers policy evals) :=
  inferInstanceAs (Decidable (∀ _ ∈ _, _))

/-- Scores that are numbers order the candidates as the stable sort requires. -/
theorem ranking_weakOrder {policy : RoutePolicy} {evals : List Eval}
    (numbers : Numbers policy evals) :
    Selection.WeakOrder (ranking policy evals) evals := by
  refine Selection.weakOrder_of_key
    (fun eval => toLex (Binary64.place (score policy evals eval), eval.tieKey)) ?_
  intro left leftMember right rightMember
  have leftNumber := numbers left leftMember
  have rightNumber := numbers right rightMember
  have same := Binary64.beq_iff leftNumber rightNumber
  rw [lex_lt_iff, ← Binary64.lt_iff rightNumber leftNumber, ranking, bne]
  cases equal : score policy evals left == score policy evals right with
  | true => simp [same.mp equal, Eval.tieRanks left right]
  | false => simp [← same, equal]

end Double

end NvlinkFabric

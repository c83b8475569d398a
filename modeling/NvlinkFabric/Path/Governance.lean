import NvlinkFabric.Path.Quality
import Mathlib.Data.List.Forall2

/-!
# What governance reads of a path

`compute_quality` looks at a handful of fields of each link and of one
measurement.  Records that agree on those fields are alike: exchanging them in a
topology changes neither the outcome nor any value that a route decision is based
on.  A difference in capability is invisible where the state of the link settles
the outcome before capability is asked for.
-/

namespace NvlinkFabric

/-- The part of a path's quality that route governance uses. -/
structure Governance where
  outcome : PathQualityOutcome
  evidenceClass : EvidenceClass
  degradedLinks : Nat
  downLinks : Nat
  contended : Bool
  nominalBandwidthBps : UInt64
  measuredBandwidthBps : Option ℚ
  measuredLatencySeconds : Option ℚ
  deriving DecidableEq

def PathQuality.governance (quality : PathQuality) : Governance where
  outcome := quality.outcome
  evidenceClass := quality.evidence.evidenceClass
  degradedLinks := quality.degradedLinks
  downLinks := quality.downLinks
  contended := quality.contended
  nominalBandwidthBps := quality.nominalBandwidthBps
  measuredBandwidthBps := quality.measuredBandwidthBps
  measuredLatencySeconds := quality.measuredLatencySeconds

namespace LinkRecord

/-- The degradation that the evaluator counts. -/
def isDegraded (link : LinkRecord) : Bool := link.degraded || link.state = .degraded

/-- The capability that the evaluator asks for. -/
def hasCapability (link : LinkRecord) : Bool :=
  link.capability.nominalBandwidthBps > 0 || link.capability.interconnect ≠ .unknown

/-- Links that decide the outcome before capability is asked for. -/
def settles (link : LinkRecord) : Bool :=
  link.state.isDown || link.state = .unsupported || link.state.needsRevalidation ||
    link.isDegraded || link.state = .unknown

/-- The evaluator cannot tell the links apart. -/
structure Alike (left right : LinkRecord) : Prop where
  technology : left.technology = right.technology
  state : left.state = right.state
  degraded : left.isDegraded = right.isDegraded
  bandwidth : left.capability.nominalBandwidthBps = right.capability.nominalBandwidthBps
  evidenceClass : left.evidence.evidenceClass = right.evidence.evidenceClass
  capability : left.hasCapability = right.hasCapability ∨ left.settles = true

theorem Alike.refl (link : LinkRecord) : link.Alike link :=
  ⟨rfl, rfl, rfl, rfl, rfl, .inl rfl⟩

end LinkRecord

namespace LinkScan

/-- A flag is up that decides the outcome before capability is asked for. -/
def settled (scan : LinkScan) : Bool :=
  scan.anyDown || scan.anyUnsupported || scan.anyReval || scan.anyDegraded ||
    scan.anyUnknown

theorem settled_visit (scan : LinkScan) (link : LinkRecord) :
    (scan.visit link).settled = (scan.settled || link.settles) := by
  simp only [settled, visit, LinkRecord.settles, LinkRecord.isDegraded]
  ac_rfl

theorem hasCapability_visit (scan : LinkScan) (link : LinkRecord) :
    (scan.visit link).hasCapability = (scan.hasCapability || link.hasCapability) := by
  simp only [visit, LinkRecord.hasCapability, Bool.or_assoc]

/-- Scans that can differ only in a capability that nothing asks for. -/
structure Alike (left right : LinkScan) : Prop where
  others : right = { left with hasCapability := right.hasCapability }
  capability : left.hasCapability = right.hasCapability ∨ left.settled = true

theorem Alike.visit {left right : LinkScan} (scans : left.Alike right)
    {first second : LinkRecord} (links : first.Alike second) :
    (left.visit first).Alike (right.visit second) := by
  constructor
  · have degraded : (second.degraded || decide (second.state = .degraded)) =
        (first.degraded || decide (first.state = .degraded)) := links.degraded.symm
    rw [scans.others]
    simp only [LinkScan.visit, degraded, links.technology, links.state, links.bandwidth,
      links.evidenceClass]
  · rw [settled_visit, hasCapability_visit, hasCapability_visit]
    rcases scans.capability with same | settled
    · rcases links.capability with linkSame | linkSettles
      · exact .inl (by rw [same, linkSame])
      · exact .inr (by rw [linkSettles, Bool.or_true])
    · exact .inr (by rw [settled, Bool.true_or])

/-- A missing link settles both scans. -/
theorem Alike.miss {left right : LinkScan} (scans : left.Alike right) :
    Alike { left with downLinks := left.downLinks + 1, anyDown := true }
      { right with downLinks := right.downLinks + 1, anyDown := true } := by
  constructor
  · rw [scans.others]
  · exact .inr rfl

theorem Alike.outcome {left right : LinkScan} (scans : left.Alike right) (hopCount : Nat)
    (contended : Bool) :
    qualityOutcome left hopCount contended = qualityOutcome right hopCount contended := by
  rw [scans.others]
  rcases scans.capability with same | settled
  · simp only [qualityOutcome, same]
  · simp only [LinkScan.settled, Bool.or_eq_true] at settled
    simp only [qualityOutcome]
    -- Whichever flag is up, the last two branches are not told apart by capability.
    rcases settled with (((down | unsupported) | reval) | degraded) | unknown <;> simp [*]

/-- An unsettled scan without contention asks for capability. -/
theorem qualityOutcome_of_unsettled {scan : LinkScan} (unsettled : scan.settled = false) :
    qualityOutcome scan 1 false =
      if scan.hasCapability then .healthy else .insufficientEvidence := by
  simp only [settled, Bool.or_eq_false_iff] at unsettled
  obtain ⟨⟨⟨⟨down, unsupported⟩, reval⟩, degraded⟩, unknown⟩ := unsettled
  cases capable : scan.hasCapability <;>
    simp [qualityOutcome, down, unsupported, reval, degraded, unknown, capable]

end LinkScan

/-- Alike links in every place of the two topologies give alike scans. -/
theorem scanLinks_alike {left right : TopologySnapshot}
    (links : ∀ id, Option.Rel LinkRecord.Alike (left.findLink id) (right.findLink id))
    (path : Path) : (scanLinks left path).Alike (scanLinks right path) := by
  refine List.foldl_rel (r := LinkScan.Alike) ⟨rfl, .inl rfl⟩ ?_
  intro element _ first second scans
  cases element with
  | device id => exact scans
  | link id =>
      simp only [LinkScan.element]
      have found := links id
      generalize left.findLink id = leftLink at found ⊢
      generalize right.findLink id = rightLink at found ⊢
      cases found with
      | none => exact scans.miss
      | some alike => exact scans.visit alike

namespace MeasurementRecord

/-- The fields that the evaluator reads of a valid measurement. -/
def readings (measurement : MeasurementRecord) :
    DeviceId × DeviceId × Bool × Timestamp × EvidenceClass × Bool × ℚ × ℚ :=
  (measurement.source, measurement.target, measurement.stale, measurement.measuredAt,
    measurement.evidence.evidenceClass, measurement.contended, measurement.bandwidthBps,
    measurement.latencySeconds)

/-- The evaluator cannot tell the measurements apart. -/
structure Alike (left right : MeasurementRecord) : Prop where
  valid : left.valid = right.valid
  readings : left.valid = true → left.readings = right.readings

theorem Alike.refl (measurement : MeasurementRecord) : measurement.Alike measurement :=
  ⟨rfl, fun _ => rfl⟩

end MeasurementRecord

/-- Choices that read the same. -/
abbrev ChosenAlike : Option MeasurementRecord → Option MeasurementRecord → Prop :=
  Option.Rel fun left right => left.readings = right.readings

theorem considerMeasurement_alike (path : Path) {left right : Option MeasurementRecord}
    (chosen : ChosenAlike left right) {first second : MeasurementRecord}
    (alike : first.Alike second) :
    ChosenAlike (considerMeasurement path left first)
      (considerMeasurement path right second) := by
  cases valid : first.valid with
  | false => simpa [considerMeasurement, valid, ← alike.valid] using chosen
  | true =>
      have same := alike.readings valid
      have fields := same
      simp only [MeasurementRecord.readings, Prod.mk.injEq] at fields
      obtain ⟨source, target, stale, measuredAt, -⟩ := fields
      simp only [considerMeasurement, valid, ← alike.valid, ← source, ← target, ← stale]
      cases chosen with
      | none =>
          split
          · exact .none
          · split
            · exact .some same
            · exact .none
      | some kept =>
          have times := kept
          simp only [MeasurementRecord.readings, Prod.mk.injEq] at times
          simp only [← measuredAt, ← times.2.2.2.1]
          split
          · exact .some kept
          · split
            · split
              · exact .some same
              · exact .some kept
            · exact .some kept

theorem bestMeasurement_alike (path : Path) {left right : List MeasurementRecord}
    (measurements : List.Forall₂ MeasurementRecord.Alike left right) :
    ChosenAlike (bestMeasurement left path) (bestMeasurement right path) := by
  unfold bestMeasurement
  apply List.rel_foldl (P := ChosenAlike) _ Option.Rel.none measurements
  intro first second chosen third fourth alike
  exact considerMeasurement_alike path chosen alike

/-- Pushing alike measurements onto one history keeps it alike. -/
theorem push_alike (bound : Nat) (history : List MeasurementRecord)
    {first second : MeasurementRecord} (alike : first.Alike second) :
    List.Forall₂ MeasurementRecord.Alike (BoundedQueue.push bound history first)
      (BoundedQueue.push bound history second) := by
  have extended : List.Forall₂ MeasurementRecord.Alike (history ++ [first])
      (history ++ [second]) :=
    List.rel_append (List.forall₂_same.mpr fun _ _ => .refl _) (.cons alike .nil)
  simp only [BoundedQueue.push, List.length_append, List.length_singleton]
  split
  · simpa only [List.drop_one] using List.forall₂_drop 1 extended
  · exact extended

/-- Alike links and measurements are governed alike. -/
theorem governance_alike {left right : TopologySnapshot}
    (links : ∀ id, Option.Rel LinkRecord.Alike (left.findLink id) (right.findLink id))
    {leftMeasured rightMeasured : List MeasurementRecord}
    (measurements : List.Forall₂ MeasurementRecord.Alike leftMeasured rightMeasured)
    (path : Path) :
    (computeQuality left leftMeasured path).governance =
      (computeQuality right rightMeasured path).governance := by
  have scans := scanLinks_alike links path
  have chosen := bestMeasurement_alike path measurements
  simp only [computeQuality, PathQuality.governance, scans.outcome]
  generalize bestMeasurement leftMeasured path = leftBest at chosen ⊢
  generalize bestMeasurement rightMeasured path = rightBest at chosen ⊢
  rw [scans.others]
  cases chosen with
  | none => rfl
  | some same =>
      simp only [MeasurementRecord.readings, Prod.mk.injEq] at same
      obtain ⟨-, -, -, -, evidenceClass, contended, bandwidth, latency⟩ := same
      simp only [aggregateClass, Option.any_some, Option.map_some,
        evidenceClass, contended, bandwidth, latency]

end NvlinkFabric

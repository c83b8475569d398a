import NvlinkFabric.Path.Reference
import NvlinkFabric.Registry.Submitted

/-!
# Ratings and submissions

Path quality rates the evidence of a path by its weakest part.  Whatever happened to
the registry before, these parts are the evidence that was submitted last for each
link of the path, and that of a published measurement; the registry adds none of its
own.
-/

namespace NvlinkFabric

open Transition

namespace Registry

variable {limits : Limits} {calls : List Call} {source target : DeviceId} {path : Path}
  {paths : List Path} {quality : PathQuality}

/-- The evidence was submitted for the link by the last accepted call that named it. -/
abbrev SubmittedLast (limits : Limits) (calls : List Call) (id : LinkId)
    (evidence : Evidence) : Prop :=
  WrittenLast (step limits) (evidenceField.submits limits id) .initial calls evidence

/-- The stored links of a path carry the evidence submitted last for them. -/
theorem submitted_links (ids : List LinkId)
    (present : ∀ id ∈ ids, ∃ link,
      (run limits .initial calls).links.find? id = some link) :
    List.Forall₂ (SubmittedLast limits calls) ids
      ((ids.filterMap (run limits .initial calls).links.find?).map (·.evidence)) := by
  induction ids with
  | nil => exact .nil
  | cons id ids ih =>
      obtain ⟨link, found⟩ := present id List.mem_cons_self
      rw [List.filterMap_cons_some found, List.map_cons]
      exact .cons (evidenceField.written_last limits calls found)
        (ih fun other member => present other (List.mem_cons_of_mem _ member))

/-- The evidence of the links of a path, in their order. -/
def linkEvidence (state : State) (path : Path) : List Evidence :=
  (path.links.filterMap state.links.find?).map (·.evidence)

/-- A path is rated by the evidence that was submitted last for its links, and by that of
the measurement used. -/
theorem rating_parts
    (listed : enumeratePaths limits source target (run limits .initial calls) = .ok paths)
    (member : path ∈ paths)
    (rated : computePathQuality path (run limits .initial calls) = .ok quality) :
    List.Forall₂ (SubmittedLast limits calls) path.links
        (linkEvidence (run limits .initial calls) path) ∧
      quality.evidence.evidenceClass =
        weakest ((linkEvidence (run limits .initial calls) path ++
          (bestMeasurement (run limits .initial calls).measurementHistory path).toList.map
            (·.evidence)).map (·.evidenceClass)) := by
  have enumerated := enumerated_of_mem ⟨calls, rfl⟩ listed member
  have tables := (consistent_of_reachable ⟨calls, rfl⟩ :
    Consistent limits (run limits .initial calls)).tables
  obtain rfl := Except.ok.inj (rated.symm.trans enumerated.quality)
  have reference : ReferenceQuality
      (path.linkRecords (buildSnapshot (run limits .initial calls)).findLink)
      (bestMeasurement (run limits .initial calls).measurementHistory path)
      (computeQuality (buildSnapshot (run limits .initial calls))
        (run limits .initial calls).measurementHistory path) :=
    computeQuality_reference fun _ => candidate_link enumerated.candidate
  rw [enumerated.linkRecords] at reference
  refine ⟨submitted_links path.links fun id on => ?_, reference.evidenceClass⟩
  rw [← findLink_buildSnapshot tables]
  exact candidate_link enumerated.candidate on

/-- The measurement used for a path was published by a call, and has not lapsed since. -/
theorem used_published {used : MeasurementRecord}
    (best : bestMeasurement (run limits .initial calls).measurementHistory
      path = some used) :
    ∃ call ∈ calls, ∃ published, publishes call = some published ∧
      used = keep false published := by
  obtain ⟨member, usable⟩ := bestMeasurement_mem best
  obtain ⟨call, called, published, made, lapsed, rfl⟩ :=
    measurement_published limits calls member
  obtain rfl : lapsed = false := usable.2
  exact ⟨call, called, published, made, rfl⟩

/-- The class that a path is rated with is the weakest of what was submitted last for its
links and of the latest measurement that covers its ends, which some call published. -/
theorem rating_of_submissions
    (listed : enumeratePaths limits source target (run limits .initial calls) = .ok paths)
    (member : path ∈ paths)
    (rated : computePathQuality path (run limits .initial calls) = .ok quality) :
    ∃ submitted, List.Forall₂ (SubmittedLast limits calls) path.links submitted ∧
      ∃ used, used = bestMeasurement (run limits .initial calls).measurementHistory path ∧
        Latest ((run limits .initial calls).measurementHistory.filter
          (·.covers source target))
          used ∧
        (∀ measurement ∈ used, ∃ call ∈ calls, ∃ published,
          publishes call = some published ∧ measurement = keep false published) ∧
        quality.evidence.evidenceClass =
          weakest ((submitted ++ used.toList.map (·.evidence)).map
            (·.evidenceClass)) := by
  obtain ⟨links, rating⟩ := rating_parts listed member rated
  have candidate := (enumerated_of_mem ⟨calls, rfl⟩ listed member).candidate
  refine ⟨_, links, _, rfl, ?_, fun measurement best => used_published best, rating⟩
  rw [← candidate_source candidate, ← candidate_target candidate]
  exact latest_bestMeasurement _ _

/-- The SYNTHETIC measurement of the relay weakens the REAL evidence of its links. -/
theorem rating_of_submissions_relayed :
    ∃ submitted, List.Forall₂ (SubmittedLast {} relayCalls) relayPath.links submitted ∧
      ∃ used, used = bestMeasurement relayed.measurementHistory relayPath ∧
        used.map (·.bandwidthBps) = some 20 ∧
        (computeQuality (buildSnapshot relayed) relayed.measurementHistory
          relayPath).evidence.evidenceClass =
          weakest ((submitted ++ used.toList.map (·.evidence)).map
            (·.evidenceClass)) := by
  obtain ⟨submitted, links, used, same, -, -, rating⟩ :=
    rating_of_submissions enumeratePaths_relayed List.mem_cons_self rfl
  refine ⟨submitted, links, used, same, ?_, rating⟩
  rw [same]
  decide +kernel

/-- What the call submits for links is marked as SYNTHETIC or UNSUPPORTED. -/
def Unreal (call : Call) : Prop :=
  ∀ id evidence, evidenceField.brings call.operation id = some evidence →
    evidence.evidenceClass = .synthetic ∨ evidence.evidenceClass = .unsupported

/-- The weakest of some classes is not REAL if one of them is SYNTHETIC or UNSUPPORTED. -/
theorem weakest_ne_real {classes : List EvidenceClass} {evidenceClass : EvidenceClass}
    (member : evidenceClass ∈ classes)
    (unreal : evidenceClass = .synthetic ∨ evidenceClass = .unsupported) :
    weakest classes ≠ .real := by
  unfold weakest
  split
  · simp
  next supported =>
    split
    · simp
    next genuine =>
      rcases unreal with rfl | rfl
      · exact absurd member genuine
      · exact absurd member supported

/-- While nobody submits more than SYNTHETIC evidence for a link, no path is REAL. -/
theorem unreal_rating (unreal : ∀ call ∈ calls, Unreal call)
    (listed : enumeratePaths limits source target (run limits .initial calls) = .ok paths)
    (member : path ∈ paths)
    (rated : computePathQuality path (run limits .initial calls) = .ok quality) :
    quality.evidence.evidenceClass ≠ .real := by
  obtain ⟨links, rating⟩ := rating_parts listed member rated
  obtain ⟨enumerated, -, -⟩ := enumerated_of_mem ⟨_, rfl⟩ listed member
  obtain ⟨nonempty, -, -⟩ := candidate_hops enumerated
  -- the first link alone keeps the rating down
  obtain ⟨id, ids, linksEq⟩ := List.exists_cons_of_ne_nil nonempty
  rw [linksEq] at links
  obtain ⟨evidence, others, written, -, evidenceEq⟩ := List.forall₂_cons_left_iff.mp links
  obtain ⟨before, call, after, rfl, submits, -⟩ := written
  rw [LinkField.submits] at submits
  split at submits
  next accepted =>
    rw [rating, evidenceEq]
    exact weakest_ne_real (by simp) (unreal call (by simp) id evidence submits)
  · cases submits

end Registry

end NvlinkFabric

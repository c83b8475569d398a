import NvlinkFabric.Coordinator.Server
import NvlinkFabric.Registry.Refusals
import NvlinkFabric.Path.Governance
import NvlinkFabric.Path.Reference
import NvlinkFabric.Worker.Evidence
import Mathlib.Tactic.NormNum

/-!
# Remote publication

The compact encodings leave fields out: a link loses its evidence class, its
degradation flag and its interconnect, and a measurement its contention flag and
its latency.  The coordinator stores defaults in their place.  Publishing a record
through the coordinator is equivalent to passing it to the registry exactly for
the records whose lost fields governance would not have told from those defaults.
-/

namespace NvlinkFabric.Coordinator

open Wire Registry

variable {limits : Limits} {state : State} {link : LinkRecord}
  {measurement : MeasurementRecord}

/-- How a registry state governs a path. -/
def governed (state : State) (path : Path) : Governance :=
  let view := consistentView state
  (computeQuality view.topology view.measurements path).governance

/-- A link that no registry stores, whatever it holds. -/
def Unstorable (link : LinkRecord) : Prop :=
  link.id.isNil = true ∨ link.generation.valid = false ∨ link.source = link.target ∨
    link.source.isNil = true ∨ link.target.isNil = true

/-- A link of which governance would not miss what the encoding leaves out: it is
synthetic, flagged as degraded only if its state says so, and known to be capable
by its bandwidth unless capability is not asked for. -/
def CarriedLink (link : LinkRecord) : Prop :=
  link.evidence.evidenceClass = .synthetic ∧
    (link.degraded = true → link.state = .degraded) ∧
    (link.capability.interconnect ≠ .unknown → 0 < link.capability.nominalBandwidthBps ∨
      link.settles = true)

theorem refusesLink_of_unstorable (reachable : Reachable limits state)
    (unstorable : Unstorable link) : RefusesLink limits state link := by
  have tables := (consistent_of_reachable reachable).tables
  have nilAbsent {id : DeviceId} (nil : id.isNil = true) :
      state.devices.find? id = none := by
    rw [FiniteMap.find?_eq_none]
    intro device member
    exact (tables.device_key member).2 (by simpa [Id.isNil] using nil)
  rcases unstorable with nil | invalid | loop | sourceNil | targetNil
  · exact .inl nil
  · exact .inr (.inl invalid)
  · exact .inr (.inr (.inl loop))
  · exact .inr (.inr (.inr (.inl (nilAbsent sourceNil))))
  · exact .inr (.inr (.inr (.inr (.inl (nilAbsent targetNil)))))

/-- The degradation that is counted survives if the state shows it. -/
theorem isDegraded_receivedLink (now : Timestamp)
    (shown : link.degraded = true → link.state = .degraded) :
    (receivedLink now link).isDegraded = link.isDegraded := by
  cases flag : link.degraded with
  | false =>
      rw [LinkRecord.isDegraded, LinkRecord.isDegraded, flag]
      rfl
  | true => simp [LinkRecord.isDegraded, receivedLink, flag, shown flag]

theorem alike_receivedLink (now : Timestamp) (carried : CarriedLink link) :
    link.Alike (receivedLink now link) := by
  obtain ⟨synthetic, degraded, capability⟩ := carried
  refine ⟨rfl, rfl, (isDegraded_receivedLink now degraded).symm, rfl, synthetic, ?_⟩
  by_cases unknown : link.capability.interconnect = .unknown
  · exact .inl (by simp [LinkRecord.hasCapability, receivedLink, unknown])
  · rcases capability unknown with positive | settles
    · have capable : link.capability.nominalBandwidthBps > 0 := positive
      exact .inl (by simp [LinkRecord.hasCapability, receivedLink, capable])
    · exact .inr settles

/-- What a stored link is looked up as. -/
theorem findLink_stored (reachable : Reachable limits state) (ambient : Ambient)
    (useful : ¬RefusesLink limits state link) (id : LinkId) :
    (buildSnapshot (Registry.step limits state ⟨.upsertLink link, ambient⟩)).findLink id =
      ((state.links.set link.id link).find? id).map (stamp state.topologyGen.next) := by
  have consistent := consistent_of_reachable (reachable.next ⟨.upsertLink link, ambient⟩)
  obtain ⟨observation, stored⟩ := upsertLink_of_not_refuses ambient useful
  rw [findLink_buildSnapshot consistent.tables, step_of_apply_ok stored, commit_links,
    FiniteMap.find?_mapValues]

theorem measurementHistory_stored (ambient : Ambient)
    (useful : ¬RefusesLink limits state link) :
    (Registry.step limits state ⟨.upsertLink link, ambient⟩).measurementHistory =
      state.measurementHistory := by
  obtain ⟨observation, stored⟩ := upsertLink_of_not_refuses ambient useful
  rw [step_of_apply_ok stored, commit_measurementHistory]

/-- Storing alike links under one identity is governed alike. -/
theorem governed_upsertLink (reachable : Reachable limits state) (ambient : Ambient)
    (now : Timestamp) (alike : link.Alike (receivedLink now link)) (path : Path) :
    governed (Registry.step limits state ⟨.upsertLink (receivedLink now link),
      ambient⟩) path =
      governed (Registry.step limits state ⟨.upsertLink link, ambient⟩) path := by
  by_cases refused : RefusesLink limits state link
  · have alsoRefused : RefusesLink limits state (receivedLink now link) := refused
    rw [(step_upsertLink_eq_iff _).mpr refused,
      (step_upsertLink_eq_iff _).mpr alsoRefused]
  · have alsoUseful : ¬RefusesLink limits state (receivedLink now link) := refused
    refine (governance_alike (fun id => ?_) ?_ path).symm
    · simp only [consistentView]
      rw [findLink_stored reachable ambient refused,
        findLink_stored reachable ambient alsoUseful]
      by_cases same : id = link.id
      · rw [same, FiniteMap.find?_set_self]
        have samePlace : (state.links.set (receivedLink now link).id
            (receivedLink now link)).find? link.id = some (receivedLink now link) :=
          FiniteMap.find?_set_self _ _ _
        rw [samePlace]
        exact .some ⟨alike.1, alike.2, alike.3, alike.4, alike.5, alike.6⟩
      · have elsewhere : (state.links.set (receivedLink now link).id
            (receivedLink now link)).find? id = state.links.find? id :=
          FiniteMap.find?_set_of_ne _ _ same
        rw [FiniteMap.find?_set_of_ne _ _ same, elsewhere]
        cases state.links.find? id with
        | none => exact .none
        | some other => exact .some (.refl _)
    · simp only [consistentView]
      rw [measurementHistory_stored ambient refused,
        measurementHistory_stored ambient alsoUseful]
      exact List.forall₂_same.mpr fun _ _ => .refl _

/-- The path over nothing but the link. -/
def onlyPath (link : LinkRecord) : Path where
  id := ⟨1⟩
  source := link.source
  target := link.target
  direct := true
  switchTraversal := false
  elements := [.link link.id]
  hopCount := 1
  nvlinkSegments := 0

/-- The link loop over one link. -/
abbrev onlyScan (link : LinkRecord) : LinkScan :=
  LinkScan.visit { nvlinkSegments := 0 } link

theorem settled_onlyScan (link : LinkRecord) :
    (onlyScan link).settled = link.settles := by
  rw [LinkScan.settled_visit]
  rfl

/-- Where nothing was measured, a stored link alone decides how its path is
governed. -/
theorem governed_onlyPath (reachable : Reachable limits state) (ambient : Ambient)
    (useful : ¬RefusesLink limits state link)
    (unmeasured : state.measurementHistory = []) :
    (governed (Registry.step limits state ⟨.upsertLink link, ambient⟩)
      (onlyPath link)).outcome =
        qualityOutcome (onlyScan link) 1 false ∧
      (governed (Registry.step limits state ⟨.upsertLink link, ambient⟩)
        (onlyPath link)).evidenceClass = aggregateClass (onlyScan link) none ∧
      (governed (Registry.step limits state ⟨.upsertLink link, ambient⟩)
        (onlyPath link)).degradedLinks = (onlyScan link).degradedLinks := by
  have found := findLink_stored reachable ambient useful link.id
  rw [FiniteMap.find?_set_self, Option.map_some] at found
  have scanned : scanLinks (buildSnapshot
      (Registry.step limits state ⟨.upsertLink link, ambient⟩)) (onlyPath link) =
        onlyScan link := by
    simp only [scanLinks, onlyPath, List.foldl_cons, List.foldl_nil,
      LinkScan.element, found]
    rfl
  simp only [governed, consistentView, computeQuality, PathQuality.governance, scanned,
    measurementHistory_stored ambient useful, unmeasured]
  exact ⟨rfl, rfl, trivial⟩

/-- A link that is governed alike after the loss of its fields did not need them. -/
theorem carriedLink_of_onlyScan {now : Timestamp}
    (outcome : qualityOutcome (onlyScan (receivedLink now link)) 1 false =
      qualityOutcome (onlyScan link) 1 false)
    (evidenceClass : aggregateClass (onlyScan (receivedLink now link)) none =
      aggregateClass (onlyScan link) none)
    (degraded : (onlyScan (receivedLink now link)).degradedLinks =
      (onlyScan link).degradedLinks) : CarriedLink link := by
  have synthetic : link.evidence.evidenceClass = .synthetic := by
    cases found : link.evidence.evidenceClass with
    | synthetic => rfl
    | _ =>
        simp [aggregateClass, onlyScan, LinkScan.visit, receivedLink,
          found] at evidenceClass
  have flagged : link.degraded = true → link.state = .degraded := by
    intro flag
    by_contra sound
    simp [onlyScan, LinkScan.visit, receivedLink, flag, sound] at degraded
  refine ⟨synthetic, flagged, fun known => ?_⟩
  by_contra missed
  simp only [not_or, Bool.not_eq_true] at missed
  obtain ⟨zero, unsettled⟩ := missed
  have receivedUnsettled : (receivedLink now link).settles = false := by
    have same := isDegraded_receivedLink now flagged
    rw [LinkRecord.settles] at unsettled ⊢
    rw [same]
    exact unsettled
  rw [LinkScan.qualityOutcome_of_unsettled ((settled_onlyScan _).trans receivedUnsettled),
    LinkScan.qualityOutcome_of_unsettled
      ((settled_onlyScan _).trans unsettled)] at outcome
  have incapable : ¬link.capability.nominalBandwidthBps > 0 := zero
  simp [LinkScan.hasCapability_visit, LinkRecord.hasCapability, receivedLink, incapable,
    known] at outcome

/-- The two devices that a link connects. -/
def endpointCalls (link : LinkRecord) : List Call :=
  [⟨.upsertDevice { id := link.source, generation := ⟨1⟩ }, {}⟩,
    ⟨.upsertDevice { id := link.target, generation := ⟨1⟩ }, {}⟩]

/-- A registry that holds the two devices and nothing else. -/
def endpointsState (link : LinkRecord) : State :=
  Registry.run {} .initial (endpointCalls link)

theorem reachable_endpointsState (link : LinkRecord) :
    Reachable {} (endpointsState link) := ⟨_, rfl⟩

theorem endpointsState_eq (storable : ¬Unstorable link) :
    ∃ first second, endpointsState link =
      commit {} second { commit {} first { State.initial with
        devices := FiniteMap.empty.set link.source
          { id := link.source, generation := ⟨1⟩ } } with
        devices := (FiniteMap.empty.set link.source
          { id := link.source, generation := ⟨1⟩ }).set link.target
            { id := link.target, generation := ⟨1⟩ } } := by
  simp only [Unstorable, not_or, Bool.not_eq_true] at storable
  obtain ⟨-, -, distinct, sourceKnown, targetKnown⟩ := storable
  have firstUseful :
      ¬RefusesDevice {} .initial { id := link.source, generation := ⟨1⟩ } := by
    simp [RefusesDevice, sourceKnown, Generation.valid, State.initial]
  obtain ⟨first, firstStored⟩ := upsertDevice_of_not_refuses {} firstUseful
  have room : (FiniteMap.empty.set link.source
      ({ id := link.source, generation := ⟨1⟩ } : DeviceRecord)).size ≤ 1 := by
    rw [FiniteMap.set_of_find?_eq_none (FiniteMap.find?_empty _)]
    exact FiniteMap.size_emplace_le _ _ _
  have secondUseful : ¬RefusesDevice {} (commit {} first { State.initial with
      devices := FiniteMap.empty.set link.source { id := link.source,
                                                   generation := ⟨1⟩ } })
      { id := link.target, generation := ⟨1⟩ } := by
    simp only [RefusesDevice, targetKnown, Generation.valid, commit_devices,
      FiniteMap.find?_set_of_ne _ _ (Ne.symm distinct), FiniteMap.find?_empty]
    simp only [Bool.false_eq_true, false_or, not_or, not_le]
    exact ⟨by decide, by omega⟩
  obtain ⟨second, secondStored⟩ := upsertDevice_of_not_refuses {} secondUseful
  refine ⟨first, second, ?_⟩
  rw [endpointsState, endpointCalls, Registry.run, Transition.run_cons,
    Transition.run_cons, Transition.run_nil, step_of_apply_ok firstStored]
  exact step_of_apply_ok secondStored

/-- Any link that some registry stores is stored between its own two devices. -/
theorem not_refuses_endpointsState (storable : ¬Unstorable link) :
    ¬RefusesLink {} (endpointsState link) link ∧
      (endpointsState link).measurementHistory = [] := by
  obtain ⟨first, second, stateEq⟩ := endpointsState_eq storable
  simp only [Unstorable, not_or, Bool.not_eq_true] at storable
  obtain ⟨idKnown, valid, distinct, -, -⟩ := storable
  rw [stateEq]
  refine ⟨?_, rfl⟩
  simp only [RefusesLink, commit_devices, commit_links, State.initial,
    FiniteMap.mapValues_empty, FiniteMap.find?_set_self,
    FiniteMap.find?_set_of_ne _ _ distinct, FiniteMap.find?_empty, FiniteMap.size_empty,
    parallelCount, idKnown, valid, distinct]
  simp [FiniteMap.values]

/-- Publishing the link through the coordinator is governed like passing it to the
registry, whatever the registry holds. -/
def LinkEquivalent (link : LinkRecord) : Prop :=
  ∀ (limits : Limits) (state : State) (ambient : Ambient) (hello : Hello) (path : Path),
    Reachable limits state →
    governed (served limits ambient hello { type := .publishLink,
                                            payload := encLink link }
        state) path =
      governed (Registry.step limits state ⟨.upsertLink link, ambient⟩) path

theorem served_link (limits : Limits) (ambient : Ambient) (hello : Hello)
    (link : LinkRecord) (state : State) :
    served limits ambient hello { type := .publishLink, payload := encLink link } state =
      Registry.step limits state ⟨.upsertLink (receivedLink ambient.now link),
        ambient⟩ := by
  rw [served, publication_link]

theorem linkEquivalent_iff (link : LinkRecord) :
    LinkEquivalent link ↔ Unstorable link ∨ CarriedLink link := by
  constructor
  · intro equivalent
    by_cases unstorable : Unstorable link
    · exact .inl unstorable
    right
    obtain ⟨useful, unmeasured⟩ := not_refuses_endpointsState unstorable
    have reachable := reachable_endpointsState link
    have alsoUseful : ¬RefusesLink {} (endpointsState link) (receivedLink {} link) :=
      useful
    have same := equivalent {} _ {} { worker := ⟨1⟩, boot := ⟨1⟩, epoch := ⟨1⟩ }
      (onlyPath link) reachable
    rw [served_link] at same
    obtain ⟨outcome, evidenceClass, degraded⟩ :=
      governed_onlyPath reachable {} useful unmeasured
    obtain ⟨receivedOutcome, receivedClass, receivedDegraded⟩ :=
      governed_onlyPath reachable {} alsoUseful unmeasured
    have samePath : onlyPath (receivedLink {} link) = onlyPath link := rfl
    rw [samePath, same] at receivedOutcome receivedClass receivedDegraded
    exact carriedLink_of_onlyScan (receivedOutcome.symm.trans outcome)
      (receivedClass.symm.trans evidenceClass) (receivedDegraded.symm.trans degraded)
  · intro condition limits state ambient hello path reachable
    rw [served_link]
    rcases condition with unstorable | carried
    · have refused := refusesLink_of_unstorable reachable unstorable
      have alsoRefused :
          RefusesLink limits state (receivedLink ambient.now link) := refused
      rw [(step_upsertLink_eq_iff _).mpr refused,
        (step_upsertLink_eq_iff _).mpr alsoRefused]
    · exact governed_upsertLink reachable ambient _ (alike_receivedLink _ carried) path

/-! ## Measurements -/

/-- Publishing the measurement through the coordinator is governed like passing it to
the registry at the time of the measurement, whatever the registry holds. -/
def MeasurementEquivalent (measurement : MeasurementRecord) : Prop :=
  ∀ (limits : Limits) (state : State) (ambient : Ambient) (hello : Hello) (path : Path),
    Reachable limits state → ambient.now = measurement.measuredAt →
    governed (served limits ambient hello
        { type := .publishMeasurement, payload := encMeas measurement } state) path =
      governed (Registry.step limits state ⟨.publishMeasurement measurement,
        ambient⟩) path

/-- A measurement of which governance would not miss what the encoding leaves out. -/
def CarriedMeasurement (measurement : MeasurementRecord) : Prop :=
  measurement.valid = true → measurement.contended = false ∧
    measurement.latencySeconds = 0

/-- An integral bandwidth below 2^53 is received as it was sent. -/
theorem bandwidthWord_natCast {bandwidth : ℕ} (small : bandwidth ≤ 2 ^ 53) :
    (((bandwidthWord bandwidth).toNat : ℕ) : ℚ) = bandwidth := by
  rw [bandwidthWord, Int.floor_natCast, Int.toNat_natCast,
    UInt64.toNat_ofNat_of_lt' (show bandwidth < 2 ^ 64 by omega)]

/-- The record that the coordinator stores for a measurement. -/
def attributedMeas (now : Timestamp) (hello : Hello) (measurement : MeasurementRecord) :
    MeasurementRecord :=
  { receivedMeas now measurement with
    ownerWorker := hello.worker, ownerBoot := hello.boot }

theorem served_measurement (limits : Limits) (ambient : Ambient) (hello : Hello)
    (measurement : MeasurementRecord) (state : State) :
    served limits ambient hello
        { type := .publishMeasurement, payload := encMeas measurement } state =
      Registry.step limits state
        ⟨.publishMeasurement (attributedMeas ambient.now hello measurement),
          ambient⟩ := by
  rw [served, publication_measurement]
  rfl

/-- A measurement leaves the topology alone. -/
theorem governed_publishMeasurement (limits : Limits) (ambient : Ambient)
    (measurement : MeasurementRecord) (state : State) (path : Path) :
    governed (Registry.step limits state ⟨.publishMeasurement measurement,
      ambient⟩) path =
      (computeQuality (buildSnapshot state)
        (BoundedQueue.push limits.maxMeasurementHistory state.measurementHistory
          (storedMeasurement ambient measurement)) path).governance := rfl

theorem alike_attributedMeas (ambient : Ambient) (hello : Hello) {bandwidth : ℕ}
    (integral : measurement.bandwidthBps = bandwidth) (small : bandwidth ≤ 2 ^ 53)
    (now : ambient.now = measurement.measuredAt)
    (carried : CarriedMeasurement measurement) :
    (storedMeasurement ambient (attributedMeas ambient.now hello measurement)).Alike
      (storedMeasurement ambient measurement) := by
  refine ⟨rfl, fun valid => ?_⟩
  obtain ⟨uncontended, instant⟩ := carried valid
  have word := bandwidthWord_natCast small
  simp only [MeasurementRecord.readings, storedMeasurement, attributedMeas, receivedMeas,
    integral, word, now, uncontended, instant]

/-- The path between the ends of a measurement. -/
def measuredPath (measurement : MeasurementRecord) : Path where
  id := ⟨1⟩
  source := measurement.source
  target := measurement.target
  direct := true
  switchTraversal := false
  elements := []
  hopCount := 1
  nvlinkSegments := 0

/-- A valid measurement alone in the history is the one that is used. -/
theorem governed_measuredPath (ambient : Ambient) (valid : measurement.valid = true) :
    (governed (Registry.step {} .initial ⟨.publishMeasurement measurement, ambient⟩)
        (measuredPath measurement)).contended = measurement.contended ∧
      (governed (Registry.step {} .initial ⟨.publishMeasurement measurement, ambient⟩)
        (measuredPath measurement)).measuredLatencySeconds =
          some measurement.latencySeconds := by
  have pushed : BoundedQueue.push (1024 : Nat) []
      (storedMeasurement ambient measurement) =
      [storedMeasurement ambient measurement] := rfl
  have chosen : bestMeasurement [storedMeasurement ambient measurement]
      (measuredPath measurement) = some (storedMeasurement ambient measurement) := by
    simp [bestMeasurement, considerMeasurement, storedMeasurement, valid, measuredPath]
  rw [governed_publishMeasurement]
  simp only [State.initial, pushed, computeQuality, PathQuality.governance, chosen]
  exact ⟨rfl, rfl⟩

theorem measurementEquivalent_iff (measurement : MeasurementRecord) (bandwidth : ℕ)
    (integral : measurement.bandwidthBps = bandwidth) (small : bandwidth ≤ 2 ^ 53) :
    MeasurementEquivalent measurement ↔ CarriedMeasurement measurement := by
  constructor
  · intro equivalent valid
    have same := equivalent {} .initial { now := measurement.measuredAt }
      { worker := ⟨1⟩, boot := ⟨1⟩, epoch := ⟨1⟩ } (measuredPath measurement)
        (.refl _ _) rfl
    rw [served_measurement] at same
    obtain ⟨contended, latency⟩ :=
      governed_measuredPath { now := measurement.measuredAt } valid
    have receivedValid : (attributedMeas measurement.measuredAt
        { worker := ⟨1⟩, boot := ⟨1⟩, epoch := ⟨1⟩ } measurement).valid = true := valid
    obtain ⟨receivedContended, receivedLatency⟩ :=
      governed_measuredPath { now := measurement.measuredAt } receivedValid
    have samePath : measuredPath (attributedMeas measurement.measuredAt
        { worker := ⟨1⟩, boot := ⟨1⟩, epoch := ⟨1⟩ } measurement) =
          measuredPath measurement := rfl
    rw [samePath, same] at receivedContended receivedLatency
    exact ⟨contended.symm.trans receivedContended,
      Option.some.inj (latency.symm.trans receivedLatency)⟩
  · intro carried limits state ambient hello path reachable now
    rw [served_measurement, governed_publishMeasurement, governed_publishMeasurement]
    refine governance_alike (fun id => ?_)
      (push_alike _ _ (alike_attributedMeas ambient hello integral small now carried))
        path
    cases (buildSnapshot state).findLink id with
    | none => exact .none
    | some link => exact .some (.refl _)

/-- Remote publication is equivalent to local publication exactly for the records of
which governance would not miss what the encoding leaves out. -/
theorem remote_equivalent_iff_carried (link : LinkRecord)
    (measurement : MeasurementRecord) (bandwidth : ℕ)
    (integral : measurement.bandwidthBps = bandwidth) (small : bandwidth ≤ 2 ^ 53) :
    (LinkEquivalent link ↔ Unstorable link ∨ CarriedLink link) ∧
      (MeasurementEquivalent measurement ↔ CarriedMeasurement measurement) :=
  ⟨linkEquivalent_iff link,
    measurementEquivalent_iff measurement bandwidth integral small⟩

/-- The worker's own link is carried; its measurement loses its latency. -/
theorem worker_measurement_not_carried :
    LinkEquivalent (Worker.link ⟨1⟩ {}) ∧
      ¬MeasurementEquivalent (Worker.measurement ⟨1⟩) := by
  obtain ⟨links, measurements⟩ := remote_equivalent_iff_carried (Worker.link ⟨1⟩ {})
    (Worker.measurement ⟨1⟩) 380000000000 (by norm_num [Worker.measurement]) (by norm_num)
  refine ⟨links.mpr (.inr ⟨rfl, by decide, by decide⟩), fun equivalent => ?_⟩
  have lost := (measurements.mp equivalent rfl).2
  norm_num [Worker.measurement] at lost

/-- The latency of the worker's measurement is zero at the coordinator. -/
theorem worker_latency_lost :
    ¬((∀ link, LinkEquivalent link) ∧
      ∀ (measurement : MeasurementRecord) (bandwidth : ℕ),
        measurement.bandwidthBps = bandwidth → bandwidth ≤ 2 ^ 53 →
          MeasurementEquivalent measurement) := by
  intro ⟨_, equivalent⟩
  have same := equivalent (Worker.measurement ⟨1⟩) 380000000000
    (by norm_num [Worker.measurement]) (by norm_num) {} Worker.published {}
    { worker := ⟨1⟩, boot := ⟨1⟩, epoch := ⟨1⟩ } publishedPath
      ⟨Worker.publication ⟨1⟩, rfl⟩ rfl
  have latency := congrArg Governance.measuredLatencySeconds same
  exact absurd latency (by decide +kernel)

end NvlinkFabric.Coordinator

import NvlinkFabric.Route.Decision

/-!
# Evidence a decision refers to

`decide_route` looks up the observations of its devices in a second read of the
registry.  Calls that other threads make between the two reads can replace them:
the references are those of the decided state as long as none of these calls
records a new observation of a candidate device.
-/

namespace NvlinkFabric.Registry

open Transition

variable {limits : Limits} {ambient : Ambient} {state : State} {call : Call}

/-- The device and identity of the device observation a call appends to the log. -/
def recordsDevice (limits : Limits) (state : State) (call : Call) :
    Option (DeviceId × ObservationId) :=
  match call.operation with
  | .upsertDevice device =>
      if changesTopology limits state call
        then some (device.id, call.ambient.observationId)
      else none
  | .removeDevice device =>
      if accepted limits call state
        then some (device, call.ambient.observationId) else none
  | .publishObservation observation =>
      if observation.kind = Text.ofLiteral "device" then
        some (observation.source,
          if observation.id.isNil then call.ambient.observationId else observation.id)
      else none
  | _ => none

/-- What `collect_evidence` reads of an observation. -/
structure SameReference (left right : Observation) : Prop where
  id : left.id = right.id
  kind : left.kind = right.kind
  source : left.source = right.source

/-- Every entry of a log was in the log before the call, is not a device observation, or
is the one the call records. -/
def LogExplained (limits : Limits) (state : State) (call : Call)
    (log : List Observation) :
    Prop :=
  ∀ observation ∈ log,
    (∃ before ∈ state.observations, SameReference observation before) ∨
      observation.kind ≠ Text.ofLiteral "device" ∨
      recordsDevice limits state call = some (observation.source, observation.id)

theorem logExplained_same : LogExplained limits state call state.observations :=
  fun observation member => .inl ⟨observation, member, rfl, rfl, rfl⟩

/-- Pushing an observation that is explained. -/
theorem LogExplained.push {log : List Observation} {recorded : Observation}
    (explained : LogExplained limits state call log)
    (records : recorded.kind ≠ Text.ofLiteral "device" ∨
      recordsDevice limits state call = some (recorded.source, recorded.id)) :
    LogExplained limits state call
      (BoundedQueue.push limits.maxObservations log recorded) := by
  intro observation member
  rcases BoundedQueue.mem_of_mem_push member with old | rfl
  · exact explained observation old
  · exact .inr records

theorem LogExplained.pushDevice {log : List Observation} {device : DeviceId}
    (explained : LogExplained limits state call log)
    (observation : Recorded ambient (Text.ofLiteral "device") device)
    (records : recordsDevice limits state call = some (device, ambient.observationId)) :
    LogExplained limits state call
      (BoundedQueue.push limits.maxObservations log observation) := by
  apply explained.push
  rw [records, observation.2.1, observation.2.2.2]
  exact .inr rfl

theorem LogExplained.pushOther {log : List Observation} {kind : Text} {source : DeviceId}
    (explained : LogExplained limits state call log)
    (observation : Recorded ambient kind source)
    (other : kind ≠ Text.ofLiteral "device") :
    LogExplained limits state call
      (BoundedQueue.push limits.maxObservations log observation) := by
  apply explained.push
  rw [observation.2.2.1]
  exact .inl other

/-- What a call can leave in the log. -/
theorem logExplained_step (limits : Limits) (state : State) (call : Call) :
    LogExplained limits state call (step limits state call).observations := by
  cases result : apply limits call state with
  | error error =>
      rw [step_of_apply_error result]
      exact logExplained_same
  | ok next =>
      have isAccepted := accepted_of_ok result
      rw [step_of_apply_ok result]
      obtain ⟨operation, ambient⟩ := call
      cases operation with
      | upsertDevice device =>
          obtain ⟨-, -, ⟨-, rfl⟩ | ⟨absent, -, observation, rfl⟩ |
            ⟨current, found, newer, observation, rfl⟩⟩ := upsertDevice_ok result
          · exact logExplained_same
          · apply logExplained_same.pushDevice observation
            simp [recordsDevice, changesTopology, isAccepted, absent]
          · apply logExplained_same.pushDevice observation
            simp [recordsDevice, changesTopology, isAccepted, found, ne_of_lt newer]
      | removeDevice device =>
          obtain ⟨-, observation, rfl⟩ := removeDevice_ok result
          apply logExplained_same.pushDevice observation
          simp [recordsDevice, isAccepted]
      | upsertLink link =>
          obtain ⟨-, ⟨-, rfl⟩ | ⟨-, observation, rfl⟩ | ⟨current, -, -,
              observation, rfl⟩⟩ :=
            upsertLink_ok result
          · exact logExplained_same
          · exact logExplained_same.pushOther observation (by decide)
          · exact logExplained_same.pushOther observation (by decide)
      | removeLink link =>
          obtain ⟨current, -, observation, rfl⟩ := removeLink_ok result
          exact logExplained_same.pushOther observation (by decide)
      | updateLinkState link linkState evidence degraded note =>
          obtain ⟨current, -, observation, rfl⟩ := updateLinkState_ok result
          exact logExplained_same.pushOther observation (by decide)
      | updateDeviceHealth device health evidence =>
          obtain ⟨current, -, observation, rfl⟩ := updateDeviceHealth_ok result
          exact logExplained_same.pushOther observation (by decide)
      | advanceTopology evidence =>
          obtain rfl := Except.ok.inj result
          exact logExplained_same.pushOther (recorded _ _ _ _ _ _) (by decide)
      | publishObservation observation =>
          obtain rfl := Except.ok.inj result
          apply logExplained_same.push
          by_cases device : observation.kind = Text.ofLiteral "device"
          · simp [recordsDevice, device]
          · exact .inl device
      | publishMeasurement measurement =>
          obtain rfl := Except.ok.inj result
          exact logExplained_same
      | markDynamicEvidenceRevalidationRequired =>
          obtain rfl := Except.ok.inj result
          apply LogExplained.pushOther _ (recorded _ _ _ _ _ _) (by decide)
          intro observation member
          obtain ⟨before, old, rfl⟩ := List.mem_map.mp member
          exact .inl ⟨before, old, rfl, rfl, rfl⟩
      | restoreDurableState durable =>
          obtain ⟨-, devices, links, observation, -, -, rfl⟩ :=
            restoreDurableState_ok result
          intro listed member
          obtain rfl := List.mem_singleton.mp member
          have other : Text.ofLiteral "restore" ≠ Text.ofLiteral "device" := by decide
          exact .inr (.inl (observation.2.2.1.trans_ne other))

/-- Devices on the enumerated paths between two endpoints. -/
def candidateDevices (limits : Limits) (source target : DeviceId) (state : State) :
    List DeviceId :=
  (enumeratePathsImpl (buildSnapshot state) source target limits).flatMap Path.devices

/-- The call records no observation of one of the devices under a new identity. -/
def Undisturbed (limits : Limits) (known : List ObservationId) (devices : List DeviceId)
    (state : State) (call : Call) : Prop :=
  ∀ device id, recordsDevice limits state call = some (device, id) → device ∈ devices →
    id ∈ known

/-- The log holds only known observations of the devices. -/
def KnownOnly (known : List ObservationId) (devices : List DeviceId)
    (state : State) : Prop :=
  ∀ observation ∈ state.observations, observation.kind = Text.ofLiteral "device" →
    observation.source ∈ devices → observation.id ∈ known

theorem knownOnly_step {known : List ObservationId} {devices : List DeviceId}
    (state : State) (call : Call)
    (undisturbed : Undisturbed limits known devices state call)
    (holds : KnownOnly known devices state) :
    KnownOnly known devices (step limits state call) := by
  intro observation member device listed
  rcases logExplained_step limits state call observation member with
    ⟨before, old, same⟩ | other | recorded
  · rw [same.id]
    exact holds before old (same.kind.symm.trans device) (same.source ▸ listed)
  · exact absurd device other
  · exact undisturbed _ _ recorded listed

/-- The references of a decision are observations of devices on a candidate path. -/
theorem evidence_of_decision {source target : DeviceId} {policy : RoutePolicy}
    {observed : List Observation} {decision : RouteDecision}
    (decided : decideRouteWith limits ambient source target policy state observed =
      .ok decision) {id : ObservationId} (referenced : id ∈ decision.evidenceReferences) :
    ∃ observation ∈ observed, observation.id = id ∧
      observation.kind = Text.ofLiteral "device" ∧
      observation.source ∈ candidateDevices limits source target state := by
  cases decided_of_ok decided with
  | absent _ unselected | noPath _ _ _ unselected | rejected _ _ _ unselected =>
      rw [unselected.evidence] at referenced
      simp at referenced
  | selected _ best front _ _ evidence =>
      rw [evidence] at referenced
      obtain ⟨device, onPath, found⟩ := List.mem_filterMap.mp referenced
      obtain ⟨observation, newest, same⟩ := Option.map_eq_some_iff.mp found
      have matching := List.find?_some newest
      simp only [Bool.and_eq_true, decide_eq_true_eq] at matching
      refine ⟨observation, List.mem_reverse.mp (List.mem_of_find?_eq_some newest), same,
        matching.2, ?_⟩
      rw [matching.1]
      exact List.mem_flatMap.mpr ⟨best.path, (selectBest_spec front).1, onPath⟩

/-- If no call between the two reads records a new observation of a device on an
enumerated path, every reference of the decision is in the log of the state decided
on. -/
theorem evidence_from_decided_state {source target : DeviceId} {policy : RoutePolicy}
    {between : List Call} {decision : RouteDecision}
    (quiet : Along (step limits) (Undisturbed limits (state.observations.map (·.id))
      (candidateDevices limits source target state)) state between)
    (decided : decideRouteWith limits ambient source target policy state
      (run limits state between).observations = .ok decision) :
    ∀ id ∈ decision.evidenceReferences, ∃ observation ∈ state.observations,
      observation.id = id := by
  intro id referenced
  obtain ⟨observation, member, rfl, device, listed⟩ :=
    evidence_of_decision decided referenced
  have initially : KnownOnly (state.observations.map (·.id))
      (candidateDevices limits source target state) state :=
    fun observation old _ _ => List.mem_map_of_mem old
  exact List.mem_map.mp
    (invariant_along knownOnly_step initially quiet observation member device listed)

/-- The worker's topology, published under increasing observation identities. -/
def observedPublication : List Call :=
  [⟨.upsertDevice (Worker.sourceDevice ⟨1⟩), { observationId := ⟨1⟩ }⟩,
    ⟨.upsertDevice (Worker.targetDevice ⟨1⟩), { observationId := ⟨2⟩ }⟩,
    ⟨.upsertLink (Worker.link ⟨1⟩ {}), { observationId := ⟨3⟩ }⟩]

/-- The source device restarts between the two reads. -/
def sourceRestarts : List Call :=
  [⟨.upsertDevice (Worker.sourceDevice ⟨2⟩), { observationId := ⟨4⟩ }⟩]

/-- The decision then refers to an observation its state did not have. -/
theorem evidence_from_later_state :
    ¬∀ decision, decideRouteWith {} {} Worker.sourceId Worker.targetId .defaultPolicy
        (run {} .initial observedPublication)
        (run {} (run {} .initial observedPublication) sourceRestarts).observations =
          .ok decision →
      ∀ id ∈ decision.evidenceReferences,
        ∃ observation ∈ (run {} .initial observedPublication).observations,
          observation.id = id := by
  intro holds
  obtain ⟨decision, decided⟩ :=
    decideRouteWith_total {} {} Worker.sourceId Worker.targetId
    .defaultPolicy (run {} .initial observedPublication)
    (run {} (run {} .initial observedPublication) sourceRestarts).observations
  have referenced : (decideRouteWith {} {} Worker.sourceId Worker.targetId .defaultPolicy
      (run {} .initial observedPublication)
      (run {} (run {} .initial observedPublication)
        sourceRestarts).observations).toOption.map
        (·.evidenceReferences) = some [⟨4⟩, ⟨2⟩] := by decide +kernel
  have listed : decision.evidenceReferences = [⟨4⟩, ⟨2⟩] := by
    simpa [decided, Except.toOption] using referenced
  have unknown : ¬∃ observation ∈ (run {} .initial observedPublication).observations,
      observation.id = ⟨4⟩ := by decide
  exact unknown (holds decision decided ⟨4⟩ (listed ▸ List.mem_cons_self))

/-- A device that is on no path joins between the two reads. -/
def bystanderJoins : Call :=
  ⟨.upsertDevice { id := ⟨7⟩, generation := ⟨1⟩ }, { observationId := ⟨4⟩ }⟩

/-- The decision is not affected by it. -/
theorem evidence_beside_bystander :
    ∃ decision, decideRouteWith {} {} Worker.sourceId Worker.targetId .defaultPolicy
        (run {} .initial observedPublication)
        (run {} (run {} .initial observedPublication) [bystanderJoins]).observations =
          .ok decision ∧
      ∀ id ∈ decision.evidenceReferences,
        ∃ observation ∈ (run {} .initial observedPublication).observations,
          observation.id = id := by
  obtain ⟨decision, decided⟩ :=
    decideRouteWith_total {} {} Worker.sourceId Worker.targetId
    .defaultPolicy (run {} .initial observedPublication)
    (run {} (run {} .initial observedPublication) [bystanderJoins]).observations
  have elsewhere : (⟨7⟩ : DeviceId) ∉ candidateDevices {} Worker.sourceId Worker.targetId
      (run {} .initial observedPublication) := by decide +kernel
  have records : recordsDevice {} (run {} .initial observedPublication) bystanderJoins =
      some (⟨7⟩, ⟨4⟩) := by decide
  have quiet : Along (step {}) (Undisturbed {}
      ((run {} .initial observedPublication).observations.map (·.id))
      (candidateDevices {} Worker.sourceId Worker.targetId
        (run {} .initial observedPublication)))
      (run {} .initial observedPublication) [bystanderJoins] := by
    refine ⟨?_, trivial⟩
    intro device id recorded listed
    rw [records, Option.some.injEq, Prod.mk.injEq] at recorded
    exact absurd (recorded.1 ▸ listed) elsewhere
  exact ⟨decision, decided, evidence_from_decided_state quiet decided⟩

end NvlinkFabric.Registry

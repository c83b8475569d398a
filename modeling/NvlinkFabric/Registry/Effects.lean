import NvlinkFabric.Registry.Operations

/-!
# Effects of registry calls

One inversion lemma per mutation states everything a successful call can have
done.  `step_quiet` and `step_changes` summarise them: a call either leaves
the canonical topology alone, or ends in `advance` on a state whose generation
is the one `resumesFrom` gives.
-/

namespace NvlinkFabric.Registry

variable {limits : Limits} {ambient : Ambient} {state next : State} {call : Call}

@[simp] theorem advance_topologyGen (state : State) :
    (advance state).topologyGen = state.topologyGen.next := rfl

@[simp] theorem advance_devices (state : State) :
    (advance state).devices = state.devices := rfl

@[simp] theorem commit_devices (observation : Observation) (state : State) :
    (commit limits observation state).devices = state.devices := rfl

@[simp] theorem commit_measurementHistory (observation : Observation) (state : State) :
    (commit limits observation state).measurementHistory = state.measurementHistory := rfl

@[simp] theorem commit_links (observation : Observation) (state : State) :
    (commit limits observation state).links =
      state.links.mapValues (stamp state.topologyGen.next) := rfl

@[simp] theorem requireWorkerRevalidation_generation (device : DeviceRecord) :
    (requireWorkerRevalidation device).generation = device.generation := by
  unfold requireWorkerRevalidation
  split <;> rfl

/-- Generation of a stored device. -/
def generationOf (state : State) (id : DeviceId) : Option DeviceGeneration :=
  (state.devices.find? id).map (·.generation)

theorem find?_ne_none_of_generationOf {id : DeviceId}
    (stored : generationOf state id ≠ none) : state.devices.find? id ≠ none := by
  intro missing
  simp [generationOf, missing] at stored

/-- An observation that a call records under the identity it draws. -/
abbrev Recorded (ambient : Ambient) (kind : Text) (source : DeviceId) : Type :=
  { observation : Observation //
    observation.id = ambient.observationId ∧ observation.kind = kind ∧
      observation.source = source }

/-- `make_observation`, with what it is recorded under. -/
def recorded (ambient : Ambient) (kind : Text) (source target : DeviceId)
    (evidence : Evidence) (summary : Text) : Recorded ambient kind source :=
  ⟨makeObservation ambient kind source target evidence summary, rfl, rfl, rfl⟩

/-- A successful device upsert replays the stored record, inserts a new one
below the bound, or replaces an older one. -/
theorem upsertDevice_ok {device : DeviceRecord}
    (ok : upsertDevice limits ambient device state = .ok next) :
    device.id.value ≠ 0 ∧ device.generation.value ≠ 0 ∧
      ((state.devices.find? device.id = some device ∧ next = state) ∨
        (state.devices.find? device.id = none ∧
          state.devices.size < limits.maxDevices ∧
          ∃ observation : Recorded ambient "device" device.id,
          next = commit limits observation
            { state with devices := state.devices.emplace device.id device }) ∨
        ∃ current, state.devices.find? device.id = some current ∧
          current.generation < device.generation ∧
          ∃ observation : Recorded ambient "device" device.id,
          next = commit limits observation
            { state with devices := state.devices.assign device.id device }) := by
  obtain ⟨valid, ok⟩ := guarded_ok.mp ok
  simp only [Id.isNil, Generation.valid, Bool.or_eq_true, beq_iff_eq,
    Bool.not_eq_true', bne_eq_false_iff_eq, not_or] at valid
  refine ⟨valid.1, valid.2, ?_⟩
  cases found : state.devices.find? device.id with
  | none =>
      simp only [found] at ok
      obtain ⟨room, ok⟩ := guarded_ok.mp ok
      exact .inr (.inl ⟨rfl, by omega, recorded _ _ _ _ _ _, (Except.ok.inj ok).symm⟩)
  | some current =>
      simp only [found] at ok
      obtain ⟨notOlder, compared⟩ := guarded_ok.mp ok
      split at compared
      next same =>
        split at compared
        next equal =>
          obtain rfl : device = current := by simpa [deviceEqual] using equal
          exact .inl ⟨rfl, (Except.ok.inj compared).symm⟩
        · simp at compared
      next different =>
        have newer := lt_of_le_of_ne (not_lt.mp notOlder) (Ne.symm different)
        exact .inr (.inr ⟨current, rfl, newer, recorded _ _ _ _ _ _,
          (Except.ok.inj compared).symm⟩)

theorem removeDevice_ok {device : DeviceId}
    (ok : removeDevice limits ambient device state = .ok next) :
    (∃ current, state.devices.find? device = some current) ∧
      ∃ observation : Recorded ambient "device" device,
      next = commit limits observation
        { state with
          links := state.links.filter fun entry =>
            !(entry.2.source = device || entry.2.target = device)
          devices := state.devices.erase device } := by
  unfold removeDevice at ok
  split at ok
  · simp at ok
  next current found =>
    simp only [Except.ok.injEq] at ok
    exact ⟨⟨current, found⟩, recorded _ _ _ _ _ _, ok.symm⟩

/-- A successful link upsert has checked its endpoints and both bounds, and then
replays the stored record, inserts a new one, or replaces an older one. -/
theorem upsertLink_ok {link : LinkRecord}
    (ok : upsertLink limits ambient link state = .ok next) :
    (link.id.value ≠ 0 ∧ link.generation.value ≠ 0 ∧ link.source ≠ link.target ∧
      state.devices.find? link.source ≠ none ∧ state.devices.find? link.target ≠ none ∧
      state.links.size < limits.maxLinks ∧
      parallelCount link state.links < limits.maxParallelLinksPerPair) ∧
      ((state.links.find? link.id = some link ∧ next = state) ∨
        (state.links.find? link.id = none ∧
          ∃ observation : Recorded ambient "link" link.source,
          next = commit limits observation
            { state with links := state.links.emplace link.id link }) ∨
        ∃ current, state.links.find? link.id = some current ∧
          current.generation < link.generation ∧
          ∃ observation : Recorded ambient "link" link.source,
          next = commit limits observation
            { state with links := state.links.assign link.id link }) := by
  obtain ⟨valid, ok⟩ := guarded_ok.mp ok
  obtain ⟨ends, ok⟩ := guarded_ok.mp ok
  obtain ⟨sourceKnown, ok⟩ := guarded_ok.mp ok
  obtain ⟨targetKnown, ok⟩ := guarded_ok.mp ok
  obtain ⟨room, ok⟩ := guarded_ok.mp ok
  obtain ⟨parallel, ok⟩ := guarded_ok.mp ok
  simp only [Id.isNil, Generation.valid, Bool.or_eq_true, beq_iff_eq,
    Bool.not_eq_true', bne_eq_false_iff_eq, not_or] at valid
  refine ⟨⟨valid.1, valid.2, ends, sourceKnown, targetKnown, by omega, by omega⟩, ?_⟩
  cases found : state.links.find? link.id with
  | none =>
      simp only [found, Except.ok.injEq] at ok
      exact .inr (.inl ⟨rfl, recorded _ _ _ _ _ _, ok.symm⟩)
  | some current =>
      simp only [found] at ok
      obtain ⟨notOlder, compared⟩ := guarded_ok.mp ok
      split at compared
      next same =>
        split at compared
        next equal =>
          obtain rfl : link = current := by simpa [linkEqual] using equal
          exact .inl ⟨rfl, (Except.ok.inj compared).symm⟩
        · simp at compared
      next different =>
        have newer := lt_of_le_of_ne (not_lt.mp notOlder) (Ne.symm different)
        exact .inr (.inr ⟨current, rfl, newer, recorded _ _ _ _ _ _,
          (Except.ok.inj compared).symm⟩)

/-- A link between devices that have their full number of links is refused, even
if it is stored already. -/
theorem upsertLink_crowded {link : LinkRecord}
    (crowded : limits.maxParallelLinksPerPair ≤ parallelCount link state.links) :
    step limits state ⟨.upsertLink link, ambient⟩ = state := by
  cases result : apply limits ⟨.upsertLink link, ambient⟩ state with
  | error error => exact step_of_apply_error result
  | ok next =>
      obtain ⟨⟨-, -, -, -, -, -, sparse⟩, -⟩ := upsertLink_ok result
      omega

theorem removeLink_ok {link : LinkId}
    (ok : removeLink limits ambient link state = .ok next) :
    ∃ current, state.links.find? link = some current ∧
      ∃ observation : Recorded ambient "link" current.source,
      next = commit limits observation { state with
                                         links := state.links.erase link } := by
  unfold removeLink at ok
  split at ok
  · simp at ok
  next current found =>
    simp only [Except.ok.injEq] at ok
    exact ⟨current, found, recorded _ _ _ _ _ _, ok.symm⟩

theorem updateLinkState_ok {link : LinkId} {linkState : LinkOperationalState}
    {evidence : Evidence} {degraded : Bool} {note : Text}
    (ok : updateLinkState limits ambient link linkState evidence degraded note state =
      .ok next) :
    ∃ current, state.links.find? link = some current ∧
      ∃ observation : Recorded ambient "link_state" current.source,
      next = commit limits observation
        { state with
          links := state.links.assign link
            { current with
              state := linkState
              evidence := evidence
              degraded := degraded
              degradationNote := note
              generation := current.generation.next
              lastObservation := ambient.now } } := by
  unfold updateLinkState at ok
  split at ok
  · simp at ok
  next current found =>
    simp only [Except.ok.injEq] at ok
    exact ⟨current, found, recorded _ _ _ _ _ _, ok.symm⟩

theorem updateDeviceHealth_ok {device : DeviceId} {health : DeviceHealthState}
    {evidence : Evidence}
    (ok : updateDeviceHealth limits ambient device health evidence state = .ok next) :
    ∃ current, state.devices.find? device = some current ∧
      ∃ observation : Recorded ambient "device_health" device,
      next = commit limits observation
        { state with
          devices := state.devices.assign device
            { current with
              health := health
              evidence := evidence
              generation := current.generation.next } } := by
  unfold updateDeviceHealth at ok
  split at ok
  · simp at ok
  next current found =>
    simp only [Except.ok.injEq] at ok
    exact ⟨current, found, recorded _ _ _ _ _ _, ok.symm⟩

theorem restoreDevice_ok {devices result : FiniteMap DeviceId DeviceRecord}
    {device : DeviceRecord} (ok : restoreDevice limits devices device = .ok result) :
    devices.size < limits.maxDevices ∧ device.id.value ≠ 0 ∧ device.generation.value ≠ 0 ∧
      result = devices.emplace device.id device := by
  obtain ⟨room, ok⟩ := guarded_ok.mp ok
  obtain ⟨valid, ok⟩ := guarded_ok.mp ok
  simp only [Id.isNil, Generation.valid, Bool.or_eq_true, beq_iff_eq,
    Bool.not_eq_true', bne_eq_false_iff_eq, not_or] at valid
  exact ⟨by omega, valid.1, valid.2, (Except.ok.inj ok).symm⟩

theorem restoreLink_ok {devices : FiniteMap DeviceId DeviceRecord}
    {links result : FiniteMap LinkId LinkRecord} {link : LinkRecord}
    (ok : restoreLink limits devices links link = .ok result) :
    links.size < limits.maxLinks ∧ link.id.value ≠ 0 ∧ link.generation.value ≠ 0 ∧
      link.source ≠ link.target ∧ devices.find? link.source ≠ none ∧
      devices.find? link.target ≠ none ∧
      result = links.emplace link.id
        (requireLinkRevalidation "revalidation required after durable-state restore"
          link) := by
  obtain ⟨room, ok⟩ := guarded_ok.mp ok
  obtain ⟨valid, ok⟩ := guarded_ok.mp ok
  obtain ⟨known, ok⟩ := guarded_ok.mp ok
  simp only [Id.isNil, Generation.valid, Bool.or_eq_true, beq_iff_eq, decide_eq_true_eq,
    Bool.not_eq_true', bne_eq_false_iff_eq, not_or] at valid known
  exact ⟨by omega, valid.1.1, valid.1.2, valid.2, known.1, known.2,
    (Except.ok.inj ok).symm⟩

/-- A successful restore has accepted every record and resumes from the larger
of the two generations. -/
theorem restoreDurableState_ok {durable : DurableState}
    (ok : restoreDurableState limits ambient durable state = .ok next) :
    durable.formatVersion = durableFormatVersion ∧
      ∃ devices links, ∃ observation : Recorded ambient "restore" .nil,
      durable.devices.foldlM (restoreDevice limits) FiniteMap.empty = .ok devices ∧
      durable.links.foldlM (restoreLink limits devices) FiniteMap.empty = .ok links ∧
      next = advance
        { topologyGen :=
            if durable.topologyGeneration > state.topologyGen then
              durable.topologyGeneration
            else state.topologyGen
          devices := devices.mapValues requireOwnedRevalidation
          links := links
          measurementHistory := []
          observations := [observation] } := by
  obtain ⟨version, ok⟩ := guarded_ok.mp ok
  obtain ⟨devices, devicesOk, ok⟩ := bind_ok.mp ok
  obtain ⟨links, linksOk, ok⟩ := bind_ok.mp ok
  exact ⟨not_not.mp version, devices, links, recorded _ _ _ _ _ _, devicesOk, linksOk,
    (Except.ok.inj ok).symm⟩

/-! ## Tables that an operation leaves alone -/

/-- Operations that may change the device table. -/
def Operation.writesDevices : Operation → Bool
  | .upsertDevice _ | .removeDevice _ | .updateDeviceHealth _ _ _
  | .markDynamicEvidenceRevalidationRequired | .restoreDurableState _ => true
  | _ => false

/-- Operations that may change more of the link table than its stamps. -/
def Operation.writesLinks : Operation → Bool
  | .removeDevice _ | .upsertLink _ | .removeLink _ | .updateLinkState _ _ _ _ _
  | .markDynamicEvidenceRevalidationRequired | .restoreDurableState _ => true
  | _ => false

theorem devices_of_ok (silent : call.operation.writesDevices = false)
    (ok : apply limits call state = .ok next) : next.devices = state.devices := by
  obtain ⟨operation, ambient⟩ := call
  cases operation with
  | upsertLink link =>
      obtain ⟨-, ⟨-, rfl⟩ | ⟨-, observation, rfl⟩ | ⟨current, -, -, observation, rfl⟩⟩ :=
        upsertLink_ok ok <;> rfl
  | removeLink link =>
      obtain ⟨current, -, observation, rfl⟩ := removeLink_ok ok
      rfl
  | updateLinkState link linkState evidence degraded note =>
      obtain ⟨current, -, observation, rfl⟩ := updateLinkState_ok ok
      rfl
  | advanceTopology evidence | publishObservation observation
  | publishMeasurement measurement =>
      obtain rfl := Except.ok.inj ok
      rfl
  | _ => simp [Operation.writesDevices] at silent

theorem links_of_ok (silent : call.operation.writesLinks = false)
    (ok : apply limits call state = .ok next) :
    next.links = state.links ∨
      ∃ generation, next.links = state.links.mapValues (stamp generation) := by
  obtain ⟨operation, ambient⟩ := call
  cases operation with
  | upsertDevice device =>
      obtain ⟨-, -, ⟨-, rfl⟩ | ⟨-, -, observation, rfl⟩ | ⟨current, -, -,
          observation, rfl⟩⟩ :=
        upsertDevice_ok ok
      · exact .inl rfl
      · exact .inr ⟨_, rfl⟩
      · exact .inr ⟨_, rfl⟩
  | updateDeviceHealth device health evidence =>
      obtain ⟨current, -, observation, rfl⟩ := updateDeviceHealth_ok ok
      exact .inr ⟨_, rfl⟩
  | advanceTopology evidence =>
      obtain rfl := Except.ok.inj ok
      exact .inr ⟨_, rfl⟩
  | publishObservation observation | publishMeasurement measurement =>
      obtain rfl := Except.ok.inj ok
      exact .inl rfl
  | _ => simp [Operation.writesLinks] at silent

/-- A call changes the canonical topology when it is accepted, is neither of the
publications, and is not an upsert that replays the stored generation. -/
def changesTopology (limits : Limits) (state : State) (call : Call) : Bool :=
  accepted limits call state &&
    match call.operation with
    | .upsertDevice device =>
        (state.devices.find? device.id).all (·.generation ≠ device.generation)
    | .upsertLink link =>
        (state.links.find? link.id).all (·.generation ≠ link.generation)
    | .publishObservation _ | .publishMeasurement _ => false
    | _ => true

/-- A call that does not change the topology keeps the generation and both
tables: it failed, replayed a stored record, or appended to a log. -/
theorem step_quiet (quiet : changesTopology limits state call = false) :
    (step limits state call).topologyGen = state.topologyGen ∧
      (step limits state call).devices = state.devices ∧
      (step limits state call).links = state.links := by
  cases result : apply limits call state with
  | error error => simp [step_of_apply_error result]
  | ok next =>
      rw [step_of_apply_ok result]
      obtain ⟨operation, ambient⟩ := call
      cases operation with
      | upsertDevice device =>
          obtain ⟨-, -, ⟨-, rfl⟩ | ⟨fresh, -⟩ | ⟨current, found, newer, -⟩⟩ :=
            upsertDevice_ok result
          · simp
          · simp [changesTopology, accepted_of_ok result, fresh] at quiet
          · simp only [changesTopology, accepted_of_ok result, found, Option.all_some,
              Bool.true_and, decide_eq_false_iff_not, not_not] at quiet
            exact absurd quiet (ne_of_lt newer)
      | upsertLink link =>
          obtain ⟨-, ⟨-, rfl⟩ | ⟨fresh, -⟩ | ⟨current, found, newer, -⟩⟩ :=
            upsertLink_ok result
          · simp
          · simp [changesTopology, accepted_of_ok result, fresh] at quiet
          · simp only [changesTopology, accepted_of_ok result, found, Option.all_some,
              Bool.true_and, decide_eq_false_iff_not, not_not] at quiet
            exact absurd quiet (ne_of_lt newer)
      | publishObservation observation | publishMeasurement measurement =>
          simp only [apply, publishObservation, publishMeasurement,
            Except.ok.injEq] at result
          subst result
          exact ⟨rfl, rfl, rfl⟩
      | _ => simp [changesTopology, accepted_of_ok result] at quiet

/-- The generation an operation advances from, if it advances at all: a restore
takes the larger of the durable and the current one. -/
def resumesFrom (state : State) : Operation → TopologyGeneration
  | .restoreDurableState durable =>
      if durable.topologyGeneration > state.topologyGen then durable.topologyGeneration
      else state.topologyGen
  | _ => state.topologyGen

theorem le_resumesFrom (state : State) (operation : Operation) :
    state.topologyGen ≤ resumesFrom state operation := by
  cases operation with
  | restoreDurableState durable =>
      simp only [resumesFrom]
      split
      next newer => exact le_of_lt newer
      next _ => exact le_refl _
  | _ => exact le_refl _

/-- A call that changes the topology ends in `advance`. -/
theorem step_changes (changes : changesTopology limits state call = true) :
    ∃ base : State, step limits state call = advance base ∧
      base.topologyGen = resumesFrom state call.operation := by
  cases result : apply limits call state with
  | error error =>
      simp [changesTopology, accepted_of_error result] at changes
  | ok next =>
      rw [step_of_apply_ok result]
      obtain ⟨operation, ambient⟩ := call
      cases operation with
      | upsertDevice device =>
          obtain ⟨-, -, ⟨found, -⟩ | ⟨-, -, observation, rfl⟩ | ⟨-, -, -,
              observation, rfl⟩⟩ :=
            upsertDevice_ok result
          · simp [changesTopology, found] at changes
          · exact ⟨_, rfl, rfl⟩
          · exact ⟨_, rfl, rfl⟩
      | upsertLink link =>
          obtain ⟨-, ⟨found, -⟩ | ⟨-, observation, rfl⟩ | ⟨-, -, -, observation, rfl⟩⟩ :=
            upsertLink_ok result
          · simp [changesTopology, found] at changes
          · exact ⟨_, rfl, rfl⟩
          · exact ⟨_, rfl, rfl⟩
      | removeDevice device =>
          obtain ⟨-, observation, rfl⟩ := removeDevice_ok result
          exact ⟨_, rfl, rfl⟩
      | removeLink link =>
          obtain ⟨current, -, observation, rfl⟩ := removeLink_ok result
          exact ⟨_, rfl, rfl⟩
      | updateLinkState link linkState evidence degraded note =>
          obtain ⟨current, -, observation, rfl⟩ := updateLinkState_ok result
          exact ⟨_, rfl, rfl⟩
      | updateDeviceHealth device health evidence =>
          obtain ⟨current, -, observation, rfl⟩ := updateDeviceHealth_ok result
          exact ⟨_, rfl, rfl⟩
      | restoreDurableState durable =>
          obtain ⟨-, devices, links, observation, -, -, rfl⟩ :=
            restoreDurableState_ok result
          exact ⟨_, rfl, rfl⟩
      | advanceTopology evidence | markDynamicEvidenceRevalidationRequired =>
          simp only [apply, advanceTopology, Except.ok.injEq] at result
          subst result
          exact ⟨_, rfl, rfl⟩
      | publishObservation observation | publishMeasurement measurement =>
          simp [changesTopology] at changes

end NvlinkFabric.Registry

import NvlinkFabric.Registry.Effects

/-!
# Records the registry has no use for

An upsert either commits, which moves the topology generation, or leaves the
registry as it was: it is refused, or it replays the stored record.  A record that
changes nothing can be told from its fields and the tables alone.  A measurement
is always appended; it changes nothing only where it displaces an equal one.
-/

namespace NvlinkFabric

theorem Generation.next_ne {tag : Tag} (generation : Generation tag) :
    generation.next ≠ generation := by
  intro same
  have wrapped := toNat_next generation
  have bound := generation.value.toNat_lt
  rw [same] at wrapped
  omega

namespace Registry

variable {limits : Limits} {ambient : Ambient} {state : State}

/-- A commit does not return to the generation it started from. -/
theorem topologyGen_ne_of_commit {base : State} {observation : Observation}
    (committed : commit limits observation base = state) :
    base.topologyGen ≠ state.topologyGen := by
  intro generation
  have moved := congrArg State.topologyGen committed
  exact Generation.next_ne base.topologyGen (moved.trans generation.symm)

/-- An invalid device, a new one beyond the bound, or one that is not newer than the
stored record. -/
def RefusesDevice (limits : Limits) (state : State) (device : DeviceRecord) : Prop :=
  device.id.isNil = true ∨ device.generation.valid = false ∨
    match state.devices.find? device.id with
    | none => limits.maxDevices ≤ state.devices.size
    | some current => device.generation ≤ current.generation

/-- A device that is not refused is committed. -/
theorem upsertDevice_of_not_refuses (ambient : Ambient) {device : DeviceRecord}
    (useful : ¬RefusesDevice limits state device) :
    ∃ observation, apply limits ⟨.upsertDevice device, ambient⟩ state =
      .ok (commit limits observation
        { state with devices := state.devices.set device.id device }) := by
  simp only [RefusesDevice, not_or, Bool.not_eq_true, Bool.not_eq_false] at useful
  obtain ⟨nonNil, valid, newer⟩ := useful
  simp only [apply, upsertDevice]
  rw [if_neg (by simp [nonNil, valid])]
  cases found : state.devices.find? device.id with
  | none =>
      simp only [found, not_le] at newer
      simp only
      rw [if_neg (by omega), FiniteMap.set_of_find?_eq_none found]
      exact ⟨_, rfl⟩
  | some current =>
      simp only [found, not_le] at newer
      simp only
      rw [if_neg (lt_asymm newer), if_neg (ne_of_gt newer),
        FiniteMap.set_of_find?_eq_some found]
      exact ⟨_, rfl⟩

/-- A valid device of a new generation is stored while the bound leaves room. -/
theorem upsertDevice_newer (ambient : Ambient) {device : DeviceRecord}
    (nonNil : device.id.value ≠ 0) (valid : device.generation.value ≠ 0)
    (room : state.devices.size < limits.maxDevices)
    (newer : ∀ generation ∈ generationOf state device.id,
      generation < device.generation) :
    ∃ observation, apply limits ⟨.upsertDevice device, ambient⟩ state =
      .ok (commit limits observation
        { state with devices := state.devices.set device.id device }) := by
  apply upsertDevice_of_not_refuses
  rintro (nil | invalid | kept)
  · exact nonNil (by simpa [Id.isNil] using nil)
  · exact valid (by simpa [Generation.valid] using invalid)
  · cases found : state.devices.find? device.id with
    | none =>
        simp only [found] at kept
        omega
    | some current =>
        have older := newer current.generation (by simp [generationOf, found])
        simp only [found] at kept
        exact not_lt_of_ge kept older

theorem step_upsertDevice_eq_iff (device : DeviceRecord) :
    step limits state ⟨.upsertDevice device, ambient⟩ = state ↔
      RefusesDevice limits state device := by
  constructor
  · intro same
    by_contra useful
    obtain ⟨observation, stored⟩ := upsertDevice_of_not_refuses ambient useful
    rw [step_of_apply_ok stored] at same
    exact topologyGen_ne_of_commit same rfl
  · intro refused
    cases result : apply limits ⟨.upsertDevice device, ambient⟩ state with
    | error error => exact step_of_apply_error result
    | ok next =>
        rw [step_of_apply_ok result]
        obtain ⟨nonNil, valid,
            ⟨-, same⟩ | ⟨fresh, room, -⟩ | ⟨current, found, newer, -⟩⟩ :=
          upsertDevice_ok result
        · exact same
        · simp only [RefusesDevice, Id.isNil, nonNil, Generation.valid, valid, fresh,
            beq_iff_eq, bne_eq_false_iff_eq, false_or] at refused
          omega
        · simp only [RefusesDevice, Id.isNil, nonNil, Generation.valid, valid, found,
            beq_iff_eq, bne_eq_false_iff_eq, false_or] at refused
          exact absurd newer (not_lt_of_ge refused)

/-- An invalid link, one without known and distinct ends, any link while a bound is
reached, or one that is not newer than the stored record. -/
def RefusesLink (limits : Limits) (state : State) (link : LinkRecord) : Prop :=
  link.id.isNil = true ∨ link.generation.valid = false ∨ link.source = link.target ∨
    state.devices.find? link.source = none ∨ state.devices.find? link.target = none ∨
    limits.maxLinks ≤ state.links.size ∨
    limits.maxParallelLinksPerPair ≤ parallelCount link state.links ∨
    ∃ current, state.links.find? link.id = some current ∧
      link.generation ≤ current.generation

/-- A link that is not refused is committed. -/
theorem upsertLink_of_not_refuses (ambient : Ambient) {link : LinkRecord}
    (useful : ¬RefusesLink limits state link) :
    ∃ observation, apply limits ⟨.upsertLink link, ambient⟩ state =
      .ok (commit limits observation
        { state with links := state.links.set link.id link }) := by
  simp only [RefusesLink, not_or, Bool.not_eq_true, Bool.not_eq_false,
    not_exists, not_and, not_le] at useful
  obtain ⟨nonNil, valid, ends, source, target, room, parallel, newer⟩ := useful
  simp only [apply, upsertLink]
  rw [if_neg (by simp [nonNil, valid]), if_neg ends, if_neg source, if_neg target,
    if_neg (by omega), if_neg (by omega)]
  cases found : state.links.find? link.id with
  | none =>
      simp only
      rw [FiniteMap.set_of_find?_eq_none found]
      exact ⟨_, rfl⟩
  | some current =>
      have later := newer current found
      simp only
      rw [if_neg (lt_asymm later), if_neg (ne_of_gt later),
        FiniteMap.set_of_find?_eq_some found]
      exact ⟨_, rfl⟩

/-- A valid link under a fresh identity is stored while both bounds leave room. -/
theorem upsertLink_fresh (ambient : Ambient) (link : LinkRecord)
    (nonNil : link.id.value ≠ 0) (valid : link.generation.value ≠ 0)
    (ends : link.source ≠ link.target) (source : state.devices.find? link.source ≠ none)
    (target : state.devices.find? link.target ≠ none)
    (room : state.links.size < limits.maxLinks)
    (parallel : parallelCount link state.links < limits.maxParallelLinksPerPair)
    (absent : state.links.find? link.id = none) :
    ∃ observation, apply limits ⟨.upsertLink link, ambient⟩ state =
      .ok (commit limits observation
        { state with links := state.links.emplace link.id link }) := by
  rw [← FiniteMap.set_of_find?_eq_none absent]
  apply upsertLink_of_not_refuses
  rintro (nil | invalid | loop | noSource | noTarget | full | crowded
    | ⟨current, found, -⟩)
  · exact nonNil (by simpa [Id.isNil] using nil)
  · exact valid (by simpa [Generation.valid] using invalid)
  · exact ends loop
  · exact source noSource
  · exact target noTarget
  · omega
  · omega
  · simp [absent] at found

theorem step_upsertLink_eq_iff (link : LinkRecord) :
    step limits state ⟨.upsertLink link, ambient⟩ = state ↔
      RefusesLink limits state link := by
  constructor
  · intro same
    by_contra useful
    obtain ⟨observation, stored⟩ := upsertLink_of_not_refuses ambient useful
    rw [step_of_apply_ok stored] at same
    exact topologyGen_ne_of_commit same rfl
  · intro refused
    cases result : apply limits ⟨.upsertLink link, ambient⟩ state with
    | error error => exact step_of_apply_error result
    | ok next =>
        rw [step_of_apply_ok result]
        obtain ⟨⟨nonNil, valid, ends, source, target, room, parallel⟩, effect⟩ :=
          upsertLink_ok result
        simp only [RefusesLink, Id.isNil, nonNil, Generation.valid, valid, ends,
          source, target, beq_iff_eq, bne_eq_false_iff_eq, Nat.not_le.mpr room,
          Nat.not_le.mpr parallel,
          false_or] at refused
        obtain ⟨stored, lookup, notNewer⟩ := refused
        rcases effect with ⟨-, same⟩ | ⟨fresh, -⟩ | ⟨current, found, newer, -⟩
        · exact same
        · simp [fresh] at lookup
        · obtain rfl : stored = current := Option.some.inj (lookup.symm.trans found)
          exact absurd newer (not_lt_of_ge notNewer)

/-- The record that a measurement is stored as. -/
def storedMeasurement (ambient : Ambient) (measurement : MeasurementRecord) :
    MeasurementRecord :=
  { measurement with
    id := if measurement.id.isNil then ambient.measurementId else measurement.id
    stale := false
    revalidationRequired := false }

theorem step_publishMeasurement_eq_iff (measurement : MeasurementRecord) :
    step limits state ⟨.publishMeasurement measurement, ambient⟩ = state ↔
      limits.maxMeasurementHistory ≤ state.measurementHistory.length ∧
        ∀ entry ∈ state.measurementHistory,
          entry = storedMeasurement ambient measurement := by
  rw [← BoundedQueue.push_eq_self_iff]
  constructor
  · intro same
    exact congrArg State.measurementHistory same
  · intro same
    simp only [step, apply, publishMeasurement]
    rw [storedMeasurement] at same
    rw [same]

/-- The registry has no use for a publication: it refuses the device or the link, or
its history is full of the measurement. -/
def HasNoUseFor (limits : Limits) (state : State) (call : Call) : Prop :=
  match call.operation with
  | .upsertDevice device => RefusesDevice limits state device
  | .upsertLink link => RefusesLink limits state link
  | .publishMeasurement measurement =>
      limits.maxMeasurementHistory ≤ state.measurementHistory.length ∧
        ∀ entry ∈ state.measurementHistory,
          entry = storedMeasurement call.ambient measurement
  | _ => False

end Registry

end NvlinkFabric

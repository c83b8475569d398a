import NvlinkFabric.Registry.Invariant
import NvlinkFabric.Registry.Refusals

/-!
# Records that are submitted again

A record is recognised by comparing it with the stored one.  The comparison of devices
reads what the registry stores unchanged; the comparison of links also reads the stamp
that the registry writes, and both it and an update of a stored link are reached only
after the checks of the bounds on the number of links.
-/

namespace NvlinkFabric.Registry

variable {limits : Limits} {ambient : Ambient} {state next : State} {link : LinkRecord}

/-- A device that was accepted is recognised. -/
theorem resubmitDevice {device : DeviceRecord}
    (accepted : apply limits ⟨.upsertDevice device, ambient⟩ state = .ok next)
    (again : Ambient) : apply limits ⟨.upsertDevice device, again⟩ next = .ok next := by
  obtain ⟨nonNil, valid, effect⟩ := upsertDevice_ok accepted
  have stored : next.devices.find? device.id = some device := by
    rcases effect with ⟨found, rfl⟩ | ⟨fresh, -, observation, rfl⟩ | ⟨current,
        found, -, -, rfl⟩
    · exact found
    · rw [commit_devices, ← FiniteMap.set_of_find?_eq_none fresh,
        FiniteMap.find?_set_self]
    · rw [commit_devices, ← FiniteMap.set_of_find?_eq_some found,
        FiniteMap.find?_set_self]
  simp [apply, upsertDevice, Id.isNil, nonNil, Generation.valid, valid,
    stored, deviceEqual]

/-- What an accepted link leaves behind: the registry it found, or its record stamped with
the next generation. -/
theorem upsertLink_stores
    (accepted : apply limits ⟨.upsertLink link, ambient⟩ state = .ok next) :
    (state.links.find? link.id = some link ∧ next = state) ∨
      (∀ current, state.links.find? link.id = some current →
        current.generation < link.generation) ∧
      next.devices = state.devices ∧
      next.links = (state.links.set link.id link).mapValues
        (stamp state.topologyGen.next) := by
  obtain ⟨-, ⟨found, rfl⟩ | ⟨fresh, observation, rfl⟩ | ⟨current, found,
      newer, -, rfl⟩⟩ :=
    upsertLink_ok accepted
  · exact .inl ⟨found, rfl⟩
  · refine .inr ⟨fun other stored => by simp [fresh] at stored, by simp, ?_⟩
    rw [commit_links, FiniteMap.set_of_find?_eq_none fresh]
  · refine .inr ⟨fun other stored => ?_, by simp, ?_⟩
    · obtain rfl := Option.some.inj (found.symm.trans stored)
      exact newer
    · rw [commit_links, FiniteMap.set_of_find?_eq_some found]

theorem parallelCount_stamp (links : FiniteMap LinkId LinkRecord)
    (generation : TopologyGeneration) :
    parallelCount link (links.mapValues (stamp generation)) =
      parallelCount link links := by
  simp [parallelCount, FiniteMap.values, FiniteMap.mapValues, List.countP_map,
    Function.comp_def, sameUnordered, stamp]

/-- A stored generation is recognised within the bounds, if the records are equal. -/
theorem upsertLink_same_iff {current : LinkRecord} (nonNil : link.id.value ≠ 0)
    (valid : link.generation.value ≠ 0) (ends : link.source ≠ link.target)
    (source : state.devices.find? link.source ≠ none)
    (target : state.devices.find? link.target ≠ none)
    (stored : state.links.find? link.id = some current)
    (same : link.generation = current.generation) (ambient : Ambient) :
    apply limits ⟨.upsertLink link, ambient⟩ state = .ok state ↔
      link = current ∧ state.links.size < limits.maxLinks ∧
        parallelCount link state.links < limits.maxParallelLinksPerPair := by
  simp only [apply, upsertLink]
  rw [if_neg (by simp [Id.isNil, nonNil, Generation.valid, valid]), if_neg ends,
    if_neg source, if_neg target]
  split
  next full => simp [err, Nat.not_lt.mpr full]
  next room =>
    split
    next crowded => simp [err, Nat.not_lt.mpr crowded]
    next parallel =>
      simp only [stored, same, lt_irrefl, if_false, if_true, linkEqual]
      by_cases equal : link = current
      · subst equal
        simp [Nat.not_le.mp room, Nat.not_le.mp parallel]
      · simp [equal, err]

/-- The conditions under which a link that is submitted again is recognised: it is stored
as it is, or it carries the stamp it is about to get and leaves room within the bounds. -/
def Recognised (limits : Limits) (state : State) (link : LinkRecord) : Prop :=
  state.links.find? link.id = some link ∨
    link.topologyGeneration = state.topologyGen.next ∧
      (state.links.set link.id link).size < limits.maxLinks ∧
      parallelCount link (state.links.set link.id link) < limits.maxParallelLinksPerPair

/-- Submitting an accepted link again is accepted without effect exactly if the link was
recognisable before. -/
theorem resubmitLink_iff
    (accepted : apply limits ⟨.upsertLink link, ambient⟩ state = .ok next)
    (again : Ambient) :
    apply limits ⟨.upsertLink link, again⟩ next = .ok next ↔
      Recognised limits state link := by
  obtain ⟨⟨nonNil, valid, ends, source, target, room, parallel⟩, -⟩ :=
    upsertLink_ok accepted
  rcases upsertLink_stores accepted with ⟨found, rfl⟩ | ⟨newer, devices, links⟩
  · rw [upsertLink_same_iff nonNil valid ends source target found rfl]
    simp [Recognised, found, room, parallel]
  · have stored : next.links.find? link.id =
      some (stamp state.topologyGen.next link) := by
      rw [links, FiniteMap.find?_mapValues, FiniteMap.find?_set_self, Option.map_some]
    have unstored : state.links.find? link.id ≠ some link := fun found =>
      lt_irrefl _ (newer link found)
    have stamped : link = stamp state.topologyGen.next link ↔
        link.topologyGeneration = state.topologyGen.next := by
      constructor
      · intro same
        rw [same]
        rfl
      · intro same
        rw [stamp, ← same]
    rw [upsertLink_same_iff nonNil valid ends (devices ▸ source)
      (devices ▸ target) stored rfl,
      stamped, links, FiniteMap.size_mapValues, parallelCount_stamp]
    simp [Recognised, unstored]

/-- Devices are always recognised when they are submitted again, links under the
conditions on the registry they were first submitted to. -/
theorem resubmit_iff (limits : Limits) (state : State) :
    (∀ (device : DeviceRecord) (first again : Ambient) (next : State),
      apply limits ⟨.upsertDevice device, first⟩ state = .ok next →
      apply limits ⟨.upsertDevice device, again⟩ next = .ok next) ∧
    ∀ (link : LinkRecord) (first again : Ambient) (next : State),
      apply limits ⟨.upsertLink link, first⟩ state = .ok next →
      (apply limits ⟨.upsertLink link, again⟩ next = .ok next ↔
        Recognised limits state link) := by
  constructor
  · intro device first again next accepted
    exact resubmitDevice accepted again
  · intro link first again next accepted
    exact resubmitLink_iff accepted again

/-- An update of a stored link between the same devices is accepted, and replaces the
record, exactly if the registry and the pair have room for one more link. -/
theorem updateLink_iff (reachable : Reachable limits state) {current : LinkRecord}
    (stored : state.links.find? link.id = some current)
    (pair : sameUnordered link current = true)
    (newer : current.generation < link.generation) (ambient : Ambient) :
    (∃ next, apply limits ⟨.upsertLink link, ambient⟩ state = .ok next ∧
      next.links.find? link.id = some (stamp next.topologyGen link) ∧
      next.links.size = state.links.size) ↔
      state.links.size < limits.maxLinks ∧
        parallelCount link state.links < limits.maxParallelLinksPerPair := by
  constructor
  · rintro ⟨next, accepted, -⟩
    exact (upsertLink_ok accepted).1.2.2.2.2.2
  · rintro ⟨room, parallel⟩
    have member := FiniteMap.find?_eq_some.mp stored
    have tables := (consistent_of_reachable reachable).tables
    obtain ⟨distinct, source, target⟩ := tables.link_ends member
    simp only [sameUnordered, Bool.or_eq_true, Bool.and_eq_true,
      decide_eq_true_eq] at pair
    have useful : ¬RefusesLink limits state link := by
      rintro (nil | invalid | loop | noSource | noTarget | full | crowded |
        ⟨other, found, notNewer⟩)
      · exact (tables.link_key member).2 (by simpa [Id.isNil] using nil)
      · have zero : link.generation.value = 0 := by simpa [Generation.valid] using invalid
        rw [Generation.lt_iff, zero] at newer
        exact absurd newer (Nat.not_lt_zero _)
      · rcases pair with ⟨first, second⟩ | ⟨first, second⟩
        · exact distinct (first.trans (loop.trans second.symm))
        · exact distinct (first.trans (loop.symm.trans second.symm))
      · rcases pair with ⟨first, second⟩ | ⟨first, second⟩
        · exact find?_ne_none_of_present source (first ▸ noSource)
        · exact find?_ne_none_of_present target (second ▸ noSource)
      · rcases pair with ⟨first, second⟩ | ⟨first, second⟩
        · exact find?_ne_none_of_present target (second ▸ noTarget)
        · exact find?_ne_none_of_present source (first ▸ noTarget)
      · omega
      · omega
      · obtain rfl := Option.some.inj (stored.symm.trans found)
        exact not_lt_of_ge notNewer newer
    obtain ⟨observation, accepted⟩ := upsertLink_of_not_refuses ambient useful
    refine ⟨_, accepted, ?_, ?_⟩
    · rw [commit_links, FiniteMap.find?_mapValues, FiniteMap.find?_set_self]
      rfl
    · rw [commit_links, FiniteMap.size_mapValues, FiniteMap.set_of_find?_eq_some stored,
        FiniteMap.size_assign]

/-- Two devices. -/
def pairCalls : List Call :=
  [⟨.upsertDevice { id := ⟨1⟩, generation := ⟨1⟩ }, {}⟩,
    ⟨.upsertDevice { id := ⟨2⟩, generation := ⟨1⟩ }, {}⟩]

/-- A link between them as a publisher sends it, without a stamp. -/
def pairLink (generation : LinkGeneration) : LinkRecord :=
  { id := ⟨7⟩, source := ⟨1⟩, target := ⟨2⟩, generation := generation, state := .up }

/-- The two devices with the link. -/
def joinedCalls : List Call := pairCalls ++ [⟨.upsertLink (pairLink ⟨1⟩), {}⟩]

/-- A link that is submitted again is a conflict. -/
theorem resubmit_conflict :
    ¬∀ (limits : Limits) (state : State), Reachable limits state →
      (∀ (device : DeviceRecord) (first again : Ambient) (next : State),
        apply limits ⟨.upsertDevice device, first⟩ state = .ok next →
        apply limits ⟨.upsertDevice device, again⟩ next = .ok next) ∧
      ∀ (link : LinkRecord) (first again : Ambient) (next : State),
        apply limits ⟨.upsertLink link, first⟩ state = .ok next →
        apply limits ⟨.upsertLink link, again⟩ next = .ok next := by
  intro idempotent
  have first : accepted {} ⟨.upsertLink (pairLink ⟨1⟩), {}⟩
      (run {} State.initial pairCalls) = true := by
    decide +kernel
  have second : accepted {} ⟨.upsertLink (pairLink ⟨1⟩), {}⟩
      (step {} (run {} State.initial pairCalls) ⟨.upsertLink (pairLink ⟨1⟩), {}⟩) =
        false := by
    decide +kernel
  obtain ⟨next, stored⟩ := accepted_iff.mp first
  have again := (idempotent {} _ ⟨pairCalls, rfl⟩).2 _ {} {} next stored
  rw [step_of_apply_ok stored, accepted_of_ok again] at second
  simp at second

/-- A link that carries the stamp it is about to get is recognised. -/
theorem resubmit_stamped :
    ∃ next, apply {} ⟨.upsertLink { pairLink ⟨1⟩ with topologyGeneration := ⟨4⟩ }, {}⟩
        (run {} State.initial pairCalls) = .ok next ∧
      apply {} ⟨.upsertLink { pairLink ⟨1⟩ with topologyGeneration := ⟨4⟩ }, {}⟩ next =
        .ok next := by
  have first :
      accepted {} ⟨.upsertLink { pairLink ⟨1⟩ with topologyGeneration := ⟨4⟩ }, {}⟩
      (run {} State.initial pairCalls) = true := by
    decide +kernel
  obtain ⟨next, stored⟩ := accepted_iff.mp first
  exact ⟨next, stored, ((resubmit_iff {} _).2 _ {} {} next stored).mpr
    (.inr (by decide +kernel))⟩

/-- A registry that holds all the links it may hold does not take a newer record of
one. -/
theorem updateLink_full :
    ¬∀ (limits : Limits) (ambient : Ambient) (state : State) (link current : LinkRecord),
      Reachable limits state → state.links.find? link.id = some current →
      sameUnordered link current = true → current.generation < link.generation →
      ∃ next, apply limits ⟨.upsertLink link, ambient⟩ state = .ok next ∧
        next.links.find? link.id = some (stamp next.topologyGen link) ∧
        next.links.size = state.links.size := by
  intro updatable
  have refused : accepted { maxLinks := 1 } ⟨.upsertLink (pairLink ⟨2⟩), {}⟩
      (run { maxLinks := 1 } State.initial joinedCalls) = false := by
    decide +kernel
  obtain ⟨next, stored, -⟩ := updatable { maxLinks := 1 } {}
    (run { maxLinks := 1 } State.initial joinedCalls) (pairLink ⟨2⟩) _
      ⟨joinedCalls, rfl⟩ rfl
    (by decide +kernel) (by decide +kernel)
  rw [accepted_of_ok stored] at refused
  simp at refused

/-- Below the bounds the newer record replaces the stored one. -/
theorem updateLink_joined :
    ∃ next, apply {} ⟨.upsertLink (pairLink ⟨2⟩), {}⟩ (run {} State.initial joinedCalls) =
        .ok next ∧
      next.links.find? ⟨7⟩ = some (stamp next.topologyGen (pairLink ⟨2⟩)) ∧
      next.links.size = (run {} State.initial joinedCalls).links.size := by
  have stored : (run {} State.initial joinedCalls).links.find? (pairLink ⟨2⟩).id =
      some (stamp ⟨4⟩ (pairLink ⟨1⟩)) := by
    decide +kernel
  exact (updateLink_iff ⟨joinedCalls, rfl⟩ stored (by decide +kernel) (by decide +kernel)
    {}).mpr ⟨by decide +kernel, by decide +kernel⟩

end NvlinkFabric.Registry

import NvlinkFabric.Registry.Restore

/-!
# Generations of stored records

An upsert compares the generation it brings with the stored one, and only with
the stored one.  Nothing is left to compare with once the record was removed, a
restore replaces both tables without looking at them, and the two state updates
count with the unchecked `next`.  So the generation of an identity moves forward
exactly along the runs that bring nothing older through these three doors.
-/

namespace NvlinkFabric.Registry

open Transition

variable {limits : Limits} {ambient : Ambient} {state next : State} {call : Call}

/-- Generation of a stored link. -/
def linkGenerationOf (state : State) (id : LinkId) : Option LinkGeneration :=
  (state.links.find? id).map (·.generation)

/-- How the generations of one table can be observed and moved: the generation
stored for an identity, the generation an operation brings for it without a
stored one to compare with, and whether the operation counts the stored one. -/
structure Ledger (key : Type) (tag : Tag) where
  stored : State → key → Option (Generation tag)
  entering : State → Operation → key → Option (Generation tag)
  counts : Operation → key → Bool

/-- A device record is unchecked if its identity is absent or if it comes from a
durable state; of several durable records with one identity the first counts. -/
def enteringDevice (state : State) (operation : Operation) (id : DeviceId) :
    Option DeviceGeneration :=
  match operation with
  | .upsertDevice device =>
      if device.id = id ∧
        generationOf state id = none then some device.generation else none
  | .restoreDurableState durable =>
      (durable.devices.find? (·.id = id)).map (·.generation)
  | _ => none

/-- A link record is unchecked under the same conditions. -/
def enteringLink (state : State) (operation : Operation) (id : LinkId) :
    Option LinkGeneration :=
  match operation with
  | .upsertLink link =>
      if link.id = id ∧
        linkGenerationOf state id = none then some link.generation else none
  | .restoreDurableState durable =>
      (durable.links.find? (·.id = id)).map (·.generation)
  | _ => none

/-- `update_device_health` counts the generation of its device. -/
def countsDevice (operation : Operation) (id : DeviceId) : Bool :=
  match operation with
  | .updateDeviceHealth device _ _ => device = id
  | _ => false

/-- `update_link_state` counts the generation of its link. -/
def countsLink (operation : Operation) (id : LinkId) : Bool :=
  match operation with
  | .updateLinkState link _ _ _ _ => link = id
  | _ => false

def deviceLedger : Ledger DeviceId .deviceGeneration :=
  ⟨generationOf, enteringDevice, countsDevice⟩

def linkLedger : Ledger LinkId .linkGeneration :=
  ⟨linkGenerationOf, enteringLink, countsLink⟩

namespace Ledger

variable {key : Type} {tag : Tag} {ledger : Ledger key tag}

/-- An identity stored in both states has not moved backward, nor to the invalid
generation. -/
def Forward (ledger : Ledger key tag) (earlier later : State) : Prop :=
  ∀ id, ∀ before ∈ ledger.stored earlier id, ∀ after ∈ ledger.stored later id,
    before ≤ after ∧ after.value ≠ 0

/-- If the call is accepted after the calls `before`, no generation it brings
unchecked is older than one that was stored for the same identity at any point
so far, and the generation it counts is not the largest. -/
def Fresh (ledger : Ledger key tag) (limits : Limits) (before : List Call) (call : Call) :
    Prop :=
  accepted limits call (run limits .initial before) = true →
    (∀ id, ∀ brought ∈ ledger.entering (run limits .initial before) call.operation id,
      ∀ earlier, earlier <+: before →
        ∀ seen ∈ ledger.stored (run limits .initial earlier) id, seen ≤ brought) ∧
    ∀ id, ledger.counts call.operation id = true →
      ledger.stored (run limits .initial before) id ≠ some .last

/-- What an accepted call can do to an identity: leave it out of the table, store
a generation unchecked, keep or raise the stored one, or count it. -/
inductive Moves (ledger : Ledger key tag) (state : State) (operation : Operation)
    (id : key) : Option (Generation tag) → Prop where
  | absent : ledger.entering state operation id = none →
      ledger.counts operation id = false → Moves ledger state operation id none
  | entered {after : Generation tag} : ledger.entering state operation id = some after →
      ledger.counts operation id = false → after.value ≠ 0 →
      Moves ledger state operation id (some after)
  | kept {before after : Generation tag} : ledger.entering state operation id = none →
      ledger.counts operation id = false → ledger.stored state id = some before →
      before ≤ after → Moves ledger state operation id (some after)
  | counted {before : Generation tag} : ledger.entering state operation id = none →
      ledger.counts operation id = true → ledger.stored state id = some before →
      Moves ledger state operation id (some before.next)

/-- The table starts empty, and every accepted call moves it as described. -/
structure Lawful (ledger : Ledger key tag) (limits : Limits) : Prop where
  initially : ∀ id, ledger.stored .initial id = none
  moves : ∀ {state next call}, apply limits call state = .ok next →
    ∀ id, ledger.Moves state call.operation id (ledger.stored next id)

/-- A call that does not touch the identity keeps what is stored for it. -/
theorem Moves.unchanged {operation : Operation} {id : key}
    (entering : ledger.entering state operation id = none)
    (counts : ledger.counts operation id = false) :
    ledger.Moves state operation id (ledger.stored state id) := by
  cases stored : ledger.stored state id with
  | none => exact .absent entering counts
  | some before =>
      exact .kept entering counts stored (le_refl _)

theorem run_concat (limits : Limits) (before : List Call) (call : Call) :
    run limits .initial (before ++ [call]) =
      step limits (run limits .initial before) call := by
  rw [run, run_append]
  rfl

/-- The moves of a removal. -/
theorem Moves.dropped {operation : Operation} {id : key} {after : Option (Generation tag)}
    (entering : ledger.entering state operation id = none)
    (counts : ledger.counts operation id = false)
    (dropped : after = none ∨ after = ledger.stored state id) :
    ledger.Moves state operation id after := by
  rcases dropped with rfl | rfl
  · exact .absent entering counts
  · exact .unchanged entering counts

/-- The moves of a checked upsert. -/
theorem Moves.upserted [DecidableEq key] {operation : Operation} {target : key}
    {generation : Generation tag}
    (entering : ∀ id, ledger.entering state operation id =
      if target = id ∧ ledger.stored state id = none then some generation else none)
    (counts : ∀ id, ledger.counts operation id = false) (valid : generation.value ≠ 0)
    (notNewer : ∀ before ∈ ledger.stored state target, before ≤ generation) (id : key) :
    ledger.Moves state operation id
      (if id = target then some generation else ledger.stored state id) := by
  split
  next same =>
    subst same
    cases stored : ledger.stored state id with
    | none =>
        apply Moves.entered _ (counts id) valid
        rw [entering, if_pos ⟨rfl, stored⟩]
    | some before =>
        apply Moves.kept _ (counts id) stored (notNewer before stored)
        rw [entering, stored]
        simp
  next other =>
    apply Moves.unchanged _ (counts id)
    rw [entering, if_neg fun both => other both.1.symm]

/-- The moves of a state update. -/
theorem Moves.updated [DecidableEq key] {operation : Operation} {target : key}
    {current : Generation tag}
    (entering : ∀ id, ledger.entering state operation id = none)
    (counts : ∀ id, ledger.counts operation id = decide (target = id))
    (stored : ledger.stored state target = some current) (id : key) :
    ledger.Moves state operation id
      (if id = target then some current.next else ledger.stored state id) := by
  split
  next same =>
    subst same
    apply Moves.counted (entering id) _ stored
    rw [counts, decide_eq_true rfl]
  next other =>
    apply Moves.unchanged (entering id)
    rw [counts, decide_eq_false (Ne.symm other)]

/-- The moves of a restore. -/
theorem Moves.restored {operation : Operation} {id : key}
    (entering : ledger.entering state operation id = ledger.stored next id)
    (counts : ledger.counts operation id = false)
    (valid : ∀ after ∈ ledger.stored next id, after.value ≠ 0) :
    ledger.Moves state operation id (ledger.stored next id) := by
  cases stored : ledger.stored next id with
  | none => exact .absent (entering.trans stored) counts
  | some after => exact .entered (entering.trans stored) counts (valid after stored)

namespace Lawful

variable {id : key} {before after brought : Generation tag}

/-- An identity that is stored after a call was stored before with a generation
that is not newer, was counted, or entered unchecked. -/
theorem effect (lawful : ledger.Lawful limits)
    (stored : ledger.stored (step limits state call) id = some after) :
    (∃ before, ledger.stored state id = some before ∧ before ≤ after) ∨
    (accepted limits call state = true ∧ ledger.counts call.operation id = true ∧
      ∃ before, ledger.stored state id = some before ∧ after = before.next) ∨
    (accepted limits call state = true ∧
      ledger.entering state call.operation id = some after ∧ after.value ≠ 0) := by
  cases result : apply limits call state with
  | error error =>
      rw [step_of_apply_error result] at stored
      exact .inl ⟨after, stored, le_refl _⟩
  | ok next =>
      have acceptedCall := accepted_of_ok result
      have moves := lawful.moves result id
      rw [step_of_apply_ok result] at stored
      rw [stored] at moves
      cases moves with
      | entered entering _ valid => exact .inr (.inr ⟨acceptedCall, entering, valid⟩)
      | kept _ _ found notNewer => exact .inl ⟨_, found, notNewer⟩
      | counted _ counts found => exact .inr (.inl ⟨acceptedCall, counts, _, found, rfl⟩)

theorem entered (lawful : ledger.Lawful limits)
    (acceptedCall : accepted limits call state = true)
    (entering : ledger.entering state call.operation id = some brought) :
    ledger.stored (step limits state call) id = some brought := by
  obtain ⟨next, result⟩ := accepted_iff.mp acceptedCall
  have moves := lawful.moves result id
  rw [step_of_apply_ok result]
  generalize ledger.stored next id = stored at moves ⊢
  cases moves with
  | entered bringing => rw [← entering, bringing]
  | absent nothing | kept nothing | counted nothing => simp [entering] at nothing

theorem counted (lawful : ledger.Lawful limits)
    (acceptedCall : accepted limits call state = true)
    (counts : ledger.counts call.operation id = true)
    (stored : ledger.stored state id = some before) :
    ledger.stored (step limits state call) id = some before.next := by
  obtain ⟨next, result⟩ := accepted_iff.mp acceptedCall
  have moves := lawful.moves result id
  rw [step_of_apply_ok result]
  generalize ledger.stored next id = after at moves ⊢
  cases moves with
  | counted _ _ found =>
      rw [stored, Option.some.injEq] at found
      rw [found]
  | absent _ idle | entered _ idle | kept _ idle => simp [counts] at idle

end Lawful

/-- After a run in order, a fresh call stores nothing older than what was seen. -/
theorem stored_after_fresh (lawful : ledger.Lawful limits) {before : List Call}
    (ordered : InOrder (step limits) ledger.Forward .initial before)
    (fresh : ledger.Fresh limits before call) {id : key} {after : Generation tag}
    (stored : ledger.stored (step limits (run limits .initial before) call)
      id = some after) :
    after.value ≠ 0 ∧ ∀ earlier, earlier <+: before →
      ∀ seen ∈ ledger.stored (run limits .initial earlier) id, seen ≤ after := by
  have forward := ordered before (List.prefix_refl _)
  rcases lawful.effect stored with ⟨current, found, notNewer⟩ |
    ⟨acceptedCall, counts, current, found, rfl⟩ | ⟨acceptedCall, entering, valid⟩
  · have valid := (forward before (List.prefix_refl _) id current found current found).2
    constructor
    · intro zero
      apply valid
      rw [Generation.le_iff, zero] at notNewer
      exact UInt64.toNat_inj.mp (Nat.le_zero.mp notNewer)
    · intro earlier within seen seenStored
      have ascending := (forward earlier within id seen seenStored current found).1
      exact le_trans ascending notNewer
  · have notLast := (fresh acceptedCall).2 id counts
    have valid : current.next.value ≠ 0 := by
      intro zero
      apply notLast
      rw [found, Generation.next_value_eq_zero_iff.mp zero]
    have counted := le_of_lt (Generation.lt_next_of_ne_zero valid)
    constructor
    · exact valid
    · intro earlier within seen seenStored
      have ascending := (forward earlier within id seen seenStored current found).1
      exact le_trans ascending counted
  · constructor
    · exact valid
    · intro earlier within seen seenStored
      exact (fresh acceptedCall).1 id after entering earlier within seen seenStored

/-- The generations of a table move forward along a run exactly if every call of
the run is fresh. -/
theorem forward_iff_fresh (lawful : ledger.Lawful limits) (calls : List Call) :
    InOrder (step limits) ledger.Forward .initial calls ↔
      AtEach (ledger.Fresh limits) calls := by
  apply inOrder_iff_atEach
  · intro id before stored
    rw [lawful.initially id] at stored
    simp at stored
  · intro before call ordered
    change (∀ earlier, earlier <+: before ++ [call] →
      ledger.Forward (run limits .initial earlier)
        (run limits .initial (before ++ [call]))) ↔ _
    rw [run_concat]
    constructor
    · intro forward acceptedCall
      constructor
      · intro id brought entering earlier within seen stored
        exact (forward earlier (within.trans (List.prefix_append _ _)) id seen
          stored brought
          (lawful.entered acceptedCall entering)).1
      · intro id counts exhausted
        have wrapped := lawful.counted acceptedCall counts exhausted
        apply (forward before (List.prefix_append _ _) id .last exhausted _ wrapped).2
        exact Generation.next_value_eq_zero_iff.mpr rfl
    · intro fresh earlier within id seen stored after storedAfter
      obtain ⟨valid, newest⟩ := stored_after_fresh lawful ordered fresh storedAfter
      refine ⟨?_, valid⟩
      rcases List.prefix_concat_iff.mp within with rfl | within
      · rw [run_concat, storedAfter, Option.mem_some] at stored
        rw [stored]
      · exact newest earlier within seen stored

end Ledger

/-! ## Tables after a call -/

@[simp] theorem generationOf_commit (observation : Observation) (id : DeviceId) :
    generationOf (commit limits observation state) id = generationOf state id := rfl

@[simp] theorem linkGenerationOf_advance (id : LinkId) :
    linkGenerationOf (advance state) id = linkGenerationOf state id := by
  cases found : state.links.find? id <;> simp [linkGenerationOf, advance, found, stamp]

@[simp] theorem linkGenerationOf_commit (observation : Observation) (id : LinkId) :
    linkGenerationOf (commit limits observation state) id =
      linkGenerationOf state id := by
  rw [commit, linkGenerationOf_advance]
  rfl

/-- Removing records from a table changes no record that stays. -/
theorem generation_of_filter {κ ν : Type} {tag : Tag} [DecidableEq κ]
    (map : FiniteMap κ ν) (keep : κ × ν → Bool)
    (generation : ν → Generation tag) (id : κ) :
    ((map.filter keep).find? id).map generation = none ∨
      ((map.filter keep).find? id).map generation = (map.find? id).map generation := by
  rw [FiniteMap.find?_filter]
  cases map.find? id with
  | none => exact .inl rfl
  | some record =>
      cases kept : keep (id, record) with
      | false => exact .inl (by simp [kept])
      | true => exact .inr (by simp [kept])

/-- The table after a checked upsert: the record replays the stored one, enters an
absent key, or replaces an older record. -/
theorem generation_of_upsert {κ ν : Type} {tag : Tag} [DecidableEq κ]
    {map after : FiniteMap κ ν} {key : κ} {record : ν} (generation : ν → Generation tag)
    (outcome : (map.find? key = some record ∧ after = map) ∨
      (map.find? key = none ∧ after = map.emplace key record) ∨
      ∃ current, map.find? key = some current ∧ generation current < generation record ∧
        after = map.assign key record) :
    (∀ before ∈ (map.find? key).map generation, before ≤ generation record) ∧
      ∀ id, (after.find? id).map generation =
        if id = key then some (generation record) else (map.find? id).map generation := by
  have written : ∀ id, ((map.set key record).find? id).map generation =
      if id = key then some (generation record) else (map.find? id).map generation := by
    intro id
    rw [FiniteMap.find?_set]
    split <;> rfl
  rcases outcome with ⟨found, rfl⟩ | ⟨missing, rfl⟩ | ⟨current, found, newer, rfl⟩
  · rw [found]
    constructor
    · rintro before ⟨⟩
      exact le_refl _
    · intro id
      split
      next same => rw [same, found, Option.map_some]
      next _ => rfl
  · rw [← FiniteMap.set_of_find?_eq_none missing, missing]
    exact ⟨fun before member => by simp at member, written⟩
  · rw [← FiniteMap.set_of_find?_eq_some found, found]
    constructor
    · rintro before ⟨⟩
      exact le_of_lt newer
    · exact written

/-- After a restore the first durable record of an identity is stored. -/
theorem restored_generation {durable : DurableState}
    (ok : restoreDurableState limits ambient durable state = .ok next) :
    (∀ id, generationOf next id =
      (durable.devices.find? (·.id = id)).map (·.generation)) ∧
    ∀ id, linkGenerationOf next id =
      (durable.links.find? (·.id = id)).map (·.generation) := by
  obtain ⟨devices, links⟩ := find?_of_restore ok
  constructor
  · intro id
    simp [generationOf, devices, Function.comp_def]
  · intro id
    simp [linkGenerationOf, links, Function.comp_def, requireLinkRevalidation, stamp]

theorem generationOf_set (device : DeviceRecord) (key id : DeviceId) :
    generationOf { state with devices := state.devices.set key device } id =
      if id = key then some device.generation else generationOf state id := by
  rw [generationOf, FiniteMap.find?_set]
  split <;> rfl

/-- An accepted device is stored, and nothing newer was. -/
theorem generationOf_upsert {device : DeviceRecord}
    (ok : upsertDevice limits ambient device state = .ok next) :
    (∀ before ∈ generationOf state device.id, before ≤ device.generation) ∧
      ∀ id, generationOf next id =
        if id = device.id then some device.generation else generationOf state id := by
  obtain ⟨-, -, ⟨found, rfl⟩ | ⟨missing, -, observation, rfl⟩ |
    ⟨current, found, newer, observation, rfl⟩⟩ := upsertDevice_ok ok
  · exact generation_of_upsert (·.generation) (.inl ⟨found, rfl⟩)
  · exact generation_of_upsert (·.generation) (.inr (.inl ⟨missing, rfl⟩))
  · exact generation_of_upsert (·.generation) (.inr (.inr ⟨current, found, newer, rfl⟩))

/-- `deviceLedger` describes the device table. -/
theorem deviceLedger_lawful (limits : Limits) : deviceLedger.Lawful limits where
  initially _ := rfl
  moves := by
    rintro state next ⟨operation, ambient⟩ ok id
    change deviceLedger.Moves state operation id (generationOf next id)
    cases operation with
    | upsertDevice device =>
        obtain ⟨-, valid, -⟩ := upsertDevice_ok ok
        obtain ⟨notNewer, stored⟩ := generationOf_upsert ok
        rw [stored]
        exact .upserted (fun _ => rfl) (fun _ => rfl) valid notNewer id
    | removeDevice device =>
        obtain ⟨-, observation, rfl⟩ := removeDevice_ok ok
        exact .dropped rfl rfl (generation_of_filter _ _ _ id)
    | updateDeviceHealth device health evidence =>
        obtain ⟨current, found, observation, rfl⟩ := updateDeviceHealth_ok ok
        rw [← FiniteMap.set_of_find?_eq_some found, generationOf_commit, generationOf_set]
        apply Ledger.Moves.updated (fun _ => rfl) (fun _ => rfl) _ id
        simp [deviceLedger, generationOf, found]
    | restoreDurableState durable =>
        apply Ledger.Moves.restored ((restored_generation ok).1 id).symm rfl
        intro after stored
        obtain ⟨device, found, rfl⟩ := Option.map_eq_some_iff.mp stored
        exact (restored_generations_valid ok).1 _ (FiniteMap.find?_eq_some.mp found)
    | markDynamicEvidenceRevalidationRequired =>
        have kept : generationOf next id = generationOf state id := by
          simp only [apply, Except.ok.injEq] at ok
          subst ok
          simp [markDynamicEvidenceRevalidationRequired, generationOf, Function.comp_def]
        rw [kept]
        exact .unchanged rfl rfl
    | _ =>
        rw [generationOf, devices_of_ok rfl ok]
        exact .unchanged rfl rfl

theorem linkGenerationOf_set (link : LinkRecord) (key id : LinkId) :
    linkGenerationOf { state with links := state.links.set key link } id =
      if id = key then some link.generation else linkGenerationOf state id := by
  rw [linkGenerationOf, FiniteMap.find?_set]
  split <;> rfl

/-- An accepted link is stored, and nothing newer was. -/
theorem linkGenerationOf_upsert {link : LinkRecord}
    (ok : upsertLink limits ambient link state = .ok next) :
    (∀ before ∈ linkGenerationOf state link.id, before ≤ link.generation) ∧
      ∀ id, linkGenerationOf next id =
        if id = link.id then some link.generation else linkGenerationOf state id := by
  obtain ⟨-, ⟨found, rfl⟩ | ⟨missing, observation, rfl⟩ |
    ⟨current, found, newer, observation, rfl⟩⟩ := upsertLink_ok ok
  · exact generation_of_upsert (·.generation) (.inl ⟨found, rfl⟩)
  · simp only [linkGenerationOf_commit]
    exact generation_of_upsert (·.generation) (.inr (.inl ⟨missing, rfl⟩))
  · simp only [linkGenerationOf_commit]
    exact generation_of_upsert (·.generation) (.inr (.inr ⟨current, found, newer, rfl⟩))

/-- `linkLedger` describes the link table. -/
theorem linkLedger_lawful (limits : Limits) : linkLedger.Lawful limits where
  initially _ := rfl
  moves := by
    rintro state next ⟨operation, ambient⟩ ok id
    change linkLedger.Moves state operation id (linkGenerationOf next id)
    cases operation with
    | upsertLink link =>
        obtain ⟨⟨-, valid, -⟩, -⟩ := upsertLink_ok ok
        obtain ⟨notNewer, stored⟩ := linkGenerationOf_upsert ok
        rw [stored]
        exact .upserted (fun _ => rfl) (fun _ => rfl) valid notNewer id
    | removeDevice device =>
        obtain ⟨-, observation, rfl⟩ := removeDevice_ok ok
        rw [linkGenerationOf_commit]
        exact .dropped rfl rfl (generation_of_filter _ _ _ id)
    | removeLink link =>
        obtain ⟨current, -, observation, rfl⟩ := removeLink_ok ok
        rw [linkGenerationOf_commit]
        exact .dropped rfl rfl (generation_of_filter _ _ _ id)
    | updateLinkState link linkState evidence degraded note =>
        obtain ⟨current, found, observation, rfl⟩ := updateLinkState_ok ok
        rw [← FiniteMap.set_of_find?_eq_some found, linkGenerationOf_commit,
          linkGenerationOf_set]
        apply Ledger.Moves.updated (fun _ => rfl) (fun _ => rfl) _ id
        simp [linkLedger, linkGenerationOf, found]
    | restoreDurableState durable =>
        apply Ledger.Moves.restored ((restored_generation ok).2 id).symm rfl
        intro after stored
        obtain ⟨link, found, rfl⟩ := Option.map_eq_some_iff.mp stored
        exact (restored_generations_valid ok).2 _ (FiniteMap.find?_eq_some.mp found)
    | markDynamicEvidenceRevalidationRequired =>
        have kept : linkGenerationOf next id = linkGenerationOf state id := by
          simp only [apply, Except.ok.injEq] at ok
          subst ok
          rw [markDynamicEvidenceRevalidationRequired, linkGenerationOf_commit]
          simp [linkGenerationOf, Function.comp_def, requireLinkRevalidation]
        rw [kept]
        exact .unchanged rfl rfl
    | _ =>
        have kept : linkGenerationOf next id = linkGenerationOf state id := by
          rcases links_of_ok rfl ok with same | ⟨generation, stamped⟩
          · rw [linkGenerationOf, same, linkGenerationOf]
          · simp [linkGenerationOf, stamped, Function.comp_def, stamp]
        rw [kept]
        exact .unchanged rfl rfl

/-- In every run the generations of devices and links move forward between any
two points exactly if every accepted call of the run is fresh for both tables. -/
theorem generations_forward_iff (limits : Limits) (calls : List Call) :
    InOrder (step limits)
        (fun earlier later =>
          deviceLedger.Forward earlier later ∧ linkLedger.Forward earlier later)
        .initial calls ↔
      AtEach
        (fun before call =>
          deviceLedger.Fresh limits before call ∧ linkLedger.Fresh limits before call)
        calls := by
  rw [inOrder_and, atEach_and, Ledger.forward_iff_fresh (deviceLedger_lawful limits),
    Ledger.forward_iff_fresh (linkLedger_lawful limits)]

/-- A device at generation 5 is removed and inserted again at generation 1. -/
def readmission : List Call :=
  [⟨.upsertDevice { id := ⟨1⟩, generation := ⟨5⟩ }, {}⟩, ⟨.removeDevice ⟨1⟩, {}⟩,
    ⟨.upsertDevice { id := ⟨1⟩, generation := ⟨1⟩ }, {}⟩]

theorem readmitted_generation_backward :
    ¬∀ (limits : Limits) (calls : List Call),
      InOrder (step limits)
        (fun earlier later =>
          deviceLedger.Forward earlier later ∧ linkLedger.Forward earlier later)
        .initial calls := by
  intro always
  have forward := (always {} readmission readmission (List.prefix_refl _)
    (readmission.take 1) (List.take_prefix _ _)).1
  have stored : generationOf (run {} .initial (readmission.take 1)) ⟨1⟩ = some ⟨5⟩ := by
    decide
  have backward : generationOf (run {} .initial readmission) ⟨1⟩ = some ⟨1⟩ := by decide
  have ascending := (forward ⟨1⟩ ⟨5⟩ stored ⟨1⟩ backward).1
  exact absurd ascending (by decide)

end NvlinkFabric.Registry

import NvlinkFabric.Lib.LastWriter
import NvlinkFabric.Registry.Restore
import NvlinkFabric.Registry.MeasurementHistory

/-!
# Who wrote what a link says

The registry makes up nothing in a link record: the evidence of a stored link is what
the last accepted call that named the link brought along, be it an upsert, a state
update or a restored record, and so is its state, except that a mark and a restore
overwrite the state of every link.  In the same way every measurement in the history
carries the evidence it was published with.
-/

namespace NvlinkFabric.Registry

open Transition

variable {limits : Limits} {ambient : Ambient} {state next : State} {call : Call}

/-- A field of link records, what `update_link_state` writes into it, and what a lapse of
authority writes into it, if anything. -/
structure LinkField (β : Type) where
  read : LinkRecord → β
  updated : LinkOperationalState → Evidence → β
  lapsed : Option β
  read_stamp : ∀ generation link, read (stamp generation link) = read link
  read_updated : ∀ (link : LinkRecord) linkState evidence degraded note generation now,
    read { link with
      state := linkState, evidence := evidence, degraded := degraded,
      degradationNote := note, generation := generation, lastObservation := now } =
        updated linkState evidence
  read_lapsed : ∀ note link, read (requireLinkRevalidation note link) =
    lapsed.getD (read link)

/-- The evidence of a link survives a lapse of authority. -/
def evidenceField : LinkField Evidence where
  read := (·.evidence)
  updated _ evidence := evidence
  lapsed := none
  read_stamp _ _ := rfl
  read_updated _ _ _ _ _ _ _ := rfl
  read_lapsed _ _ := rfl

@[simp] theorem read_evidenceField (link : LinkRecord) :
    evidenceField.read link = link.evidence := rfl

/-- The state of a link does not. -/
def stateField : LinkField LinkOperationalState where
  read := (·.state)
  updated linkState _ := linkState
  lapsed := some .revalidationRequired
  read_stamp _ _ := rfl
  read_updated _ _ _ _ _ _ _ := rfl
  read_lapsed _ _ := rfl

namespace LinkField

variable {β : Type} (field : LinkField β)

/-- What an operation brings along for a link. -/
def brings (operation : Operation) (id : LinkId) : Option β :=
  match operation with
  | .upsertLink link => if link.id = id then some (field.read link) else none
  | .updateLinkState link linkState evidence _ _ =>
      if link = id then some (field.updated linkState evidence) else none
  | .markDynamicEvidenceRevalidationRequired => field.lapsed
  | .restoreDurableState durable =>
      (durable.links.find? (·.id = id)).map fun link =>
        field.lapsed.getD (field.read link)
  | _ => none

/-- What a call submits for a link: what it brings along, if it is accepted. -/
def submits (limits : Limits) (id : LinkId) (state : State) (call : Call) : Option β :=
  if accepted limits call state then field.brings call.operation id else none

/-- The field of a stored link. -/
def stored (id : LinkId) (state : State) : Option β :=
  (state.links.find? id).map field.read

variable {field}

@[simp] theorem stored_mapValues_stamp (id : LinkId) (generation : TopologyGeneration)
    (links : FiniteMap LinkId LinkRecord) :
    ((links.mapValues (stamp generation)).find? id).map field.read =
      (links.find? id).map field.read := by
  simp [Function.comp_def, field.read_stamp]

@[simp] theorem stored_commit (id : LinkId) (observation : Observation) (state : State) :
    field.stored id (commit limits observation state) = field.stored id state := by
  rw [stored, commit_links, stored_mapValues_stamp, stored]

/-- The field of a link after a link was stored. -/
theorem stored_set (link : LinkRecord) (key id : LinkId) :
    field.stored id { state with links := state.links.set key link } =
      if id = key then some (field.read link) else field.stored id state := by
  rw [stored, FiniteMap.find?_set]
  split <;> rfl

/-- An upsert leaves the link with what it brought. -/
theorem stored_upsert {link : LinkRecord}
    (ok : upsertLink limits ambient link state = .ok next) (id : LinkId) :
    field.stored id next =
      if id = link.id then some (field.read link) else field.stored id state := by
  obtain ⟨-, ⟨found, rfl⟩ | ⟨missing, observation, rfl⟩ |
    ⟨current, found, -, observation, rfl⟩⟩ := upsertLink_ok ok
  · split
    next same => rw [same, stored, found, Option.map_some]
    · rfl
  · rw [stored_commit, ← FiniteMap.set_of_find?_eq_none missing, stored_set]
  · rw [stored_commit, ← FiniteMap.set_of_find?_eq_some found, stored_set]

/-- What is left of a table after a removal was in it before. -/
theorem stored_of_filter {links : FiniteMap LinkId LinkRecord}
    {keep : LinkId × LinkRecord → Bool} {id : LinkId} {value : β}
    (found : ((links.filter keep).find? id).map field.read = some value) :
    (links.find? id).map field.read = some value := by
  rw [FiniteMap.find?_filter] at found
  cases stored : links.find? id with
  | none => simp [stored] at found
  | some link =>
      rw [stored, Option.filter_some] at found
      split at found
      · exact found
      · simp at found

/-- A lapse of authority leaves what it writes, or else what was stored. -/
theorem stored_lapsed {links : FiniteMap LinkId LinkRecord} {note : Text}
    {id : LinkId} {value : β}
    (found : ((links.mapValues (requireLinkRevalidation note)).find? id).map field.read =
      some value) :
    field.lapsed = some value ∨
      field.lapsed = none ∧ (links.find? id).map field.read = some value := by
  rw [FiniteMap.find?_mapValues, Option.map_map] at found
  obtain ⟨link, stored, rfl⟩ := Option.map_eq_some_iff.mp found
  rw [Function.comp_apply, field.read_lapsed]
  cases lapsed : field.lapsed with
  | none => exact .inr ⟨rfl, by rw [stored, Option.map_some]; rfl⟩
  | some written => exact .inl rfl

/-- An accepted call leaves a link with what it brought along for it, or else with what
was stored. -/
theorem stored_ok (ok : apply limits call state = .ok next) {id : LinkId} {value : β}
    (found : field.stored id next = some value) :
    field.brings call.operation id = some value ∨
      field.brings call.operation id = none ∧ field.stored id state = some value := by
  obtain ⟨operation, ambient⟩ := call
  cases operation with
  | upsertLink link =>
      rw [stored_upsert ok] at found
      by_cases same : link.id = id
      · rw [if_pos same.symm] at found
        exact .inl (by rw [brings, if_pos same, found])
      · rw [if_neg (Ne.symm same)] at found
        exact .inr ⟨by rw [brings, if_neg same], found⟩
  | updateLinkState link linkState evidence degraded note =>
      obtain ⟨current, present, observation, rfl⟩ := updateLinkState_ok ok
      rw [stored_commit, ← FiniteMap.set_of_find?_eq_some present, stored_set,
        field.read_updated] at found
      by_cases same : link = id
      · rw [if_pos same.symm] at found
        exact .inl (by rw [brings, if_pos same, found])
      · rw [if_neg (Ne.symm same)] at found
        exact .inr ⟨by rw [brings, if_neg same], found⟩
  | removeLink link =>
      obtain ⟨current, -, observation, rfl⟩ := removeLink_ok ok
      rw [stored_commit] at found
      exact .inr ⟨rfl, stored_of_filter found⟩
  | removeDevice device =>
      obtain ⟨-, observation, rfl⟩ := removeDevice_ok ok
      rw [stored_commit] at found
      exact .inr ⟨rfl, stored_of_filter found⟩
  | restoreDurableState durable =>
      rw [stored, (find?_of_restore ok).2, Option.map_map] at found
      obtain ⟨link, listed, rfl⟩ := Option.map_eq_some_iff.mp found
      refine .inl ?_
      simp only [brings, listed, Option.map_some, Function.comp_apply, field.read_stamp,
        field.read_lapsed]
  | markDynamicEvidenceRevalidationRequired =>
      obtain rfl := Except.ok.inj ok
      rw [markDynamicEvidenceRevalidationRequired, stored_commit] at found
      exact stored_lapsed found
  | upsertDevice | updateDeviceHealth | advanceTopology | publishObservation
  | publishMeasurement =>
      refine .inr ⟨rfl, ?_⟩
      rcases links_of_ok rfl ok with same | ⟨generation, same⟩
      · rwa [stored, same] at found
      · rwa [stored, same, stored_mapValues_stamp] at found

/-- What a stored link says is what the last accepted call that wrote it brought along. -/
theorem written_last (field : LinkField β) (limits : Limits)
    (calls : List Call) {id : LinkId} {link : LinkRecord}
    (found : (run limits .initial calls).links.find? id = some link) :
    WrittenLast (step limits) (field.submits limits id) .initial calls
      (field.read link) := by
  have kept (state : State) (call : Call) (value : β)
      (after : field.stored id (step limits state call) = some value) :
      field.submits limits id state call = some value ∨
        field.submits limits id state call = none ∧
        field.stored id state = some value := by
    cases result : apply limits call state with
    | error error =>
        rw [step_of_apply_error result] at after
        exact .inr ⟨by rw [submits, accepted_of_error result]; rfl, after⟩
    | ok next =>
        rw [step_of_apply_ok result] at after
        rw [submits, accepted_of_ok result, if_pos rfl]
        exact stored_ok result after
  have read : field.stored id (run limits .initial calls) = some (field.read link) := by
    rw [stored, found, Option.map_some]
  exact writtenLast_of_reads rfl kept calls read

end LinkField

/-- Every measurement in the history was published by some call, with the ends and the
evidence it has now. -/
theorem measurement_published (limits : Limits) (calls : List Call)
    {measurement : MeasurementRecord}
    (member : measurement ∈ (run limits .initial calls).measurementHistory) :
    ∃ call ∈ calls, ∃ published, publishes call = some published ∧
      ∃ lapsed, measurement = keep lapsed published := by
  induction calls using List.reverseRecOn generalizing measurement with
  | nil => simp [State.initial] at member
  | append_singleton calls call ih =>
      have earlier {old : MeasurementRecord}
          (stored : old ∈ (run limits .initial calls).measurementHistory) :
          ∃ call' ∈ calls ++ [call], ∃ published, publishes call' = some published ∧
            ∃ lapsed, old = keep lapsed published := by
        obtain ⟨other, before, found⟩ := ih stored
        exact ⟨other, List.mem_append_left _ before, found⟩
      rw [run, run_append, run_cons, run_nil, step_measurementHistory] at member
      split at member
      next published made =>
        rcases BoundedQueue.mem_of_mem_push member with old | rfl
        · exact earlier old
        · exact ⟨call, by simp, published, made, false, rfl⟩
      · split at member
        · simp at member
        · split at member
          · obtain ⟨old, stored, rfl⟩ := List.mem_map.mp member
            obtain ⟨other, before, published, made, lapsed, rfl⟩ := earlier stored
            exact ⟨other, before, published, made, true, keep_keep _ _ _⟩
          · exact earlier member

end NvlinkFabric.Registry

import NvlinkFabric.Registry.Effects

/-!
# The measurement history as the recent past

`entryAt` reads off a list of calls what the history must hold for the publication
at one position: nothing once a restore succeeded after it, and otherwise the
measurement as published, lapsed if its authority was marked as lapsed after it.
The history of a run is the end of that list which the bound leaves room for.
-/

namespace NvlinkFabric.Registry

open Transition

variable {limits : Limits} {state : State} {call : Call} {calls : List Call}

/-- `recent_measurements`. -/
def recentMeasurements (limit : Nat) (state : State) : List MeasurementRecord :=
  if limit = 0 then []
  else
    let take := min limit state.measurementHistory.length
    state.measurementHistory.drop (state.measurementHistory.length - take)

theorem recentMeasurements_eq_rtake (limit : Nat) (state : State) :
    recentMeasurements limit state = state.measurementHistory.rtake limit := by
  simp only [recentMeasurements, List.rtake]
  split
  next none => simp [none]
  · congr 1
    omega

/-- The measurement a call publishes, under the identity it is stored with. -/
def publishes (call : Call) : Option MeasurementRecord :=
  match call.operation with
  | .publishMeasurement measurement =>
      some { measurement with
        id := if measurement.id.isNil then call.ambient.measurementId
          else measurement.id }
  | _ => none

/-- The call marks all dynamic evidence as lapsed. -/
def marks (call : Call) : Bool :=
  match call.operation with
  | .markDynamicEvidenceRevalidationRequired => true
  | _ => false

/-- The call restores a durable state and succeeds. -/
def restores (limits : Limits) (state : State) (call : Call) : Bool :=
  match call.operation with
  | .restoreDurableState _ => accepted limits call state
  | _ => false

/-- Some call of the list restores a durable state. -/
def restoresIn (limits : Limits) : State → List Call → Bool
  | _, [] => false
  | state, call :: calls =>
      restores limits state call || restoresIn limits (step limits state call) calls

theorem restoresIn_append (state : State) (first second : List Call) :
    restoresIn limits state (first ++ second) =
      (restoresIn limits state first || restoresIn limits
        (run limits state first) second) := by
  induction first generalizing state with
  | nil => simp [restoresIn]
  | cons call first ih => simp [restoresIn, ih, Bool.or_assoc]

/-- A measurement as it is kept: both flags tell whether its authority lapsed. -/
def keep (lapsed : Bool) (measurement : MeasurementRecord) : MeasurementRecord :=
  { measurement with stale := lapsed, revalidationRequired := lapsed }

@[simp] theorem keep_keep (first second : Bool) (measurement : MeasurementRecord) :
    keep second (keep first measurement) = keep second measurement := rfl

/-- A publication neither marks nor restores. -/
theorem quiet_of_publishes (limits : Limits) (state : State)
    {measurement : MeasurementRecord} (published : publishes call = some measurement) :
    restores limits state call = false ∧ marks call = false := by
  cases call with
  | mk operation ambient =>
      cases operation with
      | publishMeasurement other => exact ⟨rfl, rfl⟩
      | _ => simp [publishes] at published

/-- What a call does to the history. -/
theorem step_measurementHistory (state : State) (call : Call) :
    (step limits state call).measurementHistory =
      match publishes call with
      | some measurement =>
          BoundedQueue.push limits.maxMeasurementHistory state.measurementHistory
            (keep false measurement)
      | none =>
          if restores limits state call then []
          else if marks call then state.measurementHistory.map (keep true)
          else state.measurementHistory := by
  cases call with
  | mk operation ambient =>
      cases result : apply limits ⟨operation, ambient⟩ state with
      | error error =>
          rw [step_of_apply_error result]
          cases operation with
          | publishMeasurement measurement => simp [apply, publishMeasurement] at result
          | markDynamicEvidenceRevalidationRequired => simp [apply] at result
          | restoreDurableState durable =>
              simp [publishes, restores, marks, accepted_of_error result]
          | _ => rfl
      | ok next =>
          rw [step_of_apply_ok result]
          cases operation with
          | upsertDevice device =>
              obtain ⟨-, -, ⟨-, rfl⟩ | ⟨-, -, observation, rfl⟩ |
                ⟨current, -, -, observation, rfl⟩⟩ := upsertDevice_ok result <;> rfl
          | removeDevice device =>
              obtain ⟨-, observation, rfl⟩ := removeDevice_ok result
              rfl
          | upsertLink link =>
              obtain ⟨-, ⟨-, rfl⟩ | ⟨-, observation, rfl⟩ |
                ⟨current, -, -, observation, rfl⟩⟩ := upsertLink_ok result <;> rfl
          | removeLink link =>
              obtain ⟨current, -, observation, rfl⟩ := removeLink_ok result
              rfl
          | updateLinkState link linkState evidence degraded note =>
              obtain ⟨current, -, observation, rfl⟩ := updateLinkState_ok result
              rfl
          | updateDeviceHealth device health evidence =>
              obtain ⟨current, -, observation, rfl⟩ := updateDeviceHealth_ok result
              rfl
          | restoreDurableState durable =>
              simp only [publishes, restores, accepted_of_ok result, if_true]
              obtain ⟨-, devices, links, observation, -, -, rfl⟩ :=
                restoreDurableState_ok result
              rfl
          | advanceTopology evidence | publishObservation observation
          | publishMeasurement measurement | markDynamicEvidenceRevalidationRequired =>
              obtain rfl := Except.ok.inj result
              rfl

/-! ## The list of publications -/

/-- What the run keeps of the publication at a position, if there was one. -/
def entryAt (limits : Limits) (calls : List Call) (index : Nat) :
    Option MeasurementRecord :=
  if restoresIn limits (run limits .initial (calls.take (index + 1)))
    (calls.drop (index + 1))
  then none
  else (calls[index]?.bind publishes).map (keep ((calls.drop (index + 1)).any marks))

theorem entryAt_eq_some_iff {index : Nat} {measurement : MeasurementRecord} :
    entryAt limits calls index = some measurement ↔
      restoresIn limits (run limits .initial (calls.take (index + 1)))
          (calls.drop (index + 1)) = false ∧
        ∃ published, calls[index]?.bind publishes = some published ∧
          keep ((calls.drop (index + 1)).any marks) published = measurement := by
  rw [entryAt]
  cases restoresIn limits (run limits .initial (calls.take (index + 1)))
      (calls.drop (index + 1)) with
  | true => simp
  | false => rw [if_neg Bool.false_ne_true, Option.map_eq_some_iff, eq_self, true_and]

/-- All publications that no restore followed, in order. -/
def publicationsKept (limits : Limits) (calls : List Call) : List MeasurementRecord :=
  (List.range calls.length).filterMap (entryAt limits calls)

/-- A later call leaves an entry alone, lapses it or drops it. -/
theorem entryAt_append {index : Nat} (earlier : index < calls.length) (call : Call) :
    entryAt limits (calls ++ [call]) index =
      if restores limits (run limits .initial calls) call then none
      else if marks call then (entryAt limits calls index).map (keep true)
      else entryAt limits calls index := by
  have before : (calls ++ [call]).take (index + 1) = calls.take (index + 1) :=
    List.take_append_of_le_length earlier
  have after : (calls ++ [call]).drop (index + 1) = calls.drop (index + 1) ++ [call] :=
    List.drop_append_of_le_length earlier
  have whole : run limits (run limits .initial (calls.take (index + 1)))
      (calls.drop (index + 1)) = run limits .initial calls := by
    rw [run, run, ← run_append, List.take_append_drop]
  rw [entryAt, entryAt, before, after, restoresIn_append, whole,
    List.getElem?_append_left earlier, List.any_append]
  cases restored : restoresIn limits (run limits .initial (calls.take (index + 1)))
      (calls.drop (index + 1)) with
  | true => simp
  | false =>
      cases now : restores limits (run limits .initial calls) call with
      | true => simp [restoresIn, now]
      | false =>
          cases marked : marks call <;>
            simp [restoresIn, now, marked, Function.comp_def]

/-- The entry of the last call. -/
theorem entryAt_last (calls : List Call) (call : Call) :
    entryAt limits (calls ++ [call]) calls.length =
      (publishes call).map (keep false) := by
  simp [entryAt, restoresIn]

theorem publicationsKept_append (calls : List Call) (call : Call) :
    publicationsKept limits (calls ++ [call]) =
      match publishes call with
      | some measurement => publicationsKept limits calls ++ [keep false measurement]
      | none =>
          if restores limits (run limits .initial calls) call then []
          else if marks call then (publicationsKept limits calls).map (keep true)
          else publicationsKept limits calls := by
  have extended : publicationsKept limits (calls ++ [call]) =
      (List.range calls.length).filterMap (fun index =>
        if restores limits (run limits .initial calls) call then none
        else if marks call then (entryAt limits calls index).map (keep true)
        else entryAt limits calls index) ++
          ((publishes call).map (keep false)).toList := by
    rw [publicationsKept, List.length_append, List.length_singleton, List.range_succ,
      List.filterMap_append]
    congr 1
    · apply List.filterMap_congr
      intro index member
      exact entryAt_append (List.mem_range.mp member) call
    · cases published : publishes call <;> simp [entryAt_last, published]
  rw [extended]
  cases published : publishes call with
  | some measurement =>
      obtain ⟨notRestored, notMarked⟩ :=
        quiet_of_publishes limits (run limits .initial calls) published
      simp [notRestored, notMarked, publicationsKept]
  | none =>
      cases restored : restores limits (run limits .initial calls) call with
      | true => simp
      | false =>
          cases marked : marks call with
          | true => simp [publicationsKept, List.map_filterMap]
          | false => simp [publicationsKept]

/-- The history of a run holds the last of its publications, as far as the bound goes. -/
theorem measurementHistory_eq (limits : Limits) (calls : List Call) :
    (run limits .initial calls).measurementHistory =
      (publicationsKept limits calls).rtake limits.maxMeasurementHistory := by
  induction calls using List.reverseRecOn with
  | nil => simp [publicationsKept, State.initial]
  | append_singleton calls call ih =>
      rw [run, run_append, run_cons, run_nil, step_measurementHistory,
        publicationsKept_append, ih]
      cases published : publishes call with
      | some measurement => exact BoundedQueue.push_rtake _ _ _
      | none =>
          simp only
          split
          · simp
          split
          · simp [List.rtake]
          · rfl

/-- Positions of the publications that no restore followed. -/
def publicationPositions (limits : Limits) (calls : List Call) : List Nat :=
  (List.range calls.length).filter fun index => (entryAt limits calls index).isSome

/-- Positions of the publications that the history still holds. -/
def keptPositions (limits : Limits) (calls : List Call) : List Nat :=
  (publicationPositions limits calls).rtake limits.maxMeasurementHistory

/-- Dropping positions that hold something drops as many values. -/
theorem filterMap_drop {α β : Type} {value : α → Option β} {positions : List α}
    (hold : ∀ position ∈ positions, (value position).isSome = true) (count : Nat) :
    (positions.drop count).filterMap value = (positions.filterMap value).drop count := by
  induction positions generalizing count with
  | nil => simp
  | cons position positions ih =>
      cases count with
      | zero => rfl
      | succ count =>
          obtain ⟨first, found⟩ :=
            Option.isSome_iff_exists.mp (hold position List.mem_cons_self)
          rw [List.drop_succ_cons, List.filterMap_cons_some found, List.drop_succ_cons]
          exact ih (fun other member => hold other (List.mem_cons_of_mem _ member)) count

theorem filterMap_rtake {α β : Type} {value : α → Option β} {positions : List α}
    (hold : ∀ position ∈ positions, (value position).isSome = true) (count : Nat) :
    (positions.rtake count).filterMap value =
      (positions.filterMap value).rtake count := by
  have sizes : (positions.filterMap value).length = positions.length := by
    rw [List.length_filterMap_eq_countP, List.countP_eq_length]
    exact hold
  rw [List.rtake, List.rtake, filterMap_drop hold, sizes]

theorem measurementHistory_eq_positions (limits : Limits) (calls : List Call) :
    (run limits .initial calls).measurementHistory =
      (keptPositions limits calls).filterMap (entryAt limits calls) := by
  rw [measurementHistory_eq, keptPositions, filterMap_rtake, publicationPositions,
    List.filterMap_filter]
  · congr 1
    apply List.filterMap_congr
    intro index _
    cases entryAt limits calls index <;> simp
  · intro position member
    exact (List.mem_filter.mp member).2

theorem publicationPositions_append (calls : List Call) (call : Call) :
    publicationPositions limits (calls ++ [call]) =
      (if restores limits (run limits .initial calls) call then []
        else publicationPositions limits calls) ++
        if (publishes call).isSome then [calls.length] else [] := by
  rw [publicationPositions, List.length_append, List.length_singleton, List.range_succ,
    List.filter_append]
  congr 1
  · have earlier : ∀ index ∈ List.range calls.length,
        (entryAt limits (calls ++ [call]) index).isSome =
          (!restores limits (run limits .initial calls) call &&
            (entryAt limits calls index).isSome) := by
      intro index member
      rw [entryAt_append (List.mem_range.mp member)]
      split
      next restored => simp [restored]
      next kept =>
        split
        · simp [kept]
        · simp [kept]
    rw [List.filter_congr earlier]
    split
    next restored => simp [restored]
    next kept => simp [kept, publicationPositions]
  · simp [entryAt_last, List.filter_cons]

/-- A call drops positions at the front and adds its own at most. -/
theorem mem_keptPositions_of_append {index : Nat} (earlier : index < calls.length)
    (kept : index ∈ keptPositions limits (calls ++ [call])) :
    index ∈ keptPositions limits calls := by
  rw [keptPositions, publicationPositions_append] at kept
  split at kept
  · have inside := List.mem_of_mem_drop kept
    split at inside
    · have last : index = calls.length := by simpa using inside
      omega
    · simp at inside
  · split at kept
    · cases bound : limits.maxMeasurementHistory with
      | zero => simp [bound] at kept
      | succ count =>
          rw [bound, List.rtake_concat_succ, List.mem_append, List.mem_singleton] at kept
          rcases kept with old | last
          · rw [keptPositions, bound]
            exact List.drop_subset_drop_left _ (by omega) old
          · omega
    · rwa [List.append_nil] at kept

/-- What is kept at the end of a run was kept throughout. -/
theorem mem_keptPositions_of_initialPart {before : List Call} (reached : before <+: calls)
    {index : Nat} (earlier : index < before.length)
    (kept : index ∈ keptPositions limits calls) :
    index ∈ keptPositions limits before := by
  obtain ⟨after, rfl⟩ := reached
  induction after using List.reverseRecOn with
  | nil => simpa using kept
  | append_singleton after call ih =>
      rw [← List.append_assoc] at kept
      apply ih
      apply mem_keptPositions_of_append _ kept
      rw [List.length_append]
      omega

/-- An entry that has not lapsed was the same from its publication on. -/
theorem entryAt_of_initialPart {before : List Call}
    (reached : before <+: calls) {index : Nat} (earlier : index < before.length)
    {measurement : MeasurementRecord} (fresh : measurement.stale = false)
    (entry : entryAt limits calls index = some measurement) :
    entryAt limits before index = some measurement := by
  obtain ⟨after, rfl⟩ := reached
  induction after using List.reverseRecOn with
  | nil => simpa using entry
  | append_singleton after call ih =>
      rw [← List.append_assoc,
        entryAt_append (by rw [List.length_append]; omega)] at entry
      split at entry
      · simp at entry
      split at entry
      · obtain ⟨earlierEntry, -, rfl⟩ := Option.map_eq_some_iff.mp entry
        exact absurd fresh.symm Bool.false_ne_true
      · exact ih entry

end NvlinkFabric.Registry

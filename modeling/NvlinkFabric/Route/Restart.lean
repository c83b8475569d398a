import NvlinkFabric.Route.Invalidation
import NvlinkFabric.Registry.Restore

/-!
# Decisions across a restart

A registry that restores a captured state resumes one generation past the
captured one.  The registry that was captured may have moved on as well, and
then the two histories use the same generation numbers.  A decision taken no
later than the capture is never accepted again; a later one is accepted by some
continuation of the restored registry, unless it was taken exactly one
generation later and an endpoint had changed meanwhile.
-/

namespace NvlinkFabric.Registry

open Transition

variable {limits : Limits} {state : State} {call : Call} {calls : List Call}

/-- The call wraps no counter. -/
def WrapFree (limits : Limits) (state : State) (call : Call) : Prop :=
  Unwrapped (step limits state call)

instance (limits : Limits) (state : State) (call : Call) :
    Decidable (WrapFree limits state call) :=
  inferInstanceAs (Decidable (Unwrapped _))

theorem WrapFree.noWrap (free : WrapFree limits state call) : NoWrap limits state call :=
  fun _ => free.1

/-- No counter is zero in a state that a run without wraps ends in. -/
theorem unwrapped_run (free : Along (step limits) (WrapFree limits) .initial calls) :
    Unwrapped (run limits .initial calls) := by
  have initially : Unwrapped State.initial := by decide
  have preserved : ∀ state call, WrapFree limits state call → Unwrapped state →
      Unwrapped (step limits state call) := fun _ _ free _ => free
  exact invariant_along preserved initially free

theorem isRouteExecutable_iff {decision : RouteDecision}
    (tables : Tables limits state.devices state.links) :
    isRouteExecutable decision state = true ↔
      decision.executable = true ∧ state.topologyGen = decision.topologyGeneration ∧
        generationOf state decision.source = some decision.sourceGeneration ∧
        generationOf state decision.target = some decision.targetGeneration := by
  simp only [isRouteExecutable, Bool.and_eq_true, decide_eq_true_eq]
  simp only [consistentView, buildSnapshot_generation, findDevice_buildSnapshot tables,
    generationOf]
  refine and_congr_right fun _ => and_congr_right fun _ => ?_
  cases state.devices.find? decision.source <;>
    cases state.devices.find? decision.target <;> simp

/-- An executable decision is accepted exactly where the generations it was
taken from are found again. -/
theorem accepts_iff_same_generations {ambient : Ambient} {source target : DeviceId}
    {policy : RoutePolicy} {taken : State} {decision : RouteDecision} {other : Limits}
    (takenTables : Tables limits taken.devices taken.links)
    (decided : decideRoute limits ambient source target policy taken = .ok decision)
    (executable : decision.executable = true)
    (tables : Tables other state.devices state.links) :
    isRouteExecutable decision state = true ↔
      state.topologyGen = taken.topologyGen ∧
        generationOf state source = generationOf taken source ∧
        generationOf state target = generationOf taken target := by
  have accepted := isRouteExecutable_decided decided
  rw [executable, isRouteExecutable_iff takenTables] at accepted
  obtain ⟨-, generation, sourceGeneration, targetGeneration⟩ := accepted
  have justified := justified_of_executable decided executable
  rw [justified.source_eq] at sourceGeneration
  rw [justified.target_eq] at targetGeneration
  rw [isRouteExecutable_iff tables, justified.source_eq, justified.target_eq, generation,
    sourceGeneration, targetGeneration]
  simp [executable]

/-- The endpoints of an executable decision are stored and distinct. -/
theorem endpoints_of_executable {ambient : Ambient} {source target : DeviceId}
    {policy : RoutePolicy} {taken : State} {decision : RouteDecision}
    (tables : Tables limits taken.devices taken.links)
    (decided : decideRoute limits ambient source target policy taken = .ok decision)
    (executable : decision.executable = true) :
    source ≠ target ∧ (∃ device, (source, device) ∈ taken.devices.entries) ∧
      ∃ device, (target, device) ∈ taken.devices.entries := by
  have justified := justified_of_executable decided executable
  obtain ⟨sourceDevice, sourceFound, -⟩ := justified.source_found
  obtain ⟨targetDevice, targetFound, -⟩ := justified.target_found
  rw [findDevice_buildSnapshot tables, FiniteMap.find?_eq_some] at sourceFound targetFound
  refine ⟨?_, ⟨_, sourceFound⟩, ⟨_, targetFound⟩⟩
  rintro rfl
  obtain ⟨best, selected, -⟩ := justified.best_selected
  have enumerated := (selectBest_spec selected).1
  simp [enumeratePathsImpl] at enumerated

/-- The call that restores a durable state. -/
def restoring (durable : DurableState) (ambient : Ambient) : Call :=
  ⟨.restoreDurableState durable, ambient⟩

/-- A fresh registry takes over every valid generation. -/
theorem resumed_generation {generation : TopologyGeneration}
    (positive : generation.value ≠ 0) :
    (if generation > State.initial.topologyGen then generation
      else State.initial.topologyGen) = generation := by
  split
  · rfl
  next notAbove =>
    rw [gt_iff_lt, Generation.lt_iff] at notAbove
    have nonZero : generation.value.toNat ≠ 0 := by
      simpa [← UInt64.toNat_inj] using positive
    have initial : State.initial.topologyGen.value.toNat = 1 := rfl
    apply Generation.ext_toNat
    omega

/-- A fresh registry resumes one generation past the capture, with the captured
device generations. -/
theorem restored_capture {captured : State} {saved ambient : Ambient} {other : Limits}
    (tables : Tables limits captured.devices captured.links)
    (unwrapped : Unwrapped captured)
    (ok : accepted other
      (restoring (captureDurableState saved captured) ambient) .initial =
      true) :
    (step other .initial
      (restoring (captureDurableState saved captured) ambient)).topologyGen =
        captured.topologyGen.next ∧
      ∀ id, generationOf
        (step other .initial (restoring (captureDurableState saved captured) ambient))
          id =
          generationOf captured id := by
  cases result : apply other (restoring (captureDurableState saved captured) ambient)
      .initial with
  | error error => simp [accepted_of_error result] at ok
  | ok next =>
      rw [step_of_apply_ok result]
      have deviceOf := (find?_of_restore result).1
      obtain ⟨-, devices, links, observation, -, -, rfl⟩ := restoreDurableState_ok result
      refine ⟨?_, fun id => ?_⟩
      · exact congrArg Generation.next (resumed_generation unwrapped.1)
      · rw [generationOf, generationOf, deviceOf, find?_captured_device tables,
          Option.map_map]
        congr 1
        funext device
        simp

theorem resumed_below {current goal : TopologyGeneration} (below : current < goal) :
    (if (⟨goal.value - 1⟩ : TopologyGeneration) > current then ⟨goal.value - 1⟩
      else current).next = goal := by
  rw [Generation.lt_iff] at below
  have bound := goal.value.toNat_lt
  have before : (goal.value - 1).toNat = goal.value.toNat - 1 := by
    rw [UInt64.toNat_sub_of_le _ _ (UInt64.le_iff_toNat_le.mpr (by simp; omega))]
    simp
  apply Generation.ext_toNat
  rw [Generation.toNat_next]
  split
  next above =>
    simp only [before]
    omega
  next notAbove =>
    simp only [gt_iff_lt, Generation.lt_iff, before] at notAbove
    omega

/-- Durable devices without links are restored if each of them is. -/
theorem restoreDurableState_devices_ok {durable : DurableState}
    {devices : FiniteMap DeviceId DeviceRecord}
    (version : durable.formatVersion = durableFormatVersion)
    (noLinks : durable.links = [])
    (devicesOk : durable.devices.foldlM (restoreDevice limits) FiniteMap.empty =
      .ok devices) :
    ∃ restored, restoreDurableState limits {} durable state = .ok restored := by
  simp [restoreDurableState, version, devicesOk, noLinks, bind, Except.bind, pure,
    Except.pure]

/-- A registry that has not passed `generation` can reach it in one restore, with
any two valid devices. -/
theorem restore_reaches {taken : State} {source target : DeviceId}
    (takenTables : Tables limits taken.devices taken.links) (unwrapped : Unwrapped taken)
    (distinct : source ≠ target)
    {sourceDevice targetDevice : DeviceRecord}
    (sourceMem : (source, sourceDevice) ∈ taken.devices.entries)
    (targetMem : (target, targetDevice) ∈ taken.devices.entries)
    (below : state.topologyGen < taken.topologyGen) :
    ∃ durable, WrapFree limits state (restoring durable {}) ∧
      (step limits state (restoring durable {})).topologyGen = taken.topologyGen ∧
      generationOf (step limits state (restoring durable {})) source =
        generationOf taken source ∧
      generationOf (step limits state (restoring durable {})) target =
        generationOf taken target := by
  let durable : DurableState :=
    { topologyGeneration := ⟨taken.topologyGen.value - 1⟩
      devices := [sourceDevice, targetDevice] }
  obtain ⟨sourceId, sourceNonNil⟩ := takenTables.device_key sourceMem
  obtain ⟨targetId, targetNonNil⟩ := takenTables.device_key targetMem
  have room : 2 ≤ limits.maxDevices := by
    have stored : ∀ key ∈ [source, target], ∃ device,
        (key, device) ∈ taken.devices.entries := by
      simp only [List.mem_cons, List.not_mem_nil, or_false]
      rintro key (rfl | rfl)
      · exact ⟨_, sourceMem⟩
      · exact ⟨_, targetMem⟩
    exact (FiniteMap.length_le_size (by simpa using distinct) stored).trans
      takenTables.device_count
  obtain ⟨devices, devicesOk⟩ : ∃ devices,
      durable.devices.foldlM (restoreDevice limits) FiniteMap.empty = .ok devices := by
    apply foldlM_restoreDevice_ok
    · simp only [durable, List.mem_cons, List.not_mem_nil, or_false]
      rintro record (rfl | rfl)
      · exact ⟨sourceId ▸ sourceNonNil, unwrapped.2.1 _ sourceMem⟩
      · exact ⟨targetId ▸ targetNonNil, unwrapped.2.1 _ targetMem⟩
    · simpa [durable] using room
  obtain ⟨restored, ok⟩ := restoreDurableState_devices_ok rfl rfl devicesOk
  have applied : apply limits (restoring durable {}) state = .ok restored := ok
  have free := unwrapped_of_restore ok
  obtain ⟨-, stored, links, observation, storedOk, -, rfl⟩ := restoreDurableState_ok ok
  obtain rfl : devices = stored := by simpa [devicesOk] using storedOk
  have resumed : (if durable.topologyGeneration > state.topologyGen then
      durable.topologyGeneration else state.topologyGen).next = taken.topologyGen :=
    resumed_below below
  rw [advance_topologyGen, resumed] at free
  refine ⟨durable, ?_, ?_⟩
  · rw [WrapFree, step_of_apply_ok applied]
    exact free unwrapped.1
  · rw [step_of_apply_ok applied]
    have kept {id : DeviceId} {device : DeviceRecord}
        (listed : durable.devices.find? (·.id = id) = some device)
        (current : (id, device) ∈ taken.devices.entries) :
        (devices.find? id).map (·.generation) = generationOf taken id := by
      rw [find?_foldlM_restoreDevice devicesOk, listed, generationOf,
        FiniteMap.find?_eq_some.mpr current]
    refine ⟨resumed, ?_, ?_⟩
    · simpa [generationOf, Function.comp_def] using
        kept (by simp [durable, sourceId]) sourceMem
    · simpa [generationOf, Function.comp_def] using
        kept (by simp [durable, sourceId, targetId, distinct]) targetMem

/-! ## Acceptance after a restart -/

/-- Some registry that restores the durable state accepts the decision after
some further calls, without a counter wrapping on the way. -/
def AcceptedAfterRestart (durable : DurableState) (decision : RouteDecision) : Prop :=
  ∃ (limits : Limits) (ambient : Ambient) (later : List Call),
    accepted limits (restoring durable ambient) .initial = true ∧
    Along (step limits) (WrapFree limits) .initial (restoring durable ambient :: later) ∧
    isRouteExecutable decision
      (run limits .initial (restoring durable ambient :: later)) = true

/-- The decision was not executable, was taken no later than the capture, or was
taken one generation later from an endpoint that had changed since. -/
def RevokedByRestart (captured taken : State) (source target : DeviceId)
    (decision : RouteDecision) : Prop :=
  decision.executable = false ∨ taken.topologyGen ≤ captured.topologyGen ∨
    (taken.topologyGen = captured.topologyGen.next ∧
      ¬(generationOf captured source = generationOf taken source ∧
        generationOf captured target = generationOf taken target))

section Restart

variable {captured taken : State} {source target : DeviceId} {policy : RoutePolicy}
variable {ambient saved : Ambient} {decision : RouteDecision}
variable (capturedConsistent : Consistent limits captured)
variable (takenConsistent : Consistent limits taken)
variable (capturedUnwrapped : Unwrapped captured)
variable (decided : decideRoute limits ambient source target policy taken = .ok decision)

include capturedConsistent takenConsistent capturedUnwrapped decided

theorem not_acceptedAfterRestart
    (revoked : RevokedByRestart captured taken source target decision) :
    ¬AcceptedAfterRestart (captureDurableState saved captured) decision := by
  rintro ⟨other, restore, later, ok, ⟨first, rest⟩, accepted⟩
  have executable : decision.executable = true := by
    simp only [isRouteExecutable, Bool.and_eq_true] at accepted
    exact accepted.1
  obtain ⟨generation, devices⟩ :=
    restored_capture capturedConsistent.tables capturedUnwrapped ok
  have fresh : Reachable other
      (step other .initial (restoring (captureDurableState saved captured) restore)) :=
    (Reachable.refl (step other) State.initial).next _
  have consistent := consistent_of_reachable (fresh.trans_run later)
  rw [run, run_cons,
    accepts_iff_same_generations takenConsistent.tables decided executable
    consistent.tables] at accepted
  obtain ⟨sameGeneration, sameSource, sameTarget⟩ := accepted
  have noWrap := rest.mono _ fun _ _ => WrapFree.noWrap
  have resumed : captured.topologyGen.next.value.toNat =
      captured.topologyGen.value.toNat + 1 :=
    Generation.toNat_next_of_ne_zero (generation ▸ first.1)
  have atLeast := run_generation_le noWrap
  rw [sameGeneration, generation, Generation.le_iff, resumed] at atLeast
  rcases revoked with notExecutable | before | ⟨following, changed⟩
  · simp [notExecutable] at executable
  · rw [Generation.le_iff] at before
    omega
  · by_cases quiet : Along (step other) (Quiet other)
        (step other .initial (restoring (captureDurableState saved captured) restore))
          later
    · obtain ⟨-, sameDevices⟩ := run_quiet quiet
      apply changed
      rw [← devices source, ← devices target, ← sameSource, ← sameTarget]
      simp only [generationOf]
      rw [← sameDevices]
      exact ⟨rfl, rfl⟩
    · have above := run_generation_lt noWrap quiet
      rw [sameGeneration, generation, following, Generation.lt_iff] at above
      omega

theorem acceptedAfterRestart (takenUnwrapped : Unwrapped taken)
    (notRevoked : ¬RevokedByRestart captured taken source target decision) :
    AcceptedAfterRestart (captureDurableState saved captured) decision := by
  simp only [RevokedByRestart, not_or, Bool.not_eq_false] at notRevoked
  obtain ⟨executable, after, unchanged⟩ := notRevoked
  rw [Generation.le_iff, not_le] at after
  have bound := taken.topologyGen.value.toNat_lt
  have next : captured.topologyGen.next.value.toNat =
      captured.topologyGen.value.toNat + 1 := by
    rw [Generation.toNat_next]
    omega
  obtain ⟨restored, ok⟩ : ∃ restored, apply limits
      (restoring (captureDurableState saved captured) {}) .initial = .ok restored :=
    restore_capture_ok capturedConsistent.tables capturedUnwrapped {} State.initial
  have restoredOk : accepted limits (restoring (captureDurableState saved captured) {})
      .initial = true := accepted_of_ok ok
  obtain ⟨generation, devices⟩ :=
    restored_capture capturedConsistent.tables capturedUnwrapped restoredOk
  have fresh : Reachable limits
      (step limits .initial (restoring (captureDurableState saved captured) {})) :=
    (Reachable.refl (step limits) State.initial).next _
  have free : WrapFree limits .initial
      (restoring (captureDurableState saved captured) {}) := by
    rw [WrapFree, step_of_apply_ok ok]
    refine unwrapped_of_restore ok fun wrapped => ?_
    rw [← step_of_apply_ok ok, generation] at wrapped
    simp [wrapped] at next
  refine ⟨limits, {}, ?_⟩
  by_cases following : taken.topologyGen = captured.topologyGen.next
  · refine ⟨[], restoredOk, ⟨free, trivial⟩, ?_⟩
    obtain ⟨sameSource, sameTarget⟩ :=
      not_not.mp fun changed => unchanged ⟨following, changed⟩
    rw [run, run_cons, run_nil,
      accepts_iff_same_generations takenConsistent.tables decided
      executable (consistent_of_reachable fresh).tables]
    exact ⟨generation.trans following.symm, (devices source).trans sameSource,
      (devices target).trans sameTarget⟩
  · obtain ⟨distinct, ⟨sourceDevice, sourceMem⟩, ⟨targetDevice, targetMem⟩⟩ :=
      endpoints_of_executable takenConsistent.tables decided executable
    have below : (step limits .initial
        (restoring (captureDurableState saved captured) {})).topologyGen <
          taken.topologyGen := by
      have different : taken.topologyGen.value.toNat ≠
          captured.topologyGen.next.value.toNat :=
        fun equal => following (Generation.ext_toNat equal)
      rw [generation, Generation.lt_iff]
      omega
    obtain ⟨durable, secondFree, reached⟩ := restore_reaches takenConsistent.tables
      takenUnwrapped distinct sourceMem targetMem below
    refine ⟨[restoring durable {}], restoredOk, ⟨free, secondFree, trivial⟩, ?_⟩
    rw [run, run_cons, run_cons, run_nil, accepts_iff_same_generations
      takenConsistent.tables decided executable
      (consistent_of_reachable (fresh.next _)).tables]
    exact reached

end Restart

/-- A decision taken anywhere in a history is refused by every registry restored
from a state of that history exactly if the restart revoked it. -/
theorem restart_refuses_iff (limits : Limits) (history : List Call)
    (wrapFree : Along (step limits) (WrapFree limits) .initial history)
    (savedAt decidedAt : Nat) (saved ambient : Ambient) (source target : DeviceId)
    (policy : RoutePolicy) (decision : RouteDecision)
    (decided : decideRoute limits ambient source target policy
      (run limits .initial (history.take decidedAt)) = .ok decision) :
    ¬AcceptedAfterRestart
        (captureDurableState saved (run limits .initial (history.take savedAt)))
          decision ↔
      RevokedByRestart (run limits .initial (history.take savedAt))
        (run limits .initial (history.take decidedAt)) source target decision := by
  have consistent (calls : List Call) : Consistent limits (run limits .initial calls) :=
    consistent_of_reachable ⟨calls, rfl⟩
  have unwrapped (count : Nat) : Unwrapped (run limits .initial (history.take count)) :=
    unwrapped_run (wrapFree.take _ count)
  refine ⟨fun refused => by_contra fun notRevoked => refused ?_, fun revoked => ?_⟩
  · exact acceptedAfterRestart (consistent _) (consistent _) (unwrapped _) decided
      (unwrapped _) notRevoked
  · exact not_acceptedAfterRestart (consistent _) (consistent _) (unwrapped _)
      decided revoked

/-- The published topology, captured before one more advance. -/
def advancedHistory : List Call := Worker.publication ⟨1⟩ ++ [⟨.advanceTopology {}, {}⟩]

theorem published_decision_revoked :
    ∃ decision, decideRoute {} {} Worker.sourceId Worker.targetId .defaultPolicy
        (run {} .initial (advancedHistory.take 3)) = .ok decision ∧
      decision.executable = true ∧
      ¬AcceptedAfterRestart
        (captureDurableState {} (run {} .initial (advancedHistory.take 3))) decision := by
  have executable : (decideRoute {} {} Worker.sourceId Worker.targetId .defaultPolicy
      (run {} .initial (advancedHistory.take 3))).toOption.map (·.executable) =
        some true := by decide +kernel
  obtain ⟨decision, decided⟩ := decideRoute_total {} {} Worker.sourceId Worker.targetId
    .defaultPolicy (run {} .initial (advancedHistory.take 3))
  simp only [decided, Except.toOption, Option.map_some, Option.some.injEq] at executable
  refine ⟨decision, decided, executable, ?_⟩
  exact (restart_refuses_iff {} advancedHistory (by decide +kernel) 3 3 {} {}
    _ _ _ decision
    decided).mpr (.inr (.inl (by decide +kernel)))

/-- A decision taken after the capture is accepted by the restored registry. -/
theorem decision_survives_restart :
    ∃ decision, decideRoute {} {} Worker.sourceId Worker.targetId .defaultPolicy
        (run {} .initial (advancedHistory.take 4)) = .ok decision ∧
      accepted {} (restoring (captureDurableState {}
        (run {} .initial (advancedHistory.take 3))) {}) .initial = true ∧
      Along (step {}) (WrapFree {}) .initial advancedHistory ∧
      Along (step {}) (WrapFree {}) .initial [restoring (captureDurableState {}
        (run {} .initial (advancedHistory.take 3))) {}] ∧
      isRouteExecutable decision (run {} .initial [restoring (captureDurableState {}
        (run {} .initial (advancedHistory.take 3))) {}]) = true := by
  have survives : (decideRoute {} {} Worker.sourceId Worker.targetId .defaultPolicy
      (run {} .initial (advancedHistory.take 4))).toOption.map
        (isRouteExecutable · (run {} .initial [restoring (captureDurableState {}
          (run {} .initial (advancedHistory.take 3))) {}])) = some true := by
    decide +kernel
  obtain ⟨decision, decided⟩ := decideRoute_total {} {} Worker.sourceId Worker.targetId
    .defaultPolicy (run {} .initial (advancedHistory.take 4))
  simp only [decided, Except.toOption, Option.map_some, Option.some.injEq] at survives
  exact ⟨decision, decided, by decide +kernel, by decide +kernel, by decide +kernel,
    survives⟩

end NvlinkFabric.Registry

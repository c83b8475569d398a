import NvlinkFabric.Route.Decision
import NvlinkFabric.Registry.Effects
import NvlinkFabric.Worker.Evidence

/-!
# Route invalidation

The topology generation is the only thing that ties a decision to the state it
was taken from.  A quiet call keeps generation and device table, so it keeps
every decision; a changing call raises the generation strictly, and without a
wrap nothing brings the old value back.
-/

namespace NvlinkFabric.Registry

open Transition

variable {limits : Limits} {state : State} {call : Call} {calls : List Call}

/-- The call does not take the topology generation past its largest value:
`next` wraps exactly when it produces zero. -/
def NoWrap (limits : Limits) (state : State) (call : Call) : Prop :=
  changesTopology limits state call = true →
    (step limits state call).topologyGen.value ≠ 0

instance (limits : Limits) (state : State) (call : Call) :
    Decidable (NoWrap limits state call) :=
  inferInstanceAs (Decidable (_ → _))

/-- The call leaves the canonical topology as it is. -/
def Quiet (limits : Limits) (state : State) (call : Call) : Prop :=
  changesTopology limits state call = false

instance (limits : Limits) (state : State) (call : Call) :
    Decidable (Quiet limits state call) :=
  inferInstanceAs (Decidable (_ = _))

theorem step_generation_lt (noWrap : NoWrap limits state call)
    (changes : changesTopology limits state call = true) :
    state.topologyGen < (step limits state call).topologyGen := by
  obtain ⟨base, stepEq, resumed⟩ := step_changes changes
  have nonZero := noWrap changes
  rw [stepEq, advance_topologyGen, resumed] at nonZero ⊢
  exact lt_of_le_of_lt (le_resumesFrom state call.operation)
    (Generation.lt_next_of_ne_zero nonZero)

theorem step_generation_le (noWrap : NoWrap limits state call) :
    state.topologyGen ≤ (step limits state call).topologyGen := by
  cases changes : changesTopology limits state call with
  | false =>
      rw [(step_quiet changes).1]
  | true => exact le_of_lt (step_generation_lt noWrap changes)

/-- Without a wrap the generation never decreases along a run. -/
theorem run_generation_le (noWrap : Along (step limits) (NoWrap limits) state calls) :
    state.topologyGen ≤ (run limits state calls).topologyGen :=
  relates_along (fun (first second : State) => first.topologyGen ≤ second.topologyGen)
    (fun _ => le_refl _) (fun _ _ _ => le_trans)
    (fun _ _ => step_generation_le) noWrap

/-- A run of quiet calls keeps the generation and the device table. -/
theorem run_quiet (quiet : Along (step limits) (Quiet limits) state calls) :
    (run limits state calls).topologyGen = state.topologyGen ∧
      (run limits state calls).devices = state.devices :=
  relates_along
    (fun (first second : State) =>
      second.topologyGen = first.topologyGen ∧ second.devices = first.devices)
    (fun _ => ⟨rfl, rfl⟩)
    (fun _ _ _ first second => ⟨second.1.trans first.1, second.2.trans first.2⟩)
    (fun _ _ quiet => ⟨(step_quiet quiet).1, (step_quiet quiet).2.1⟩) quiet

/-- One changing call anywhere in a run raises the generation for good. -/
theorem run_generation_lt (noWrap : Along (step limits) (NoWrap limits) state calls)
    (changed : ¬Along (step limits) (Quiet limits) state calls) :
    state.topologyGen < (run limits state calls).topologyGen := by
  induction calls generalizing state with
  | nil => exact absurd (along_nil _ _ _) changed
  | cons call calls ih =>
      obtain ⟨first, rest⟩ := noWrap
      cases changes : changesTopology limits state call with
      | true =>
          have raised := step_generation_lt first changes
          exact raised.trans_le (run_generation_le rest)
      | false =>
          have later := ih rest fun quiet => changed ⟨changes, quiet⟩
          rwa [(step_quiet changes).1] at later

/-- A refused revalidation is never executable itself. -/
theorem revalidateRoute_not_executable (ambient : Ambient) {decision : RouteDecision}
    (stale : isRouteExecutable decision state = false) :
    ∃ revalidated, revalidateRoute ambient decision state = .ok revalidated ∧
      isRouteExecutable revalidated state = false := by
  simp only [revalidateRoute, stale, Bool.false_eq_true, if_false]
  exact ⟨_, rfl, rfl⟩

/-- A decision stays executable along a run exactly as long as no call changes
the canonical topology, and revalidating it afterwards does not bring it back. -/
theorem route_executable_iff_unchanged (limits : Limits) (ambient : Ambient)
    (source target : DeviceId) (policy : RoutePolicy) (state : State)
    (decision : RouteDecision)
    (decided : decideRoute limits ambient source target policy state = .ok decision)
    (calls : List Call) (noWrap : Along (step limits) (NoWrap limits) state calls) :
    (isRouteExecutable decision (run limits state calls) = true ↔
      decision.executable = true ∧ Along (step limits) (Quiet limits) state calls) ∧
    (isRouteExecutable decision (run limits state calls) = false → ∀ later,
      ∃ revalidated,
        revalidateRoute later decision (run limits state calls) = .ok revalidated ∧
          isRouteExecutable revalidated (run limits state calls) = false) := by
  refine ⟨⟨fun current => ?_, fun ⟨executable, quiet⟩ => ?_⟩, fun stale later => ?_⟩
  · have executable : decision.executable = true := by
      simp only [isRouteExecutable, Bool.and_eq_true] at current
      exact current.1
    refine ⟨executable, by_contra fun changed => ?_⟩
    have raised := run_generation_lt noWrap changed
    have different : (run limits state calls).topologyGen ≠
        decision.topologyGeneration := by
      rw [(justified_of_executable decided executable).generation_eq]
      exact ne_of_gt raised
    rw [isRouteExecutable_of_generation_ne different] at current
    simp at current
  · obtain ⟨generation, devices⟩ := run_quiet quiet
    rw [isRouteExecutable_congr generation devices, isRouteExecutable_decided decided,
      executable]
  · exact revalidateRoute_not_executable later stale

theorem published_route_invalidated :
    ∃ decision, decideRoute {} {} Worker.sourceId Worker.targetId .defaultPolicy
        Worker.published = .ok decision ∧
      isRouteExecutable decision
        (run {} Worker.published [⟨.publishMeasurement (Worker.measurement ⟨1⟩), {}⟩]) =
          true ∧
      isRouteExecutable decision (run {} Worker.published [⟨.advanceTopology {}, {}⟩]) =
        false := by
  have executable : (decideRoute {} {} Worker.sourceId Worker.targetId .defaultPolicy
      Worker.published).toOption.map (·.executable) = some true := by decide +kernel
  obtain ⟨decision, decided⟩ := decideRoute_total {} {} Worker.sourceId Worker.targetId
    .defaultPolicy Worker.published
  simp only [decided, Except.toOption, Option.map_some, Option.some.injEq] at executable
  refine ⟨decision, decided, ?_, ?_⟩
  · exact (route_executable_iff_unchanged {} {} _ _ _ _ decision decided _
      (by decide +kernel)).1.mpr ⟨executable, by decide +kernel⟩
  · rw [Bool.eq_false_iff]
    intro current
    have unchanged := ((route_executable_iff_unchanged {} {} _ _ _ _ decision decided _
      (by decide +kernel)).1.mp current).2
    exact absurd unchanged (by decide +kernel)

end NvlinkFabric.Registry

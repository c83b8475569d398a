import NvlinkFabric.Registry.Effects
import NvlinkFabric.Durable.RoundTrip

/-!
# Progress of the topology generation

Every change of the topology ends in the unchecked `next` of a generation.  It is
the current one, except that a restore may first adopt the generation of a file,
which the decoder does not bound.  So the counter progresses exactly as long as
no advance starts from the largest value.
-/

namespace NvlinkFabric.Registry

open Transition Durable

variable {limits : Limits} {state : State} {call : Call}

/-- The call moves the topology generation forward: it never decreases and never
becomes invalid, and a change of either table raises it. -/
def Progresses (limits : Limits) (state : State) (call : Call) : Prop :=
  state.topologyGen ≤ (step limits state call).topologyGen ∧
    (step limits state call).topologyGen.value ≠ 0 ∧
    ((step limits state call).devices ≠ state.devices ∨
        (step limits state call).links ≠ state.links →
      state.topologyGen < (step limits state call).topologyGen)

instance (limits : Limits) (state : State) (call : Call) :
    Decidable (Progresses limits state call) :=
  inferInstanceAs (Decidable (_ ∧ _ ∧ _))

/-- A call that changes the topology does not advance from the largest
generation. -/
def LeavesRoom (limits : Limits) (state : State) (call : Call) : Prop :=
  changesTopology limits state call = true → resumesFrom state call.operation ≠ .last

instance (limits : Limits) (state : State) (call : Call) :
    Decidable (LeavesRoom limits state call) :=
  inferInstanceAs (Decidable (_ → _))

theorem step_changes_topologyGen (changes : changesTopology limits state call = true) :
    (step limits state call).topologyGen = (resumesFrom state call.operation).next := by
  obtain ⟨base, stepEq, resumed⟩ := step_changes changes
  rw [stepEq, advance_topologyGen, resumed]

/-- From a valid generation, one call progresses exactly if it leaves room. -/
theorem progresses_iff_leavesRoom (valid : state.topologyGen.value ≠ 0) :
    Progresses limits state call ↔ LeavesRoom limits state call := by
  constructor
  · rintro ⟨-, nonZero, -⟩ changes exhausted
    rw [step_changes_topologyGen changes] at nonZero
    exact nonZero (Generation.next_value_eq_zero_iff.mpr exhausted)
  · intro room
    cases changes : changesTopology limits state call with
    | false =>
        obtain ⟨generation, devices, links⟩ := step_quiet changes
        rw [Progresses, generation, devices, links]
        exact ⟨le_refl _, valid, by simp⟩
    | true =>
        have nonZero : (resumesFrom state call.operation).next.value ≠ 0 := by
          intro zero
          exact room changes (Generation.next_value_eq_zero_iff.mp zero)
        have advanced := lt_of_le_of_lt (le_resumesFrom state call.operation)
          (Generation.lt_next_of_ne_zero nonZero)
        rw [Progresses, step_changes_topologyGen changes]
        exact ⟨le_of_lt advanced, nonZero, fun _ => advanced⟩

/-- In every run the topology generation progresses at each call exactly if no
change of the topology advances from the largest generation. -/
theorem topologyGen_progresses_iff (limits : Limits) (calls : List Call) :
    Along (step limits) (Progresses limits) .initial calls ↔
      Along (step limits) (LeavesRoom limits) .initial calls := by
  have valid : State.initial.topologyGen.value ≠ 0 := by decide
  generalize State.initial = start at valid
  -- A call that progresses ends in a valid generation, which the next one starts from.
  induction calls generalizing start with
  | nil => simp
  | cons call calls ih =>
      rw [along_cons, along_cons, progresses_iff_leavesRoom valid]
      apply and_congr_right
      intro room
      exact ih _ ((progresses_iff_leavesRoom valid).mpr room).2.1

/-- A durable state at the largest topology generation. -/
def exhausted : DurableState := { topologyGeneration := .last }

/-- The decoder returns such a state, and restoring it wraps the counter. -/
theorem restored_generation_wraps :
    (∃ serialized, deserializeDurableState {} serialized = .ok exhausted) ∧
      ¬∀ (limits : Limits) (calls : List Call),
        Along (step limits) (Progresses limits) .initial calls := by
  constructor
  · exact ⟨serializedFile exhausted, deserialize_serialized (by decide)⟩
  · intro always
    have progresses := (always {} [⟨.restoreDurableState exhausted, {}⟩]).1
    have room := (progresses_iff_leavesRoom (by decide)).mp progresses
    exact room (by decide) (by decide)

end NvlinkFabric.Registry

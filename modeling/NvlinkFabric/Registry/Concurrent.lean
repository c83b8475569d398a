import NvlinkFabric.Lib.Linearizable
import NvlinkFabric.Route.Invalidation

/-!
# The registry and its threads

`TopologyRegistry` keeps its state in a pointer behind a `std::shared_mutex`.  A
mutation locks it exclusively, copies the state, edits the copy and swaps the
pointer; only `restore_durable_state` looks at the version of its argument before it
locks.  `read_state` locks shared and copies the pointer, and what is computed from
that snapshot is computed without the lock.  Whatever the threads do, the registry
behaves as if the calls were made one after the other.
-/

namespace NvlinkFabric.Registry

open Transition LockedCell

variable {τ : Type} [DecidableEq τ]

/-- The registry shared by threads, with its mutex. -/
abbrev SharedRegistry (τ : Type) := Machine τ State Call Error

/-- What a call checks before it takes the mutex. -/
def unsupportedVersion (call : Call) : Option Error :=
  match call.operation with
  | .restoreDurableState durable =>
      if durable.formatVersion ≠ durableFormatVersion then
        some ⟨.integrityFailure, "unsupported durable state version"⟩
      else none
  | _ => none

theorem apply_of_unsupportedVersion {limits : Limits} {call : Call} {error : Error}
    (state : State) (unsupported : unsupportedVersion call = some error) :
    apply limits call state = .error error := by
  obtain ⟨operation, ambient⟩ := call
  cases operation with
  | restoreDurableState durable =>
      simp only [unsupportedVersion] at unsupported
      split at unsupported
      next differs =>
        obtain rfl := Option.some.inj unsupported
        simp only [apply, restoreDurableState, if_pos differs, err]
      next => cases unsupported
  | _ => cases unsupported

/-- The calls of the registry, as the threads make them. -/
def edits (limits : Limits) : Editor State Call Error where
  check := unsupportedVersion
  attempt := apply limits
  attempt_of_check := apply_of_unsupportedVersion

/-- A registry constructed with `limits` after some steps of its threads. -/
def interleave (limits : Limits) (events : List (Event τ Call)) : SharedRegistry τ :=
  LockedCell.run (edits limits) { cell := .initial } events

/-- On its own, a mutation is a step of the registry. -/
theorem mutateWith_edits (limits : Limits) :
    mutateWith (edits limits).attempt = step limits := by
  funext state call
  simp only [mutateWith, serve, step, edits]
  cases apply limits call state with
  | ok next => rfl
  | error error => rfl

theorem interleave_append (limits : Limits) (before after : List (Event τ Call)) :
    interleave limits (before ++ after) =
      LockedCell.run (edits limits) (interleave limits before) after :=
  run_append _ _ _ _

/-- Any interleaving of any number of threads is a serial execution: the calls that
stored a state or failed, in the order in which they did, give the published state
and every answer; each request is served and answered at most once, and one that
was made after another was answered is served after it.  No request is lost, as a
thread holds it until it is answered, and while some thread holds one, one of these
threads can go on. -/
theorem interleavings_linearizable (limits : Limits)
    (before after : List (Event τ Call)) :
    let early := interleave limits before
    let late := interleave limits (before ++ after)
    late.cell = run limits .initial (mutations late.history) ∧
      Serial (apply limits) .initial late.history ∧
      (late.history.map Entry.ticket).Nodup ∧
      (∀ entry ∈ late.history, late.requests[entry.ticket]? = some entry.request) ∧
      (late.returned.map Prod.fst).Nodup ∧
      (∀ answer ∈ late.returned, Answered late answer.1 answer.2) ∧
      (∀ ticket < late.requests.length, ticket ∈ late.returned.map Prod.fst ∨
        ∃ thread, (late.phase thread).ticket = some ticket) ∧
      (∀ thread, late.phase thread ≠ .idle →
        ∃ mover, late.phase mover ≠ .idle ∧ CanMove (edits limits) late mover) ∧
      ∃ recent, late.history = early.history ++ recent ∧
        (∀ answer ∈ early.returned, Answered early answer.1 answer.2) ∧
        ∀ entry ∈ late.history, early.requests.length ≤ entry.ticket →
          entry ∈ recent := by
  intro early late
  obtain ⟨linearizable, guarded⟩ : Linearizable (edits limits) .initial late ∧
      Guarded late :=
    linearizable_run (edits limits) .initial (before ++ after)
  refine ⟨?_, linearizable.serial, linearizable.distinct, linearizable.asked,
    linearizable.once, linearizable.returned, linearizable.complete,
    fun thread busy => progress (edits limits) guarded busy, ?_⟩
  · rw [linearizable.cell, final_eq_run_mutations, mutateWith_edits]
  · have ordered := in_real_time (edits limits) State.initial before after
    rwa [← interleave, ← interleave_append] at ordered

/-- A later snapshot is reached from an earlier one by the calls served between them. -/
theorem snapshot_follows {limits : Limits} {events : List (Event τ Call)}
    {past middle rest : List (Entry State Call Error)} {first second : Nat}
    {earlier later : State} (served : (interleave limits events).history =
      past ++ ⟨first, .read, .snapshot earlier⟩ :: middle ++
        ⟨second, .read, .snapshot later⟩ :: rest) :
    later = run limits earlier (mutations middle) := by
  have serial := (linearizable_run (edits limits) State.initial events).1.serial
  rw [← interleave, served] at serial
  rw [serial.snapshots, mutateWith_edits]

/-- What any thread reads at any time is a state of the registry on its own: it
satisfies the representation invariant, and a later snapshot is reached from an
earlier one by the calls served between them. -/
theorem snapshots_consistent (limits : Limits) (events : List (Event τ Call)) :
    (∀ answer ∈ (interleave limits events).returned, ∀ state, answer.2 = .snapshot state →
      Reachable limits state ∧ Consistent limits state) ∧
    ∀ past middle rest first second earlier later,
      (interleave limits events).history =
          past ++ ⟨first, .read, .snapshot earlier⟩ :: middle ++
            ⟨second, .read, .snapshot later⟩ :: rest →
        later = run limits earlier (mutations middle) := by
  have linearizable : Linearizable (edits limits) .initial (interleave limits events) :=
    (linearizable_run (edits limits) .initial events).1
  constructor
  · rintro ⟨ticket, reply⟩ answered state rfl
    obtain ⟨⟨number, request, reply⟩, member, same, told⟩ :=
      linearizable.returned _ answered
    obtain ⟨past, rest, split⟩ := List.append_of_mem member
    have serial := linearizable.serial
    rw [split] at serial
    have reached := serial.snapshot told
    rw [mutateWith_edits] at reached
    have reachable : Reachable limits state := ⟨_, reached.symm⟩
    exact ⟨reachable, consistent_of_reachable reachable⟩
  · intro past middle rest first second earlier later served
    exact snapshot_follows served

/-- A decision taken from one snapshot is still executable at a later one exactly if no
call served in between changed the canonical topology, whatever the threads did and
whenever the log of the decision was read. -/
theorem decisions_follow_history (limits : Limits) (events : List (Event τ Call))
    (past middle rest : List (Entry State Call Error)) (first second : Nat)
    (earlier later : State)
    (served : (interleave limits events).history =
      past ++ ⟨first, .read, .snapshot earlier⟩ :: middle ++
        ⟨second, .read, .snapshot later⟩ :: rest)
    (noWrap : Along (step limits) (NoWrap limits) earlier (mutations middle))
    (ambient : Ambient) (source target : DeviceId) (policy : RoutePolicy)
    (observed : List Observation) (decision : RouteDecision)
    (decided : decideRouteWith limits ambient source target policy earlier observed =
      .ok decision) :
    isRouteExecutable decision later = true ↔
      decision.executable = true ∧
        Along (step limits) (Quiet limits) earlier (mutations middle) := by
  obtain rfl := snapshot_follows served
  constructor
  · intro current
    have executable : decision.executable = true := by
      simp only [isRouteExecutable, Bool.and_eq_true] at current
      exact current.1
    refine ⟨executable, by_contra fun changed => ?_⟩
    have raised := run_generation_lt noWrap changed
    have different : (run limits earlier (mutations middle)).topologyGen ≠
        decision.topologyGeneration := by
      rw [(justified_of_executable decided executable).generation_eq]
      exact ne_of_gt raised
    rw [isRouteExecutable_of_generation_ne different] at current
    simp at current
  · rintro ⟨executable, quiet⟩
    obtain ⟨generation, devices⟩ := run_quiet quiet
    rw [isRouteExecutable_congr generation devices, isRouteExecutable_decidedWith decided]
    exact executable

/-- Any run of the registry shows in the snapshots of some thread. -/
theorem interleaved_around (limits : Limits) (calls between : List Call) :
    ∃ (events : List (Event Unit Call)) (past middle : List (Entry State Call Error))
        (first second : Nat),
      (interleave limits events).history =
          past ++ ⟨first, .read, .snapshot (run limits .initial calls)⟩ :: middle ++
            [⟨second, .read,
              .snapshot (run limits (run limits .initial calls) between)⟩] ∧
        mutations middle = between := by
  obtain ⟨past, middle, first, second, around, inner⟩ :=
    served_around (edits limits) State.initial calls between
  rw [mutateWith_edits] at around
  let requests : List (Request Call) :=
    calls.map Request.mutate ++ Request.read :: between.map Request.mutate ++
      [Request.read]
  have serial := congrArg Machine.history
    (run_alones (edits limits) () requests [] [] [] State.initial)
  exact ⟨_, past, middle, first, second, serial.trans around, inner⟩

/-- A measurement published between two reads leaves a decision executable. -/
theorem published_decision_followed :
    ∃ decision, decideRoute {} {} Worker.sourceId Worker.targetId .defaultPolicy
        Worker.published = .ok decision ∧ decision.executable = true ∧
      isRouteExecutable decision
        (run {} Worker.published [⟨.publishMeasurement (Worker.measurement ⟨1⟩), {}⟩]) =
          true := by
  have executable : (decideRoute {} {} Worker.sourceId Worker.targetId .defaultPolicy
      Worker.published).toOption.map (·.executable) = some true := by decide +kernel
  obtain ⟨decision, decided⟩ := decideRoute_total {} {} Worker.sourceId Worker.targetId
    .defaultPolicy Worker.published
  simp only [decided, Except.toOption, Option.map_some, Option.some.injEq] at executable
  obtain ⟨events, past, middle, first, second, around, between⟩ := interleaved_around {}
    (Worker.publication ⟨1⟩) [⟨.publishMeasurement (Worker.measurement ⟨1⟩), {}⟩]
  refine ⟨decision, decided, executable,
    (decisions_follow_history {} events past middle [] first
    second Worker.published _ around ?_ {} Worker.sourceId Worker.targetId .defaultPolicy
    Worker.published.observations decision decided).mpr ⟨executable, ?_⟩⟩
  · rw [between]
    decide +kernel
  · rw [between]
    decide +kernel

end NvlinkFabric.Registry

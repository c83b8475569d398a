import NvlinkFabric.Coordinator.Fencing

/-!
# The live-worker count

The count is raised with the record of an accepted boot and lowered at the end of
the teardown.  A handler whose READY cannot be sent returns in between, without a
teardown, so each such reply leaves the count one too high for good.  Without them
the count is the number of handlers between acceptance and the end of teardown.
-/

namespace NvlinkFabric.Coordinator

open Wire Transition

variable {limits : Limits} {server : Server} {event : Event} {events : List Event}

/-- The HELLO was accepted, and the handler has neither returned nor finished its
teardown. -/
def Phase.active : Phase → Bool
  | .replying _ accepted => accepted
  | .serving _ => true
  | .leaving _ => true
  | .awaitingHello => false
  | .closed => false

/-- The number of active connections. -/
def activeCount (server : Server) : Nat := server.connections.values.countP Phase.active

/-- The event is a failure to send the READY of an accepted HELLO. -/
def losesReady (server : Server) : Event → Bool
  | .reply connection sent =>
      match server.connections.find? connection with
      | some (.replying _ accepted) => accepted && !sent
      | _ => false
  | _ => false

/-- No READY is lost. -/
def KeepsReady (server : Server) (event : Event) : Prop := losesReady server event = false

instance (server : Server) (event : Event) : Decidable (KeepsReady server event) :=
  inferInstanceAs (Decidable (_ = _))

/-- The number of lost READYs in a run. -/
def lostReadies (limits : Limits) : Server → List Event → Nat
  | _, [] => 0
  | server, event :: events =>
      (losesReady server event).toNat +
        lostReadies limits (step limits server event) events

theorem lostReadies_eq_zero_iff (limits : Limits) (server : Server)
    (events : List Event) :
    lostReadies limits server events = 0 ↔
      Along (step limits) KeepsReady server events := by
  induction events generalizing server with
  | nil => simp [lostReadies]
  | cons event events ih =>
      rw [lostReadies, Nat.add_eq_zero_iff, ih, along_cons, KeepsReady]
      cases losesReady server event <;> simp

/-- A move counts the new phase in place of the old one. -/
theorem activeCount_moveTo (server : Server) (connection : Nat) (phase : Phase) :
    activeCount (server.moveTo connection phase) +
        ((server.connections.find? connection).any Phase.active).toNat =
      activeCount server + phase.active.toNat :=
  FiniteMap.countP_values_set _ _ _ _

/-- The count exceeds the number of active connections by the READYs lost so far. -/
def Balanced (lost : Nat) (server : Server) : Prop :=
  server.liveCount = activeCount server + lost

theorem balanced_moveTo {lost : Nat} {base : Server} {connection : Nat} {phase : Phase}
    (same : base.connections = server.connections)
    (balance : base.liveCount +
        ((server.connections.find? connection).any Phase.active).toNat =
      activeCount server + phase.active.toNat + lost) :
    Balanced lost (base.moveTo connection phase) := by
  have moved := activeCount_moveTo base connection phase
  have total : activeCount base =
      activeCount server := by rw [activeCount, activeCount, same]
  rw [same, total] at moved
  have kept : (base.moveTo connection phase).liveCount = base.liveCount := rfl
  rw [Balanced, kept]
  omega

/-- The phase of a connection says whether it is counted. -/
theorem any_active_of_find? {connection : Nat} {phase : Phase}
    (found : server.connections.find? connection = some phase) :
    ((server.connections.find? connection).any Phase.active).toNat =
      phase.active.toNat := by
  rw [found, Option.any_some]

/-- Only the reply to a handler that is replying can be a lost READY. -/
theorem losesReady_of_unanswered {event : Event}
    (unanswered : ∀ connection sent hello accepted, event = .reply connection sent →
      server.connections.find? connection ≠ some (.replying hello accepted)) :
    losesReady server event = false := by
  cases event with
  | reply connection sent =>
      simp only [losesReady]
      split
      next hello accepted replying =>
        exact absurd replying (unanswered connection sent hello accepted rfl)
      · rfl
  | _ => rfl

/-- A step keeps the balance, except that it loses a READY which cannot be sent. -/
theorem balanced_step {lost : Nat} (balanced : Balanced lost server) (event : Event) :
    Balanced (lost + (losesReady server event).toNat) (step limits server event) := by
  have start : server.liveCount = activeCount server + lost := balanced
  have outcome := step_outcome limits server event
  generalize step limits server event = next at outcome ⊢
  cases outcome with
  | ignored _ unanswered =>
      rw [losesReady_of_unanswered unanswered]
      exact balanced
  | published | called => exact balanced
  | connected fresh =>
      apply balanced_moveTo rfl
      simp only [fresh, Option.any_none, losesReady, Phase.active,
        Bool.toNat_false, start]
      omega
  | dropped awaiting | refused awaiting =>
      apply balanced_moveTo rfl
      simp only [any_active_of_find? awaiting, losesReady, Phase.active,
        Bool.toNat_false, start]
      omega
  | admitted awaiting =>
      refine balanced_moveTo (show _ = server.connections from rfl) ?_
      simp only [any_active_of_find? awaiting, losesReady, Phase.active, Bool.toNat_false,
        Bool.toNat_true, Server.recordBoot, start]
      omega
  | greeted replying =>
      apply balanced_moveTo rfl
      simp only [losesReady, replying, Option.any_some, Phase.active,
        Bool.not_true, Bool.and_false, Bool.toNat_false, Bool.toNat_true, start]
      omega
  | @unserved connection sent hello accepted replying undelivered =>
      apply balanced_moveTo rfl
      -- The handler returns: it was counted exactly if its HELLO had been accepted.
      have lostOne : (accepted && !sent) = accepted := by
        cases accepted with
        | false => rfl
        | true => simpa using undelivered
      simp only [losesReady, replying, Option.any_some, lostOne, Phase.active,
        Bool.toNat_false, start]
      omega
  | ended serving =>
      refine balanced_moveTo (show _ = server.connections from rfl) ?_
      simp only [any_active_of_find? serving, losesReady, Phase.active, Bool.toNat_false,
        Bool.toNat_true, start]
      omega
  | @left connection hello leaving =>
      -- The handler was active, so the count it is taken out of is positive.
      have counted := activeCount_moveTo server connection .closed
      simp only [any_active_of_find? leaving, Phase.active, Bool.toNat_true,
        Bool.toNat_false] at counted
      refine balanced_moveTo (show _ = server.connections from rfl) ?_
      simp only [any_active_of_find? leaving, losesReady, Phase.active, Bool.toNat_false,
        Bool.toNat_true, start]
      omega

/-- A run leaves the count too high by the READYs that were lost in it. -/
theorem balanced_run {lost : Nat} (balanced : Balanced lost server)
    (events : List Event) :
    Balanced (lost + lostReadies limits server events) (run limits server events) := by
  induction events generalizing server lost with
  | nil => exact balanced
  | cons event events ih =>
      rw [run, run_cons, lostReadies, ← Nat.add_assoc]
      exact ih (balanced_step balanced event)

theorem liveCount_run (limits : Limits) (counter : UInt64) (events : List Event) :
    (run limits (construct counter) events).liveCount =
      activeCount (run limits (construct counter) events) +
        lostReadies limits (construct counter) events := by
  have initially : Balanced 0 (construct counter) := rfl
  have balanced : Balanced (0 + lostReadies limits (construct counter) events)
      (run limits (construct counter) events) := balanced_run initially events
  rwa [Nat.zero_add] at balanced

/-- The count is the number of active connections exactly after the runs in which no
READY was lost; it is then zero again once all connections have ended. -/
theorem liveCount_accurate_iff (limits : Limits) (counter : UInt64)
    (events : List Event) :
    ((run limits (construct counter) events).liveCount =
        activeCount (run limits (construct counter) events) ↔
      Along (step limits) KeepsReady (construct counter) events) ∧
    (Along (step limits) KeepsReady (construct counter) events →
      (∀ entry ∈ (run limits (construct counter) events).connections.entries,
        entry.2 = .closed) →
      (run limits (construct counter) events).liveCount = 0) := by
  have count := liveCount_run limits counter events
  rw [← lostReadies_eq_zero_iff]
  constructor
  · omega
  · intro kept ended
    have inactive : activeCount (run limits (construct counter) events) = 0 := by
      rw [activeCount, List.countP_eq_zero]
      intro phase member
      obtain ⟨connection, stored⟩ := FiniteMap.mem_values.mp member
      rw [show phase = .closed from ended _ stored]
      exact Bool.false_ne_true
    omega

/-- A worker that is gone before its READY is sent. -/
def lostHandshake : List Event :=
  let hello : Hello := { worker := ⟨1⟩, boot := ⟨1⟩, epoch := ⟨1⟩ }
  [.connect 1, .hello 1 (.ok { type := .hello, payload := encHello hello }),
    .reply 1 false]

/-- The handler of a lost READY has returned, and is still counted. -/
theorem lost_ready_counted :
    ¬∀ (limits : Limits) (counter : UInt64) (events : List Event),
      (run limits (construct counter) events).liveCount =
        activeCount (run limits (construct counter) events) := by
  intro accurate
  exact absurd (accurate {} 0 lostHandshake) (by decide +kernel)

end NvlinkFabric.Coordinator

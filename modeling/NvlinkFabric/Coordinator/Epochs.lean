import NvlinkFabric.Coordinator.Fencing

/-!
# Epochs across coordinator processes

The epoch of a server is drawn from a counter of its process, and neither the
epoch nor the record of boots is part of the durable state.  Every process
therefore starts at the same epoch with an empty record, and a HELLO that one
process accepted is accepted again by each of its successors.
-/

namespace NvlinkFabric.Coordinator

open Wire Transition

variable {limits : Limits} {server : Server} {event : Event} {events : List Event}
variable {hello : Hello}

/-- What happens to one coordinator process: the events of its server, and how
many of them precede the capture that its successor restores. -/
structure Process where
  restoredAt : Ambient
  events : List Event
  captured : Nat
  capturedAt : Ambient

/-- A server with the events it handles. -/
structure Lifetime where
  start : Server
  events : List Event

/-- A new process constructs its server and restores what its predecessor saved. -/
def launch (limits : Limits) (ambient : Ambient) (saved : Option DurableState) : Server :=
  match saved with
  | none => .initial
  | some durable => step limits .initial (.direct ⟨.restoreDurableState durable, ambient⟩)

/-- The servers of a sequence of processes. -/
def lifetimes (limits : Limits) : Option DurableState → List Process → List Lifetime
  | _, [] => []
  | saved, process :: processes =>
      let start := launch limits process.restoredAt saved
      let captured := run limits start (process.events.take process.captured)
      { start, events := process.events } ::
        lifetimes limits
          (some (Registry.captureDurableState process.capturedAt captured.registry))
            processes

/-- The HELLOs that a server accepts. -/
def acceptedHellos (limits : Limits) : Server → List Event → List Hello
  | _, [] => []
  | server, event :: events =>
      (acceptedHello server event).toList ++
        acceptedHellos limits (step limits server event)
        events

/-- Whatever a later process receives, it accepts no HELLO with the epoch of an
earlier process, and no HELLO that an earlier process accepted. -/
def EpochFenced (limits : Limits) (processes : List Process) : Prop :=
  (lifetimes limits none processes).Pairwise fun earlier later => ∀ events,
    (∀ hello ∈ acceptedHellos limits later.start events,
      hello.epoch ≠ earlier.start.epoch) ∧
      ∀ hello ∈ acceptedHellos limits earlier.start earlier.events,
        hello ∉ acceptedHellos limits later.start events

/-- No event changes the epoch. -/
theorem step_epoch (limits : Limits) (server : Server) (event : Event) :
    (step limits server event).epoch = server.epoch := by
  have outcome := step_outcome limits server event
  generalize step limits server event = next at outcome ⊢
  cases outcome <;> rfl

/-- A server accepts only its own epoch. -/
theorem acceptedHellos_epoch (accepted : hello ∈ acceptedHellos limits server events) :
    hello.epoch = server.epoch := by
  induction events generalizing server with
  | nil => simp [acceptedHellos] at accepted
  | cons event events ih =>
      rw [acceptedHellos, List.mem_append, Option.mem_toList] at accepted
      rcases accepted with now | later
      · obtain ⟨-, -, -, -, admitted, -⟩ := acceptedHello_eq limits now
        simp only [admits, Bool.and_eq_true, decide_eq_true_eq] at admitted
        exact admitted.1
      · rw [ih later, step_epoch]

/-- Nothing of the handshakes survives a process: restored or not, a server starts
at the first epoch, without boots on record and without connections. -/
theorem launch_eq (limits : Limits) (ambient : Ambient) (saved : Option DurableState) :
    launch limits ambient saved =
      { Server.initial with registry := (launch limits ambient saved).registry } := by
  cases saved with
  | none => rfl
  | some durable => rfl

theorem start_of_mem {saved : Option DurableState} {processes : List Process}
    {lifetime : Lifetime} (member : lifetime ∈ lifetimes limits saved processes) :
    ∃ registry, lifetime.start = { Server.initial with registry } := by
  induction processes generalizing saved with
  | nil => simp [lifetimes] at member
  | cons process processes ih =>
      rw [lifetimes, List.mem_cons] at member
      rcases member with rfl | later
      · exact ⟨_, launch_eq limits process.restoredAt saved⟩
      · exact ih later

/-- The HELLO of an admitted handshake is accepted. -/
theorem handshake_accepted {connection : Nat} (limits : Limits)
    (unused : server.connections.find? connection = none)
    (admitted : admits server hello = true) :
    hello ∈ acceptedHellos limits server (handshake connection hello) := by
  have accepted : acceptedHello (server.moveTo connection .awaitingHello)
      (.hello connection (.ok { type := .hello, payload := encHello hello })) =
      some hello := by
    simp [acceptedHello, parseHello_encoded, admitted]
  simp [handshake, acceptedHellos, step_connect limits unused, accepted]

/-- Before it has received anything, every process accepts any HELLO of the first
epoch. -/
theorem started_accepts {saved : Option DurableState} (processes : List Process)
    {lifetime : Lifetime} (member : lifetime ∈ lifetimes limits saved processes)
    (current : hello.epoch = Server.initial.epoch) :
    hello ∈ acceptedHellos limits lifetime.start (handshake 0 hello) := by
  obtain ⟨registry, start⟩ := start_of_mem member
  rw [start]
  apply handshake_accepted limits (FiniteMap.find?_empty _)
  simp [admits, current, Server.initial, construct]

/-- Every process starts at the first epoch. -/
theorem start_epoch {saved : Option DurableState} {processes : List Process}
    {lifetime : Lifetime} (member : lifetime ∈ lifetimes limits saved processes) :
    lifetime.start.epoch = Server.initial.epoch := by
  obtain ⟨registry, start⟩ := start_of_mem member
  rw [start]

/-- The first two processes are not fenced from each other. -/
theorem not_epochFenced_cons_cons (limits : Limits) (first second : Process)
    (processes : List Process) : ¬EpochFenced limits (first :: second :: processes) := by
  intro fenced
  rw [EpochFenced, lifetimes, lifetimes, List.pairwise_cons] at fenced
  let replay : Hello := { worker := ⟨1⟩, boot := ⟨1⟩, epoch := Server.initial.epoch }
  have refused := (fenced.1 _ List.mem_cons_self (handshake 0 replay)).1 replay
  apply refused
  · apply started_accepts (second :: processes)
    · rw [lifetimes]
      exact List.mem_cons_self
    · rfl
  · rfl

/-- The epoch fences processes from each other only if there is a single process:
every HELLO that a process accepts is accepted again by each later one. -/
theorem epochFenced_iff_single (limits : Limits) (processes : List Process) :
    (EpochFenced limits processes ↔ processes.length < 2) ∧
      (lifetimes limits none processes).Pairwise fun earlier later =>
        ∀ hello ∈ acceptedHellos limits earlier.start earlier.events,
          ∃ events, hello ∈ acceptedHellos limits later.start events := by
  constructor
  · match processes with
    | [] => simp [EpochFenced, lifetimes]
    | [process] => simp [EpochFenced, lifetimes]
    | first :: second :: processes =>
        have notFenced := not_epochFenced_cons_cons limits first second processes
        simp [notFenced]
  · have all : (lifetimes limits none processes).Pairwise fun _ _ => True :=
      List.pairwise_of_forall fun _ _ => trivial
    apply all.imp_of_mem
    intro earlier later earlierMem laterMem _ hello accepted
    have epoch := acceptedHellos_epoch accepted
    rw [start_epoch earlierMem] at epoch
    exact ⟨handshake 0 hello, started_accepts processes laterMem epoch⟩

/-- Two processes, of which the first accepts boot 1 of a worker. -/
def restarted : List Process :=
  let first : Process :=
    { restoredAt := {}
      events := handshake 0 { worker := ⟨1⟩, boot := ⟨1⟩, epoch := ⟨1⟩ }
      captured := 3
      capturedAt := {} }
  [first, { first with events := [] }]

/-- The second process accepts the HELLO that the first one accepted. -/
theorem replay_accepted_after_restart :
    ¬∀ (limits : Limits) (processes : List Process), EpochFenced limits processes := by
  intro fenced
  have refused := (List.pairwise_pair.mp (fenced {} restarted)
    (handshake 0 { worker := ⟨1⟩, boot := ⟨1⟩, epoch := ⟨1⟩ })).2
  exact absurd refused (by decide +kernel)

end NvlinkFabric.Coordinator

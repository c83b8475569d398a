import NvlinkFabric.Coordinator.Session
import NvlinkFabric.Lib.LastWriter

/-!
# Starting and stopping the server

`start` spawns a thread that accepts connections and gives each its own handler
thread; `stop` clears the flag that this thread looks at, joins it, and then joins
every handler.  The threads interleave freely, and `stop` closes no connection of a
worker: it waits until the worker goes.
-/

namespace NvlinkFabric.Coordinator

open Wire

/-- What the system calls of `start` come to. -/
inductive Setup where
  | socketFailed | bindFailed | listenFailed | nameFailed
  | bound (port : UInt16)

/-- The result of `start`, given the text of `sock_error`. -/
def Setup.result (sockError : Text) : Setup → Result UInt16
  | .socketFailed => err .backendError ("socket() failed: " ++ sockError)
  | .bindFailed => err .backendError ("bind() failed: " ++ sockError)
  | .listenFailed => err .backendError ("listen() failed: " ++ sockError)
  | .nameFailed => err .backendError "getsockname() failed"
  | .bound port => .ok port

/-- Where the accepting thread stands; `absent` if it was not spawned or was joined. -/
inductive Acceptor where
  | absent
  | testing
  | polling
  | accepting
  | holding (client : Nat)
  | ended
  deriving DecidableEq

/-- Where the owner of the server stands in `stop`; `free` outside of it. -/
inductive Control where
  | free
  | closing
  | joiningAcceptor
  | swapping
  | joining (live : List Nat)
  deriving DecidableEq

/-- `CoordinatorServer` with its threads.  Connections are numbered in the order in
which they are accepted. -/
structure Lifecycle where
  session : Session
  running : Bool := false
  acceptor : Acceptor := .absent
  accepted : Nat := 0
  connThreads : List Nat := []
  control : Control := .free
  aborted : Bool := false

/-- One step of some thread: the owner calls `start` or `stop` or goes on with `stop`,
the accepting thread goes on with what `select` or `accept` answers, a handler goes on,
or the embedding process calls the registry. -/
inductive Action where
  | start (setup : Setup)
  | stop
  | proceed
  | accept (answer : Bool)
  | receive (connection : Nat) (ambient : Ambient)
  | reply (connection : Nat) (sent : Bool)
  | leave (connection : Nat)
  | direct (call : Registry.Call)

namespace Lifecycle

variable (limits : Limits) (life : Lifecycle)

/-- The handler of a connection has returned. -/
def finished (connection : Nat) : Bool := life.session.phase connection = some .closed

/-- A step of a handler, or of the embedding process. -/
def turn (turn : Turn) : Lifecycle :=
  { life with session := life.session.step limits turn }

/-- `start`: a thread that was not joined must not be assigned to. -/
def start (setup : Setup) : Lifecycle :=
  match setup with
  | .bound _ =>
      if life.acceptor = .absent then { life with running := true, acceptor := .testing }
      else { life with aborted := true }
  | _ => life

/-- The next step of `stop`. -/
def proceed : Lifecycle :=
  match life.control with
  | .free => life
  | .closing => { life with control := .joiningAcceptor }
  | .joiningAcceptor =>
      if life.acceptor = .absent ∨ life.acceptor = .ended then
        { life with acceptor := .absent, control := .swapping }
      else life
  | .swapping => { life with connThreads := [], control := .joining life.connThreads }
  | .joining [] => { life with control := .free }
  | .joining (client :: live) =>
      if life.finished client then { life with control := .joining live } else life

/-- The next step of the accepting thread. -/
def accept (answer : Bool) : Lifecycle :=
  match life.acceptor with
  | .absent | .ended => life
  | .testing => { life with acceptor := if life.running then .polling else .ended }
  | .polling => { life with acceptor := if answer then .accepting else .testing }
  | .accepting =>
      if answer then
        { life with acceptor := .holding life.accepted, accepted := life.accepted + 1 }
      else { life with acceptor := if life.running then .testing else .ended }
  | .holding client =>
      { life.turn limits (.connect client) with
        acceptor := .testing
        connThreads := life.connThreads ++ [client] }

def step (action : Action) : Lifecycle :=
  if life.aborted then life
  else
    match action with
    | .start setup => if life.control = .free then life.start setup else life
    | .stop =>
        if life.control = .free then { life with running := false, control := .closing }
        else life
    | .proceed => life.proceed
    | .accept answer => life.accept limits answer
    | .receive connection ambient => life.turn limits (.receive connection ambient)
    | .reply connection sent => life.turn limits (.reply connection sent)
    | .leave connection => life.turn limits (.leave connection)
    | .direct call => life.turn limits (.direct call)

end Lifecycle

/-- The server after some steps of its threads. -/
abbrev Lifecycle.run (limits : Limits) (life : Lifecycle)
    (actions : List Action) : Lifecycle :=
  Transition.run (Lifecycle.step limits) life actions

/-- A server that was just constructed, and what will arrive on its connections. -/
def Lifecycle.initial (counter : UInt64) (incoming : Nat → Socket) : Lifecycle where
  session := { server := construct counter, incoming }

section Settled

variable {limits : Limits} {session : Session} {connection : Nat}

/-- A handler that was not started, or that returned, does not move on its own. -/
theorem phase_settled {turn : Turn} (unconnected : ∀ client, turn ≠ .connect client)
    (settled : session.phase connection = none ∨
      session.phase connection = some .closed) :
    (session.step limits turn).phase connection = session.phase connection := by
  by_cases other : turn.connection ≠ some connection
  · exact phase_untouched other
  · cases turn with
    | direct call => rfl
    | connect client => exact absurd rfl (unconnected client)
    | receive moved ambient =>
        obtain rfl : moved = connection := Option.some.inj (not_ne_iff.mp other)
        have idle : session.phase moved ≠ some .awaitingHello := by
          rcases settled with none | closed
          · simp [none]
          · simp [closed]
        have unserved (hello : Hello) : session.phase moved ≠ some (.serving hello) := by
          rcases settled with none | closed
          · simp [none]
          · simp [closed]
        rw [Session.step, receive_idle idle unserved]
    | reply moved sent =>
        obtain rfl : moved = connection := Option.some.inj (not_ne_iff.mp other)
        rw [Session.phase, Session.phase] at *
        rcases settled with none | closed
        · simp only [Session.step, Coordinator.step, none]
        · simp only [Session.step, Coordinator.step, closed]
    | leave moved =>
        obtain rfl : moved = connection := Option.some.inj (not_ne_iff.mp other)
        rw [Session.phase, Session.phase] at *
        rcases settled with none | closed
        · simp only [Session.step, Coordinator.step, none]
        · simp only [Session.step, Coordinator.step, closed]

theorem phase_connect (unused : session.phase connection = none) :
    (session.step limits (.connect connection)).phase connection =
      some .awaitingHello := by
  rw [Session.phase] at unused
  simp only [Session.step, Session.phase, step_connect limits unused, find?_moveTo_self]

end Settled

/-! ## Where the connections are -/

/-- The handlers that `stop` still has to join. -/
def Control.live : Control → List Nat
  | .joining live => live
  | _ => []

/-- Every accepted connection is held by the accepting thread, has a handler that is
listed or about to be joined, or is finished. -/
structure Tracked (life : Lifecycle) : Prop where
  future : ∀ client, life.accepted ≤ client → life.session.phase client = none
  held : ∀ client, life.acceptor = .holding client →
    client + 1 = life.accepted ∧ life.session.phase client = none
  threaded : ∀ client < life.accepted, life.acceptor = .holding client ∨
    client ∈ life.connThreads ∨ client ∈ life.control.live ∨ life.finished client = true
  stopping : life.control ≠ .free → life.running = false
  absent : life.acceptor = .absent → life.running = false ∧
    (life.control ≠ .swapping → life.connThreads = [])
  joined : life.control = .swapping ∨ (∃ live, life.control = .joining live) →
    life.acceptor = .absent

theorem tracked_initial (counter : UInt64) (incoming : Nat → Socket) :
    Tracked (.initial counter incoming) where
  future _ _ := rfl
  held _ held := by cases held
  threaded client below := absurd below (Nat.not_lt_zero client)
  stopping moving := absurd rfl moving
  absent _ := ⟨rfl, fun _ => rfl⟩
  joined joining := by
    rcases joining with swapping | ⟨live, joining⟩
    · cases swapping
    · cases joining

namespace Tracked

variable {limits : Limits} {life : Lifecycle}

/-- A step that moves no handler out of rest, and nothing else. -/
theorem turned (tracked : Tracked life) {turn : Turn}
    (unconnected : ∀ client, turn ≠ .connect client) :
    Tracked (life.turn limits turn) where
  future client unused := by
    have none := tracked.future client unused
    exact (phase_settled unconnected (.inl none)).trans none
  held client held := by
    obtain ⟨last, none⟩ := tracked.held client held
    exact ⟨last, (phase_settled unconnected (.inl none)).trans none⟩
  threaded client below := by
    refine (tracked.threaded client below).imp_right
      (.imp_right (.imp_right fun done => ?_))
    have closed : life.session.phase client = some .closed := of_decide_eq_true done
    exact decide_eq_true ((phase_settled unconnected (.inr closed)).trans closed)
  stopping := tracked.stopping
  absent := tracked.absent
  joined := tracked.joined

theorem started (tracked : Tracked life) (setup : Setup) (free : life.control = .free) :
    Tracked (life.start setup) := by
  cases setup with
  | bound port =>
      simp only [Lifecycle.start]
      split
      next absent =>
        exact
          { future := tracked.future
            held := by simp
            threaded := fun client below => .inr <|
              (tracked.threaded client below).resolve_left (by simp [absent])
            stopping := fun moving => absurd free moving
            absent := by simp
            joined := by simp [free] }
      · exact
          { future := tracked.future
            held := tracked.held
            threaded := tracked.threaded
            stopping := tracked.stopping
            absent := tracked.absent
            joined := tracked.joined }
  | socketFailed | bindFailed | listenFailed | nameFailed => exact tracked

theorem stopped (tracked : Tracked life) (free : life.control = .free) :
    Tracked { life with running := false, control := .closing } where
  future := tracked.future
  held := tracked.held
  threaded client below := by
    have place := tracked.threaded client below
    rw [free] at place
    exact place
  stopping _ := rfl
  absent absent := ⟨rfl, fun _ => (tracked.absent absent).2 (by simp [free])⟩
  joined := by simp

theorem proceeded (tracked : Tracked life) : Tracked life.proceed := by
  unfold Lifecycle.proceed
  split
  next free => exact tracked
  next closing =>
    exact
      { future := tracked.future
        held := tracked.held
        threaded := fun client below => by
          have place := tracked.threaded client below
          rw [closing] at place
          exact place
        stopping := fun _ => tracked.stopping (by simp [closing])
        absent := fun absent => ⟨(tracked.absent absent).1, fun _ =>
          (tracked.absent absent).2 (by simp [closing])⟩
        joined := by simp }
  next joiningAcceptor =>
    split
    next gone =>
      exact
        { future := tracked.future
          held := by simp
          threaded := fun client below => by
            have place := tracked.threaded client below
            rw [joiningAcceptor] at place
            refine .inr (place.resolve_left fun held => ?_)
            rcases gone with absent | ended
            · simp [absent] at held
            · simp [ended] at held
          stopping := fun _ => tracked.stopping (by simp [joiningAcceptor])
          absent := fun _ => ⟨tracked.stopping (by simp [joiningAcceptor]), by simp⟩
          joined := fun _ => rfl }
    · exact tracked
  next swapping =>
    have absent := tracked.joined (.inl swapping)
    exact
      { future := tracked.future
        held := tracked.held
        threaded := fun client below => by
          have place := tracked.threaded client below
          simp only [swapping, absent, Control.live, List.not_mem_nil, false_or,
            reduceCtorEq] at place
          simp only [Control.live, List.not_mem_nil, false_or]
          exact .inr place
        stopping := fun _ => tracked.stopping (by simp [swapping])
        absent := fun absent => ⟨(tracked.absent absent).1, fun _ => rfl⟩
        joined := fun _ => absent }
  next joining =>
    have absent := tracked.joined (.inr ⟨[], joining⟩)
    exact
      { future := tracked.future
        held := tracked.held
        threaded := fun client below => by
          have place := tracked.threaded client below
          rw [joining] at place
          exact place
        stopping := by simp
        absent := fun absent => ⟨(tracked.absent absent).1, fun _ =>
          (tracked.absent absent).2 (by simp [joining])⟩
        joined := by simp }
  next client live joining =>
    have absent := tracked.joined (.inr ⟨client :: live, joining⟩)
    split
    next done =>
      exact
        { future := tracked.future
          held := tracked.held
          threaded := fun other below => by
            have place := tracked.threaded other below
            simp only [joining, Control.live, List.mem_cons] at place ⊢
            rcases place with held | listed | (rfl | waiting) | finished
            · exact .inl held
            · exact .inr (.inl listed)
            · exact .inr (.inr (.inr done))
            · exact .inr (.inr (.inl waiting))
            · exact .inr (.inr (.inr finished))
          stopping := fun _ => tracked.stopping (by simp [joining])
          absent := fun absent => ⟨(tracked.absent absent).1, fun _ =>
            (tracked.absent absent).2 (by simp [joining])⟩
          joined := fun _ => absent }
    · exact tracked

theorem accepts (tracked : Tracked life) (answer : Bool) :
    Tracked (life.accept limits answer) := by
  -- a thread that goes from one place without a client to another
  have moved {acceptor : Acceptor} (present : life.acceptor ≠ .absent)
      (free : ∀ client, life.acceptor ≠ .holding client) (next : acceptor ≠ .absent)
      (nextFree : ∀ client, acceptor ≠ .holding client) :
      Tracked { life with acceptor := acceptor } :=
    { future := tracked.future
      held := fun client held => absurd held (nextFree client)
      threaded := fun client below => .inr <|
        (tracked.threaded client below).resolve_left (free client)
      stopping := tracked.stopping
      absent := fun absent => absurd absent next
      joined := fun joining => absurd (tracked.joined joining) present }
  unfold Lifecycle.accept
  split
  · exact tracked
  · exact tracked
  next testing =>
    refine moved (by simp [testing]) (by simp [testing]) ?_ ?_
    · split <;> simp
    · split <;> simp
  next polling =>
    refine moved (by simp [polling]) (by simp [polling]) ?_ ?_
    · split <;> simp
    · split <;> simp
  next accepting =>
    split
    · exact
        { future := fun client unused => tracked.future client (by simp at unused; omega)
          held := fun client held => by
            simp only [Acceptor.holding.injEq] at held
            subst held
            exact ⟨rfl, tracked.future _ (le_refl _)⟩
          threaded := fun client below => by
            rcases Nat.lt_succ_iff_lt_or_eq.mp below with earlier | rfl
            · exact .inr ((tracked.threaded client earlier).resolve_left
                (by simp [accepting]))
            · exact .inl rfl
          stopping := tracked.stopping
          absent := by simp
          joined := fun joining => absurd (tracked.joined joining) (by simp [accepting]) }
    · refine moved (by simp [accepting]) (by simp [accepting]) ?_ ?_
      · split <;> simp
      · split <;> simp
  next client held =>
    obtain ⟨last, unused⟩ := tracked.held client held
    have others {other : Nat} (different : other ≠ client) :
        (life.session.step limits (.connect client)).phase other =
          life.session.phase other :=
      phase_untouched fun same => different (Option.some.inj same).symm
    exact
      { future := fun other unused => by
          simp only [Lifecycle.turn] at unused ⊢
          rw [others (by omega)]
          exact tracked.future other unused
        held := by simp
        threaded := fun other below => by
          by_cases same : other = client
          · exact .inr (.inl (by simp [same]))
          · have place := (tracked.threaded other below).resolve_left (by
              rw [held]
              exact fun equal => same (Acceptor.holding.inj equal).symm)
            rcases place with listed | waiting | done
            · exact .inr (.inl (List.mem_append_left _ listed))
            · exact .inr (.inr (.inl waiting))
            · refine .inr (.inr (.inr ?_))
              rw [Lifecycle.finished] at done ⊢
              simpa [Lifecycle.turn, others same] using done
        stopping := tracked.stopping
        absent := by simp
        joined := fun joining => absurd (tracked.joined joining) (by simp [held]) }

theorem step (tracked : Tracked life) (action : Action) :
    Tracked (life.step limits action) := by
  unfold Lifecycle.step
  split
  · exact tracked
  · cases action with
    | start setup =>
        dsimp only
        split
        next free => exact tracked.started setup free
        · exact tracked
    | stop =>
        dsimp only
        split
        next free => exact tracked.stopped free
        · exact tracked
    | proceed => exact tracked.proceeded
    | accept answer => exact tracked.accepts answer
    | receive | reply | leave | direct => exact tracked.turned (by simp)

end Tracked

theorem tracked_run (limits : Limits) (counter : UInt64) (incoming : Nat → Socket)
    (actions : List Action) :
    Tracked (Lifecycle.run limits (.initial counter incoming) actions) :=
  Transition.invariant_run (fun _ action tracked => tracked.step action)
    (tracked_initial counter incoming) actions

/-! ## After `stop` -/

/-- Nothing runs: no thread accepts connections and no `stop` is under way. -/
def Lifecycle.AtRest (life : Lifecycle) : Prop :=
  life.control = .free ∧ life.acceptor = .absent

/-- The accepting thread may still accept a connection without looking at the flag. -/
def Acceptor.pending : Acceptor → Nat
  | .polling | .accepting => 1
  | _ => 0

theorem pending_le_one (acceptor : Acceptor) : acceptor.pending ≤ 1 := by
  cases acceptor <;> simp [Acceptor.pending]

/-- Once the flag is cleared, the accepting thread accepts what it was about to accept. -/
theorem accepted_step {limits : Limits} {life : Lifecycle} (tracked : Tracked life)
    (stopping : life.control ≠ .free) (action : Action) :
    (life.step limits action).accepted + (life.step limits action).acceptor.pending ≤
      life.accepted + life.acceptor.pending := by
  have cleared := tracked.stopping stopping
  unfold Lifecycle.step
  split
  · exact le_refl _
  · cases action with
    | start | stop => simp
    | receive | reply | leave | direct => exact le_refl _
    | proceed =>
        simp only [Lifecycle.proceed]
        split
        · exact le_refl _
        · exact le_refl _
        · split
          · simp [Acceptor.pending]
          · exact le_refl _
        · exact le_refl _
        · exact le_refl _
        · split <;> exact le_refl _
    | accept answer =>
        simp only [Lifecycle.accept]
        split
        next absent => exact le_refl _
        next ended => exact le_refl _
        next testing => simp [cleared, testing, Acceptor.pending]
        next polling => split <;> simp [polling, Acceptor.pending]
        next accepting =>
          split
          · simp [accepting, Acceptor.pending]
          · simp [cleared, accepting, Acceptor.pending]
        next client held => simp [Acceptor.pending, Lifecycle.turn]

/-- While `stop` is under way at most one more connection is accepted. -/
theorem accepted_run {limits : Limits} {life : Lifecycle} (tracked : Tracked life)
    {actions : List Action}
    (stopping : Transition.Along (Lifecycle.step limits) (fun life _ =>
      life.control ≠ .free)
      life actions) :
    (Lifecycle.run limits life actions).accepted ≤ life.accepted + 1 := by
  have bounded : Tracked (Lifecycle.run limits life actions) ∧
      (Lifecycle.run limits life actions).accepted +
        (Lifecycle.run limits life actions).acceptor.pending ≤
          life.accepted + life.acceptor.pending :=
    Transition.invariant_along
      (fun state action moving (before : Tracked state ∧
          state.accepted + state.acceptor.pending ≤
            life.accepted + life.acceptor.pending) =>
        ⟨before.1.step action, (accepted_step before.1 moving action).trans before.2⟩)
      ⟨tracked, le_refl _⟩ stopping
  have last := pending_le_one life.acceptor
  omega

/-- The flag is cleared, no handler is left to be joined, and exactly the connections that
were accepted have a handler, which has returned. -/
structure Lifecycle.Done (life : Lifecycle) : Prop where
  cleared : life.running = false
  joined : life.connThreads = []
  returned : ∀ client, life.session.phase client =
    if client < life.accepted then some .closed else none

/-- Once nothing runs, every handler that was started has returned. -/
theorem Tracked.at_rest {life : Lifecycle} (tracked : Tracked life) (rest : life.AtRest) :
    life.Done := by
  obtain ⟨free, absent⟩ := rest
  obtain ⟨cleared, idle⟩ := tracked.absent absent
  have empty : life.connThreads = [] := idle (by simp [free])
  refine ⟨cleared, empty, fun client => ?_⟩
  split
  next below =>
    have place := tracked.threaded client below
    simp only [absent, empty, free, Control.live, List.not_mem_nil, reduceCtorEq,
      false_or] at place
    exact of_decide_eq_true place
  next future => exact tracked.future client (not_lt.mp future)

/-- When `stop` returns, nothing runs. -/
theorem Tracked.returned {limits : Limits} {life : Lifecycle} (tracked : Tracked life)
    {action : Action} (stopping : life.control ≠ .free)
    (free : (life.step limits action).control = .free) :
    (life.step limits action).AtRest := by
  refine ⟨free, ?_⟩
  unfold Lifecycle.step at free ⊢
  split at free
  · exact absurd free stopping
  next alive =>
    rw [if_neg alive]
    cases action with
    | start | stop =>
        simp only [stopping] at free
    | receive | reply | leave | direct => exact absurd free stopping
    | accept answer =>
        have kept : (life.accept limits answer).control = life.control := by
          unfold Lifecycle.accept
          repeat' split
          all_goals rfl
        exact absurd (kept.symm.trans free) stopping
    | proceed =>
        simp only [Lifecycle.proceed] at free ⊢
        split at free
        next idle => exact absurd idle stopping
        next => cases free
        next joiningAcceptor =>
          split at free
          · cases free
          · exact absurd free stopping
        next => cases free
        next joining => exact tracked.joined (.inr ⟨[], joining⟩)
        next client live joining =>
          split at free
          · cases free
          · exact absurd free stopping

/-- However the threads interleave, no connection is lost: nothing runs after `stop` has
returned, and whenever nothing runs, each accepted connection has had a handler, which has
returned, and no handler is left to be joined.  While a `stop` is under way, at most one
more connection is accepted. -/
theorem stop_completes (limits : Limits) (counter : UInt64) (incoming : Nat → Socket)
    (actions : List Action) :
    let life := Lifecycle.run limits (.initial counter incoming) actions
    (life.AtRest → life.Done) ∧
    (∀ action, life.control ≠ .free → (life.step limits action).control = .free →
      (life.step limits action).AtRest ∧ (life.step limits action).Done) ∧
    ∀ more, Transition.Along (Lifecycle.step limits) (fun life _ => life.control ≠ .free)
        life more →
      (Lifecycle.run limits life more).accepted ≤ life.accepted + 1 := by
  intro life
  have tracked : Tracked life := tracked_run limits counter incoming actions
  refine ⟨tracked.at_rest, fun action stopping free => ?_,
    fun more stopping => accepted_run tracked stopping⟩
  have rest := tracked.returned stopping free
  exact ⟨rest, (tracked.step action).at_rest rest⟩

/-- A server is started and serves the worker tool until its stream ends.  Then it is
stopped, as far as to the handlers that `stop` has to join. -/
def servedActions : List Action :=
  [.start (.bound 7), .accept true, .accept true, .accept true, .accept true,
    .receive 0 {}, .reply 0 true] ++ List.replicate 6 (.receive 0 {}) ++
    [.leave 0, .stop, .accept true, .proceed, .proceed, .proceed]

/-- The server whose `stop` joins the handler of the worker tool. -/
def servedStopping : Lifecycle := .run {} (.initial 0 toolSession.incoming) servedActions

/-- The `stop` of this server returns once it has joined the handler. -/
theorem served_stop_completes :
    servedStopping.control = .joining [0] ∧
      ((servedStopping.step {} .proceed).step {} .proceed).AtRest ∧
      ((servedStopping.step {} .proceed).step {} .proceed).session.phase 0 =
        some .closed := by
  have joining : servedStopping.control = .joining [0] := by decide +kernel
  have last : (servedStopping.step {} .proceed).control = .joining [] := by decide +kernel
  have ran : Lifecycle.run {} (.initial 0 toolSession.incoming)
      (servedActions ++ [.proceed]) =
      servedStopping.step {} .proceed := Transition.run_append _ _ _ _
  obtain ⟨-, returns, -⟩ :=
    stop_completes {} 0 toolSession.incoming (servedActions ++ [.proceed])
  rw [ran] at returns
  obtain ⟨rest, done⟩ := returns .proceed (by simp [last]) (by decide +kernel)
  refine ⟨joining, rest, ?_⟩
  have accepted : ((servedStopping.step {} .proceed).step {} .proceed).accepted = 1 := by
    decide +kernel
  rw [done.returned 0, accepted, if_pos Nat.zero_lt_one]

/-- How many steps the accepting thread is from its end, once the flag is cleared. -/
def Acceptor.rank : Acceptor → Nat
  | .absent | .ended => 0
  | .testing => 1
  | .holding _ => 2
  | .accepting => 3
  | .polling => 4

def Control.rank : Control → Nat
  | .free => 0
  | .joining live => live.length + 1
  | .swapping => 2
  | .joiningAcceptor => 3
  | .closing => 4

/-- A bound on the steps that are left of `stop`. -/
def Lifecycle.rank (life : Lifecycle) : Nat :=
  life.control.rank + life.connThreads.length + 2 * life.acceptor.rank

/-- A step of the accepting thread brings it closer to its end, if it has not ended. -/
theorem rank_accept {limits : Limits} {life : Lifecycle} (cleared : life.running = false)
    (answer : Bool) :
    (life.accept limits answer).rank < life.rank ∨ life.accept limits answer = life ∧
      (life.acceptor = .absent ∨ life.acceptor = .ended) := by
  unfold Lifecycle.accept
  split
  next absent => exact .inr ⟨rfl, .inl absent⟩
  next ended => exact .inr ⟨rfl, .inr ended⟩
  next testing => exact .inl (by simp [Lifecycle.rank, cleared, testing, Acceptor.rank])
  next polling =>
    refine .inl ?_
    split <;> simp [Lifecycle.rank, polling, Acceptor.rank]
  next accepting =>
    refine .inl ?_
    split
    · simp [Lifecycle.rank, accepting, Acceptor.rank]
    · simp [Lifecycle.rank, cleared, accepting, Acceptor.rank]
  next client held =>
    refine .inl ?_
    simp only [Lifecycle.rank, Lifecycle.turn, held, Acceptor.rank, List.length_append,
      List.length_singleton]
    omega

/-- A step of `stop` brings it closer to its end, unless it waits. -/
theorem rank_proceed {life : Lifecycle} (stopping : life.control ≠ .free) :
    life.proceed.rank < life.rank ∨ (life.proceed = life ∧
      (life.control = .joiningAcceptor ∧ life.acceptor ≠ .absent ∧
        life.acceptor ≠ .ended ∨
        ∃ client live, life.control = .joining (client :: live) ∧
          life.finished client = false)) := by
  unfold Lifecycle.proceed
  split
  next free => exact absurd free stopping
  next closing => exact .inl (by simp [Lifecycle.rank, closing, Control.rank])
  next joiningAcceptor =>
    split
    next gone =>
      refine .inl ?_
      rcases gone with absent | ended
      · simp [Lifecycle.rank, joiningAcceptor, absent, Control.rank, Acceptor.rank]
      · simp [Lifecycle.rank, joiningAcceptor, ended, Control.rank, Acceptor.rank]
    next going => exact .inr ⟨rfl, .inl ⟨joiningAcceptor, not_or.mp going⟩⟩
  next swapping =>
    refine .inl ?_
    simp only [Lifecycle.rank, swapping, Control.rank, List.length_nil]
    omega
  next joining => exact .inl (by simp [Lifecycle.rank, joining, Control.rank])
  next client live joining =>
    split
    next done => exact .inl (by simp [Lifecycle.rank, joining, Control.rank])
    next waiting =>
      exact .inr ⟨rfl, .inr ⟨client, live, joining, by simpa using waiting⟩⟩

/-- While a `stop` is under way no step takes it back, every step of the accepting thread
brings it closer to its end unless that thread is over, and `stop` itself or the accepting
thread goes on, whatever the polls answer, unless a handler to be joined has not
returned. -/
theorem stop_progress {limits : Limits} {counter : UInt64} {incoming : Nat → Socket}
    {actions : List Action} {life : Lifecycle}
    (reached : Lifecycle.run limits (.initial counter incoming) actions = life)
    (stopping : life.control ≠ .free) (alive : life.aborted = false) :
    (∀ action, (life.step limits action).rank ≤ life.rank) ∧
      (∀ answer, (life.step limits (.accept answer)).rank < life.rank ∨
        life.acceptor = .absent ∨ life.acceptor = .ended) ∧
      ((life.step limits .proceed).rank < life.rank ∨
        (∀ answer, (life.step limits (.accept answer)).rank < life.rank) ∨
        ∃ client live, life.control = .joining (client :: live) ∧
          life.finished client = false) := by
  have tracked : Tracked life := reached ▸ tracked_run limits counter incoming actions
  have cleared := tracked.stopping stopping
  have accepts (answer : Bool) :
      life.step limits (.accept answer) = life.accept limits answer := by
    simp [Lifecycle.step, alive]
  have proceeds : life.step limits .proceed =
      life.proceed := by simp [Lifecycle.step, alive]
  refine ⟨fun action => ?_, fun answer => ?_, ?_⟩
  · cases action with
    | start | stop => simp [Lifecycle.step, stopping]
    | receive | reply | leave | direct =>
        simp [Lifecycle.step, alive, Lifecycle.turn, Lifecycle.rank]
    | proceed =>
        rw [proceeds]
        rcases rank_proceed stopping with closer | ⟨same, -⟩
        · exact closer.le
        · rw [same]
    | accept answer =>
        rw [accepts]
        rcases rank_accept cleared answer with closer | ⟨same, -⟩
        · exact closer.le
        · rw [same]
  · rw [accepts]
    exact (rank_accept cleared answer).imp_right And.right
  · rcases rank_proceed stopping with closer | ⟨-, ⟨joining, present, going⟩ | waiting⟩
    · exact .inl (by rwa [proceeds])
    · refine .inr (.inl fun answer => ?_)
      rw [accepts]
      exact (rank_accept cleared answer).resolve_right fun unmoved =>
        unmoved.2.elim present going
    · exact .inr (.inr waiting)

/-- The handler of the worker tool has returned, so the `stop` that joins it goes on. -/
theorem served_stop_progresses :
    servedStopping.control = .joining [0] ∧
      (servedStopping.step {} .proceed).rank < servedStopping.rank := by
  have joining : servedStopping.control = .joining [0] := by decide +kernel
  have absent : servedStopping.acceptor = .absent := by decide +kernel
  have returned : servedStopping.finished 0 = true := by decide +kernel
  obtain ⟨-, -, goes⟩ := stop_progress
    (show Lifecycle.run {} (.initial 0 toolSession.incoming) servedActions =
      servedStopping
      from rfl) (by simp [joining]) (by decide +kernel)
  refine ⟨joining, ?_⟩
  rcases goes with closer | closer | ⟨client, live, waits, going⟩
  · exact closer
  · have idle : servedStopping.step {} (.accept true) = servedStopping := by
      simp [Lifecycle.step, Lifecycle.accept, absent]
    have below := closer true
    rw [idle] at below
    exact absurd below (lt_irrefl _)
  · rw [joining, Control.joining.injEq, List.cons.injEq] at waits
    rw [← waits.1, returned] at going
    cases going

end NvlinkFabric.Coordinator

import NvlinkFabric.Coordinator.Client
import NvlinkFabric.Coordinator.Epochs

/-!
# Authority of HELLOs

The validation of a HELLO and the record of its boot are one section under the
server lock, so the accepted boots of a worker increase in the order in which they
are accepted, whatever the other handlers do in between.  The verdict is kept by
the handler until its reply is sent.  It travels as a message type and a note, and
the client recovers it from these.
-/

namespace NvlinkFabric.Coordinator

open Wire ByteReader Transition

variable {limits : Limits} {server : Server} {event : Event} {events : List Event}
variable {connection : Nat} {hello : Hello} {worker : WorkerId}

/-- The boots of a worker that a server accepts, in the order of acceptance. -/
def acceptedBoots (limits : Limits) (server : Server) (events : List Event)
    (worker : WorkerId) : List WorkerBootId :=
  ((acceptedHellos limits server events).filter (·.worker = worker)).map (·.boot)

/-- The boot of a worker that an event gets accepted. -/
def acceptedBoot (server : Server) (event : Event) (worker : WorkerId) :
    Option WorkerBootId :=
  ((acceptedHello server event).filter (·.worker = worker)).map (·.boot)

theorem acceptedBoots_cons :
    acceptedBoots limits server (event :: events) worker =
      (acceptedBoot server event worker).toList ++
        acceptedBoots limits (step limits server event) events worker := by
  rw [acceptedBoots, acceptedHellos, acceptedBoot, acceptedBoots]
  cases acceptedHello server event with
  | none => simp
  | some hello =>
      by_cases same : hello.worker = worker
      · simp [same, Option.filter_some]
      · simp [same, Option.filter_some]

/-- An accepted boot of the worker becomes the recorded one; nothing else changes the
record. -/
theorem find?_lastBoot_step :
    (step limits server event).lastBoot.find? worker =
      (acceptedBoot server event worker).or (server.lastBoot.find? worker) := by
  rw [step_lastBoot, acceptedBoot]
  cases acceptedHello server event with
  | none => rfl
  | some hello =>
      by_cases same : hello.worker = worker
      · subst same
        simp [Option.filter_some]
      · have other : worker ≠ hello.worker := fun equal => same equal.symm
        simp [same, Option.filter_some, FiniteMap.find?_set_of_ne _ _ other]

/-- A boot is accepted only above the recorded one. -/
theorem lt_of_acceptedBoot {boot last : WorkerBootId}
    (accepted : acceptedBoot server event worker = some boot)
    (recorded : server.lastBoot.find? worker = some last) : last < boot := by
  simp only [acceptedBoot, Option.map_eq_some_iff, Option.filter_eq_some_iff,
    decide_eq_true_eq] at accepted
  obtain ⟨hello, ⟨validated, rfl⟩, rfl⟩ := accepted
  obtain ⟨-, -, -, -, admitted, -⟩ := acceptedHello_eq {} validated
  simp only [admits, recorded, Option.all_some, Bool.and_eq_true,
    decide_eq_true_eq] at admitted
  exact admitted.2

theorem Id.lt_trans {tag : Tag} {first second third : Id tag} (left : first < second)
    (right : second < third) : first < third :=
  UInt64.lt_trans left right

/-- From any record on, the accepted boots of a worker increase, start above the
recorded one and end in the recorded one. -/
theorem acceptedBoots_increasing (limits : Limits) (server : Server) (events : List Event)
    (worker : WorkerId) :
    (acceptedBoots limits server events worker).Pairwise (· < ·) ∧
      (∀ last ∈ server.lastBoot.find? worker,
        ∀ boot ∈ acceptedBoots limits server events worker, last < boot) ∧
      (run limits server events).lastBoot.find? worker =
        (acceptedBoots limits server events worker).getLast?.or
          (server.lastBoot.find? worker) := by
  induction events generalizing server with
  | nil => simp [acceptedBoots, acceptedHellos]
  | cons event events ih =>
      obtain ⟨increasing, above, recorded⟩ := ih (step limits server event)
      rw [find?_lastBoot_step] at above recorded
      rw [acceptedBoots_cons, run, run_cons]
      cases accepted : acceptedBoot server event worker with
      | none =>
          rw [accepted] at above recorded
          exact ⟨increasing, above, recorded⟩
      | some first =>
          rw [accepted] at above recorded
          have later (boot) (member : boot ∈
              acceptedBoots limits (step limits server event) events worker) :
                first < boot :=
            above first rfl boot member
          refine ⟨List.pairwise_cons.mpr ⟨later, increasing⟩, ?_, ?_⟩
          · intro last stored boot member
            have start := lt_of_acceptedBoot accepted stored
            rcases List.mem_cons.mp member with rfl | member
            · exact start
            · exact Id.lt_trans start (later boot member)
          · rw [recorded, Option.toList_some, List.singleton_append, List.getLast?_cons]
            cases (acceptedBoots limits (step limits server event) events
              worker).getLast? with
            | none => rfl
            | some boot => rfl

/-- The recorded boot is the largest of the accepted ones. -/
theorem le_getLast?_of_pairwise {boots : List WorkerBootId}
    (increasing : boots.Pairwise (· < ·)) {boot last : WorkerBootId}
    (member : boot ∈ boots) (final : boots.getLast? = some last) :
    boot ≤ last := by
  obtain ⟨before, rfl⟩ := List.getLast?_eq_some_iff.mp final
  rcases List.mem_append.mp member with earlier | same
  · have below := (List.pairwise_append.mp increasing).2.2 boot earlier last (by simp)
    exact UInt64.le_of_lt below
  · rw [List.mem_singleton.mp same]
    exact UInt64.le_refl _

/-- No step lowers a recorded boot, and only a HELLO can raise it. -/
theorem lastBoot_step_mono (limits : Limits) (event : Event) {last : WorkerBootId}
    (recorded : server.lastBoot.find? worker = some last) :
    ∃ later, (step limits server event).lastBoot.find? worker = some later ∧
      last ≤ later ∧
      ((∀ connection received, event ≠ .hello connection received) → later = last) := by
  rw [find?_lastBoot_step, recorded]
  cases accepted : acceptedBoot server event worker with
  | none => exact ⟨last, rfl, UInt64.le_refl _, fun _ => rfl⟩
  | some boot =>
      refine ⟨boot, rfl, UInt64.le_of_lt (lt_of_acceptedBoot accepted recorded),
        fun other => ?_⟩
      simp only [acceptedBoot, Option.map_eq_some_iff,
        Option.filter_eq_some_iff] at accepted
      obtain ⟨hello, ⟨validated, -⟩, -⟩ := accepted
      obtain ⟨connection, received, rfl, -⟩ := acceptedHello_eq {} validated
      exact absurd rfl (other connection received)

/-- A handler keeps its verdict until it sends its reply. -/
theorem step_replying {accepted : Bool}
    (replying : server.connections.find? connection = some (.replying hello accepted))
    (unsent : ∀ sent, event ≠ .reply connection sent) :
    (step limits server event).connections.find? connection =
      some (.replying hello accepted) := by
  -- Every other step moves a connection out of some other phase.
  have kept {moved : Nat} {phase : Phase} (base : Server)
      (same : base.connections = server.connections)
      (different : server.connections.find? moved ≠ some (.replying hello accepted)) :
      (base.moveTo moved phase).connections.find? connection =
        some (.replying hello accepted) := by
    have other : connection ≠ moved := by
      rintro rfl
      exact different replying
    rw [find?_moveTo_of_ne base phase other, same, replying]
  have outcome := step_outcome limits server event
  generalize step limits server event = next at outcome ⊢
  cases outcome with
  | ignored | published | called => exact replying
  | connected found | dropped found | admitted found | refused found | ended found
  | left found => exact kept _ rfl (by simp [found])
  | greeted | unserved =>
      have other : connection ≠ _ := fun same =>
        unsent _ (congrArg (Event.reply · _) same.symm)
      rw [find?_moveTo_of_ne server _ other, replying]

theorem run_replying {accepted : Bool} (limits : Limits)
    (replying : server.connections.find? connection = some (.replying hello accepted))
    (unsent : ∀ sent, .reply connection sent ∉ events) :
    (run limits server events).connections.find? connection =
      some (.replying hello accepted) := by
  induction events generalizing server with
  | nil => exact replying
  | cons event events ih =>
      rw [run, run_cons]
      apply ih
      · apply step_replying replying
        intro sent same
        exact unsent sent (same ▸ List.mem_cons_self)
      · intro sent member
        exact unsent sent (List.mem_cons_of_mem _ member)

theorem run_epoch (limits : Limits) (server : Server) (events : List Event) :
    (run limits server events).epoch = server.epoch := by
  induction events generalizing server with
  | nil => rfl
  | cons event events ih => rw [run, run_cons, ← step_epoch limits server event, ih]

/-- A HELLO is validated once it is received. -/
theorem step_hello (limits : Limits)
    (awaiting : server.connections.find? connection = some .awaitingHello) :
    (step limits server
        (.hello connection (.ok (helloFrame hello)))).connections.find? connection =
      some (.replying hello (admits server hello)) := by
  simp only [step, awaiting, onHello, helloFrame, parseHello_encoded]
  cases accepted : admits server hello with
  | true => simp
  | false => simp

/-! ## The client's verdict -/

theorem transmit_helloFrame (hello : Hello) :
    transmit (helloFrame hello) = .ok (helloFrame hello) :=
  transmit_eq rfl (by simp [helloFrame, encHello, kMax])

/-- A refusal with a note is classified by what the note says. -/
theorem connect_goodbye (note : Text) (short : note.length ≤ 65535)
    (nonempty : note ≠ []) :
    connect (transmit { type := .goodbye, payload := putStr note }) =
      err (if occursIn "epoch" note then .staleEpoch else .staleBoot) note := by
  have whole : sent note = note := List.take_of_length_le short
  have size := length_putStr_le note
  have arrived : transmit { type := .goodbye, payload := putStr note } =
      .ok { type := .goodbye, payload := putStr note } :=
    transmit_eq rfl (by simp only [kMax]; omega)
  simp [connect, arrived, (decodes_str note).runAll, whole, nonempty]

/-- The client recovers the server's verdict from the reply. -/
theorem connect_helloReply (epoch : CoordinatorEpoch) (hello : Hello) (accepted : Bool) :
    connect (transmit (helloReply epoch hello accepted)) =
      if accepted then .ok ()
      else if hello.epoch ≠ epoch then err .staleEpoch "stale coordinator epoch"
      else err .staleBoot "stale worker boot identity" := by
  cases accepted with
  | true =>
      have arrived : transmit { type := .ready, payload := putU64 epoch.value } =
          .ok { type := .ready, payload := putU64 epoch.value } :=
        transmit_eq rfl (by simp [kMax])
      simp [helloReply, arrived, connect]
  | false =>
      simp only [helloReply, Bool.false_eq_true, if_false]
      by_cases stale : hello.epoch ≠ epoch
      · rw [if_pos stale, if_pos stale,
          connect_goodbye _ (by decide +kernel) (by decide +kernel)]
        decide +kernel
      · rw [if_neg stale, if_neg stale,
          connect_goodbye _ (by decide +kernel) (by decide +kernel)]
        decide +kernel

/-- What both sides make of a HELLO: the verdict of the server that validated it, kept
by the server that replies, and the result that the client gets from the reply. -/
structure Agreed (limits : Limits) (server : Server) (connection : Nat) (hello : Hello)
    (later : List Event) : Prop where
  kept : (run limits server
      (.hello connection (transmit (helloFrame hello)) :: later)).connections.find?
        connection =
    some (.replying hello (admits server hello))
  accepted_iff :
    acceptedHello server (.hello connection (transmit (helloFrame hello))) = some hello ↔
      admits server hello = true
  ok_iff : connect (transmit (helloReply (run limits server
      (.hello connection (transmit (helloFrame hello)) :: later)).epoch hello
        (admits server hello))) = .ok () ↔ admits server hello = true
  staleEpoch_iff : (∃ message, connect (transmit (helloReply (run limits server
      (.hello connection (transmit (helloFrame hello)) :: later)).epoch hello
        (admits server hello))) = err .staleEpoch message) ↔ hello.epoch ≠ server.epoch
  staleBoot_iff : (∃ message, connect (transmit (helloReply (run limits server
      (.hello connection (transmit (helloFrame hello)) :: later)).epoch hello
        (admits server hello))) = err .staleBoot message) ↔
    hello.epoch = server.epoch ∧
      ∃ last, server.lastBoot.find? hello.worker = some last ∧ ¬last < hello.boot

theorem agreed {later : List Event} (limits : Limits)
    (awaiting : server.connections.find? connection = some .awaitingHello)
    (unsent : ∀ sent, .reply connection sent ∉ later) :
    Agreed limits server connection hello later := by
  have epoch : (run limits server
      (.hello connection (transmit (helloFrame hello)) :: later)).epoch = server.epoch :=
    run_epoch limits server _
  have accepts : admits server hello = true ↔ hello.epoch = server.epoch ∧
      ¬∃ last, server.lastBoot.find? hello.worker = some last ∧ ¬last < hello.boot := by
    simp only [admits, Bool.and_eq_true, decide_eq_true_eq]
    cases server.lastBoot.find? hello.worker <;> simp
  refine ⟨?_, ?_, ?_, ?_, ?_⟩
  · rw [run, run_cons, transmit_helloFrame]
    exact run_replying limits (step_hello limits awaiting) unsent
  · rw [transmit_helloFrame]
    simp only [acceptedHello, awaiting, helloFrame, parseHello_encoded]
    simp [Option.filter_some]
  · rw [epoch, connect_helloReply]
    cases admits server hello with
    | true => simp
    | false =>
        by_cases stale : hello.epoch = server.epoch
        · simp [stale, err]
        · simp [stale, err]
  · rw [epoch, connect_helloReply]
    by_cases stale : hello.epoch = server.epoch
    · cases admits server hello <;> simp [stale, err]
    · have refused : admits server hello = false := by simp [admits, stale]
      simp [refused, stale, err]
  · rw [epoch, connect_helloReply]
    cases admitted : admits server hello with
    | true =>
        have newer := (accepts.mp admitted).2
        simp only [if_true, err, reduceCtorEq, exists_false, newer, and_false]
    | false =>
        by_cases stale : hello.epoch = server.epoch
        · have old : ∃ last, server.lastBoot.find? hello.worker = some last ∧
              ¬last < hello.boot := by
            by_contra newer
            rw [accepts.mpr ⟨stale, newer⟩] at admitted
            simp at admitted
          simpa [stale, err] using old
        · simp [stale, err]

/-- In every run of a server the accepted boots of a worker increase, the recorded boot
is the last and largest of them, only the epoch of the server is accepted and no step
lowers a recorded boot; and every HELLO that is validated in the run is answered with
the verdict of its validation, from which the client draws the same conclusion. -/
theorem hello_authority (limits : Limits) (counter : UInt64) (events : List Event) :
    (∀ worker,
      (acceptedBoots limits (construct counter) events worker).Pairwise (· < ·) ∧
      (run limits (construct counter) events).lastBoot.find? worker =
        (acceptedBoots limits (construct counter) events worker).getLast? ∧
      ∀ boot ∈ acceptedBoots limits (construct counter) events worker,
        ∀ last ∈ (run limits (construct counter) events).lastBoot.find? worker,
          boot ≤ last) ∧
    (∀ hello ∈ acceptedHellos limits (construct counter) events,
      hello.epoch = (construct counter).epoch) ∧
    (∀ event worker last,
      (run limits (construct counter) events).lastBoot.find? worker = some last →
      ∃ later, (step limits (run limits (construct counter) events) event).lastBoot.find?
          worker = some later ∧ last ≤ later ∧
        ((∀ connection received, event ≠ .hello connection received) → later = last)) ∧
    ∀ connection hello later,
      (run limits (construct counter) events).connections.find? connection =
        some .awaitingHello →
      (∀ sent, .reply connection sent ∉ later) →
      Agreed limits (run limits (construct counter) events) connection hello later := by
  refine ⟨fun worker => ?_, fun hello accepted => acceptedHellos_epoch accepted,
    fun event worker last recorded => lastBoot_step_mono limits event recorded,
    fun connection hello later awaiting unsent => agreed limits awaiting unsent⟩
  obtain ⟨increasing, -, recorded⟩ :=
    acceptedBoots_increasing limits (construct counter) events worker
  have last : (run limits (construct counter) events).lastBoot.find? worker =
      (acceptedBoots limits (construct counter) events worker).getLast? := by
    rw [recorded, construct, FiniteMap.find?_empty, Option.or_none]
  refine ⟨increasing, last, fun boot member final found => ?_⟩
  rw [last] at found
  exact le_getLast?_of_pairwise increasing member found

/-- The second boot of a worker is accepted after the first, and the first is then
refused. -/
theorem second_boot_authority :
    acceptedBoots {} .initial
      (handshake 1 { worker := ⟨1⟩, boot := ⟨1⟩, epoch := ⟨1⟩ } ++
        handshake 2 { worker := ⟨1⟩, boot := ⟨2⟩, epoch := ⟨1⟩ } ++ [.connect 3]) ⟨1⟩ =
          [⟨1⟩, ⟨2⟩] ∧
    Agreed {} (run {} .initial
      (handshake 1 { worker := ⟨1⟩, boot := ⟨1⟩, epoch := ⟨1⟩ } ++
        handshake 2 { worker := ⟨1⟩, boot := ⟨2⟩, epoch := ⟨1⟩ } ++ [.connect 3])) 3
      { worker := ⟨1⟩, boot := ⟨1⟩, epoch := ⟨1⟩ } [.leave 1] :=
  ⟨by decide +kernel,
    (hello_authority {} 0 _).2.2.2 3 _ _ (by decide +kernel) (by simp)⟩

end NvlinkFabric.Coordinator

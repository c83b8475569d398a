import NvlinkFabric.Coordinator.Messages
import Mathlib.Logic.Function.Basic

/-!
# Worker sessions

The handlers of all connections share one registry, and each receives from a stream
of its own.  Whatever happens on the other connections, the calls that a worker's
connection makes are those of the messages that arrived whole, each once and in the
order in which they were sent, followed by one mark of the registry when the
connection ends.
-/

namespace NvlinkFabric.Coordinator

open Wire Framing Transition

/-! ## Turns -/

/-- The server with the receiving ends of its connections. -/
structure Session where
  server : Server
  incoming : Nat → Socket

/-- One step of some handler, or a call of the embedding process. -/
inductive Turn where
  | connect (connection : Nat)
  | receive (connection : Nat) (ambient : Ambient)
  | reply (connection : Nat) (sent : Bool)
  | leave (connection : Nat)
  | direct (call : Registry.Call)

namespace Session

variable (limits : Limits) (session : Session)

/-- What `recv_frame` returns on a connection. -/
def received (connection : Nat) : Result Frame :=
  (recvFrame (session.incoming connection) kMax).1

/-- The receiving ends after a call of `recv_frame`. -/
def takenFrom (connection : Nat) : Nat → Socket :=
  Function.update session.incoming connection
    (recvFrame (session.incoming connection) kMax).2

/-- A handler receives its HELLO, then its frames; in other phases it receives nothing. -/
def receive (connection : Nat) (ambient : Ambient) : Session :=
  match session.server.connections.find? connection with
  | some .awaitingHello =>
      { server := Coordinator.step limits session.server
          (.hello connection (session.received connection))
        incoming := session.takenFrom connection }
  | some (.serving _) =>
      { server := Coordinator.step limits session.server
          (.frame connection (session.received connection) ambient)
        incoming := session.takenFrom connection }
  | _ => session

def step (turn : Turn) : Session :=
  match turn with
  | .connect connection =>
      { session with
        server := Coordinator.step limits session.server (.connect connection) }
  | .receive connection ambient => session.receive limits connection ambient
  | .reply connection sent =>
      { session with
        server := Coordinator.step limits session.server (.reply connection sent) }
  | .leave connection =>
      { session with
        server := Coordinator.step limits session.server (.leave connection) }
  | .direct call =>
      { session with server := Coordinator.step limits session.server (.direct call) }

/-- The calls that a turn makes on the registry, with their connection. -/
def calls (turn : Turn) : List (Option Nat × Registry.Call) :=
  match turn with
  | .direct call => [(none, call)]
  | .receive connection ambient =>
      match session.server.connections.find? connection with
      | some (.serving hello) =>
          match session.received connection with
          | .error _ =>
              [(some connection, ⟨.markDynamicEvidenceRevalidationRequired, ambient⟩)]
          | .ok frame =>
              (publication hello frame ambient).toList.map (some connection, ·)
      | _ => []
  | _ => []

end Session

/-- The session after a sequence of turns. -/
abbrev Session.run (limits : Limits) (session : Session) (turns : List Turn) : Session :=
  Transition.run (Session.step limits) session turns

/-- The calls that a sequence of turns makes on the registry. -/
def Session.trace (limits : Limits) : Session → List Turn →
    List (Option Nat × Registry.Call)
  | _, [] => []
  | session, turn :: turns =>
      session.calls turn ++ Session.trace limits (session.step limits turn) turns

/-- The calls among them that a connection makes. -/
def ofConnection (connection : Nat) (trace : List (Option Nat × Registry.Call)) :
    List Registry.Call :=
  (trace.filter (·.1 = some connection)).map (·.2)

theorem ofConnection_append (connection : Nat)
    (first second : List (Option Nat × Registry.Call)) :
    ofConnection connection (first ++ second) =
      ofConnection connection first ++ ofConnection connection second := by
  simp [ofConnection]

/-- The connection that a turn is about. -/
def Turn.connection : Turn → Option Nat
  | .connect connection | .receive connection _ | .reply connection _
  | .leave connection => some connection
  | .direct _ => none

/-- Where the handler of a connection stands. -/
def Session.phase (session : Session) (connection : Nat) : Option Phase :=
  session.server.connections.find? connection

/-- A handler in the phase goes on with the turn. -/
def Turn.follows : Turn → Option Phase → Bool
  | .connect _, none | .receive _ _, some .awaitingHello | .receive _ _, some (.serving _)
  | .reply _ _, some (.replying _ _) | .leave _, some (.leaving _) => true
  | _, _ => false

/-- The handler of a connection goes on with the turn. -/
def Session.due (connection : Nat) (session : Session) (turn : Turn) : Bool :=
  turn.connection = some connection && turn.follows (session.phase connection)

/-- How many turns the handler of a connection takes. -/
def Session.taken (limits : Limits) (connection : Nat) : Session → List Turn → Nat
  | _, [] => 0
  | session, turn :: turns =>
      (session.due connection turn).toNat +
        Session.taken limits connection (session.step limits turn) turns

/-- The turn neither refuses the HELLO of a connection nor fails to send its reply. -/
def Session.welcomes (connection : Nat) (hello : Hello) (session : Session)
    (turn : Turn) :
    Bool :=
  turn.connection ≠ some connection ||
    match session.phase connection, turn with
    | some .awaitingHello, .receive _ _ => admits session.server hello
    | some (.replying _ _), .reply _ sent => sent
    | _, _ => true

/-- The connection that an event is about. -/
def Event.connection : Event → Option Nat
  | .connect connection | .hello connection _ | .reply connection _
  | .frame connection _ _ | .leave connection => some connection
  | .direct _ => none

/-- A step leaves the other connections alone. -/
theorem find?_step_of_ne {limits : Limits} {server : Server} {event : Event}
    {connection : Nat} (other : event.connection ≠ some connection) :
    (Coordinator.step limits server event).connections.find? connection =
      server.connections.find? connection := by
  have moved {base : Server} {target : Nat} (phase : Phase) (different : some target ≠
      some connection) : (base.moveTo target phase).connections.find? connection =
        base.connections.find? connection :=
    find?_moveTo_of_ne base phase fun same => different (congrArg some same.symm)
  generalize after : Coordinator.step limits server event = next
  have outcome := step_outcome limits server event
  rw [after] at outcome
  cases outcome with
  | ignored => rfl
  | published => rfl
  | called => rfl
  | connected | dropped | admitted | refused | greeted | unserved | ended | left =>
      exact moved _ other

section Turns

variable {limits : Limits} {session : Session} {connection : Nat}

theorem receive_serving {hello : Hello}
    (serving : session.phase connection = some (.serving hello)) (ambient : Ambient) :
    session.receive limits connection ambient =
      { server :=
          onFrame limits session.server connection hello (session.received connection)
            ambient
        incoming := session.takenFrom connection } := by
  rw [Session.phase] at serving
  simp only [Session.receive, serving, Coordinator.step]

theorem receive_awaiting (awaiting : session.phase connection = some .awaitingHello)
    (ambient : Ambient) :
    session.receive limits connection ambient =
      { server := onHello session.server connection (session.received connection)
        incoming := session.takenFrom connection } := by
  rw [Session.phase] at awaiting
  simp only [Session.receive, awaiting, Coordinator.step]

theorem receive_idle (idle : session.phase connection ≠ some .awaitingHello)
    (unserved : ∀ hello, session.phase connection ≠ some (.serving hello))
    (ambient : Ambient) : session.receive limits connection ambient = session := by
  unfold Session.receive
  split
  next awaiting => exact absurd awaiting idle
  next hello serving => exact absurd serving (unserved hello)
  · rfl

theorem calls_serving {hello : Hello}
    (serving : session.phase connection = some (.serving hello)) (ambient : Ambient) :
    session.calls (.receive connection ambient) =
      match session.received connection with
      | .error _ =>
          [(some connection, ⟨.markDynamicEvidenceRevalidationRequired, ambient⟩)]
      | .ok frame =>
          (publication hello frame ambient).toList.map (some connection, ·) := by
  rw [Session.phase] at serving
  simp only [Session.calls, serving]

theorem calls_unserved
    (unserved : ∀ hello, session.phase connection ≠ some (.serving hello))
    (ambient : Ambient) : session.calls (.receive connection ambient) = [] := by
  simp only [Session.calls]
  split
  next hello serving => exact absurd serving (unserved hello)
  · rfl

/-- A turn acts on the registry through its calls. -/
theorem registry_turn (turn : Turn) :
    (session.step limits turn).server.registry =
      Registry.run limits session.server.registry ((session.calls turn).map (·.2)) := by
  cases turn with
  | direct call => rfl
  | connect connection =>
      simp only [Session.step, Coordinator.step]
      split <;> rfl
  | reply connection sent =>
      simp only [Session.step, Coordinator.step]
      split
      · split <;> rfl
      · rfl
  | leave connection =>
      simp only [Session.step, Coordinator.step]
      split <;> rfl
  | receive connection ambient =>
      by_cases serving : ∃ hello, session.phase connection = some (.serving hello)
      · obtain ⟨hello, serving⟩ := serving
        rw [calls_serving serving, Session.step, receive_serving serving]
        cases session.received connection with
        | error error => rfl
        | ok frame =>
            simp only [onFrame]
            cases publication hello frame ambient <;> rfl
      · rw [calls_unserved (not_exists.mp serving), Session.step]
        by_cases awaiting : session.phase connection = some .awaitingHello
        · rw [receive_awaiting awaiting]
          simp only [onHello]
          split
          · rfl
          · split <;> rfl
        · rw [receive_idle awaiting (not_exists.mp serving)]
          rfl

/-- A turn leaves the other connections alone. -/
theorem phase_untouched {turn : Turn} (other : turn.connection ≠ some connection) :
    (session.step limits turn).phase connection = session.phase connection := by
  cases turn with
  | direct call => rfl
  | connect moved => exact find?_step_of_ne other
  | reply moved sent => exact find?_step_of_ne other
  | leave moved => exact find?_step_of_ne other
  | receive moved ambient =>
      simp only [Session.step, Session.receive]
      split
      · exact find?_step_of_ne other
      · exact find?_step_of_ne other
      · rfl

theorem incoming_untouched {turn : Turn} (other : turn.connection ≠ some connection) :
    (session.step limits turn).incoming connection = session.incoming connection := by
  cases turn with
  | direct | connect | reply | leave => rfl
  | receive moved ambient =>
      have different : connection ≠ moved := fun same => other (congrArg some same.symm)
      simp only [Session.step, Session.receive]
      split
      · exact Function.update_of_ne different _ _
      · exact Function.update_of_ne different _ _
      · rfl

theorem ofConnection_untouched {turn : Turn} (other : turn.connection ≠ some connection) :
    ofConnection connection (session.calls turn) = [] := by
  cases turn with
  | direct | connect | reply | leave => rfl
  | receive moved ambient =>
      have different : moved ≠ connection := fun same => other (congrArg some same)
      simp only [Session.calls]
      split
      · split <;> simp [ofConnection, different]
      · rfl

theorem follows_reply {phase : Option Phase} {sent : Bool}
    (follows : (Turn.reply connection sent).follows phase = true) :
    ∃ hello accepted, phase = some (.replying hello accepted) := by
  rcases phase with _ | _ | ⟨hello, accepted⟩ | _ | _ | _
  case replying => exact ⟨hello, accepted, rfl⟩
  all_goals cases follows

theorem follows_leave {phase : Option Phase}
    (follows : (Turn.leave connection).follows phase = true) :
    ∃ hello, phase = some (.leaving hello) := by
  rcases phase with _ | _ | _ | _ | hello | _
  case leaving => exact ⟨hello, rfl⟩
  all_goals cases follows

theorem follows_receive {phase : Option Phase} {ambient : Ambient}
    (follows : (Turn.receive connection ambient).follows phase = true) :
    phase = some .awaitingHello ∨ ∃ hello, phase = some (.serving hello) := by
  rcases phase with _ | _ | _ | hello | _ | _
  case awaitingHello => exact .inl rfl
  case serving => exact .inr ⟨hello, rfl⟩
  all_goals cases follows

theorem due_untouched {turn : Turn} (other : turn.connection ≠ some connection) :
    session.due connection turn = false := by
  simp [Session.due, other]

/-- No turn changes how the transport of a connection behaves. -/
theorem transport_turn (turn : Turn) :
    ((session.step limits turn).incoming connection).transport =
      (session.incoming connection).transport := by
  by_cases other : turn.connection ≠ some connection
  · rw [incoming_untouched other]
  · cases turn with
    | direct | connect | reply | leave => rfl
    | receive moved ambient =>
        obtain rfl : moved = connection := Option.some.inj (not_ne_iff.mp other)
        have taken : (session.takenFrom moved moved).transport =
            (session.incoming moved).transport := by
          rw [Session.takenFrom, Function.update_self, recvFrame_transport]
        simp only [Session.step, Session.receive]
        split
        · exact taken
        · exact taken
        · rfl

end Turns

/-! ## The calls of a session -/

/-- The calls are those of the messages that publish something, each once and in
order. -/
def Carried (hello : Hello) (messages : List Message)
    (calls : List Registry.Call) : Prop :=
  List.Forall₂ (fun message call => ∃ ambient, message.call hello ambient = some call)
    (messages.filter (·.publishes)) calls

/-- What the calls of a connection amount to, by the phase of its handler, where
`arrived` are the messages of its worker that arrived whole.  Only a connection whose
worker is not served ends without a call. -/
inductive Account (reliable served : Prop) (hello : Hello) (arrived : List Message) :
    Option Phase → List Registry.Call → Prop where
  | waiting {phase : Option Phase} :
      (phase = none ∨ phase = some .awaitingHello ∨
        ∃ accepted, phase = some (.replying hello accepted)) →
      Account reliable served hello arrived phase []
  | refused : ¬served → Account reliable served hello arrived (some .closed) []
  | serving {delivered : List Message} {calls : List Registry.Call} :
      delivered <+: arrived → Carried hello delivered calls →
      Account reliable served hello arrived (some (.serving hello)) calls
  | ended {phase : Option Phase} {delivered : List Message} {calls : List Registry.Call}
      {ambient : Ambient} :
      phase = some (.leaving hello) ∨ phase = some .closed → delivered <+: arrived →
      (reliable → delivered = arrived) → Carried hello delivered calls →
      Account reliable served hello arrived phase
        (calls ++ [⟨.markDynamicEvidenceRevalidationRequired, ambient⟩])

/-- A message that is received adds its call, if it makes one. -/
theorem Carried.concat {hello : Hello} {messages : List Message}
    {calls : List Registry.Call} (carried : Carried hello messages calls)
    (message : Message) (ambient : Ambient) :
    Carried hello (messages ++ [message])
      (calls ++ (message.call hello ambient).toList) := by
  unfold Carried at carried ⊢
  rw [List.filter_append]
  cases publishes : message.publishes with
  | true =>
      obtain ⟨call, made⟩ := Message.call_of_publishes publishes hello ambient
      rw [List.filter_cons_of_pos publishes, List.filter_nil, made]
      exact List.rel_append carried (.cons ⟨ambient, made⟩ .nil)
  | false =>
      rw [List.filter_cons_of_neg (by simp [publishes]), List.filter_nil,
        Message.call_of_silent publishes]
      simpa using carried

section Standing

variable (served : Prop) (hello : Hello) (messages : List Message) (bytes : List UInt8)

/-- The messages that arrive whole in the bytes of a connection. -/
def arrivedWhole : List Message :=
  complete Message.bytes (bytes.length - (helloBytes hello).length) messages

/-- How the phase of a connection, the rest of its stream, the calls that it made and the
turns that it took go together, if `bytes` is everything that arrives on it. -/
inductive Standing : Option Phase → Socket → List Registry.Call → Nat → Prop where
  | unused {socket : Socket} : socket.bytes = bytes → Standing none socket [] 0
  | awaiting {socket : Socket} :
      socket.bytes = bytes → Standing (some .awaitingHello) socket [] 1
  | replying {socket : Socket} {accepted : Bool} :
      bytes = helloBytes hello ++ socket.bytes → (served → accepted = true) →
      Standing (some (.replying hello accepted)) socket [] 2
  | refused {socket : Socket} {taken : Nat} :
      ¬served → Standing (some .closed) socket [] taken
  | serving {socket : Socket} {delivered remaining : List Message}
      {calls : List Registry.Call} :
      messages = delivered ++ remaining →
      bytes = helloBytes hello ++ (stream Message.bytes delivered ++ socket.bytes) →
      Carried hello delivered calls →
      Standing (some (.serving hello)) socket calls (3 + delivered.length)
  | ended {socket : Socket} {phase : Option Phase} {delivered : List Message}
      {calls : List Registry.Call} {ambient : Ambient} {taken : Nat} :
      phase = some (.leaving hello) ∧ taken = 4 + delivered.length ∨
        phase = some .closed →
      delivered <+: arrivedWhole hello messages bytes →
      (socket.Reliable → delivered = arrivedWhole hello messages bytes) →
      Carried hello delivered calls →
      Standing phase socket (calls ++
        [⟨.markDynamicEvidenceRevalidationRequired, ambient⟩])
        taken

variable {served hello messages bytes} {limits : Limits} {session : Session}
  {connection : Nat} {calls : List Registry.Call} {taken : Nat}

theorem arrivedWhole_split {delivered remaining : List Message} {rest : List UInt8}
    (sentEq : messages = delivered ++ remaining)
    (bytesEq : bytes = helloBytes hello ++ (stream Message.bytes delivered ++ rest)) :
    arrivedWhole hello messages bytes =
      delivered ++ complete Message.bytes rest.length remaining := by
  have left : bytes.length - (helloBytes hello).length =
      (stream Message.bytes delivered).length + rest.length := by
    rw [bytesEq, List.length_append, List.length_append]
    omega
  rw [arrivedWhole, left, sentEq, complete_append]

/-- What stands of a connection accounts for its calls. -/
theorem Standing.account {phase : Option Phase} {socket : Socket}
    (standing : Standing served hello messages bytes phase socket calls taken) :
    Account socket.Reliable served hello (arrivedWhole hello messages bytes)
      phase calls := by
  cases standing with
  | unused => exact .waiting (.inl rfl)
  | awaiting => exact .waiting (.inr (.inl rfl))
  | replying => exact .waiting (.inr (.inr ⟨_, rfl⟩))
  | refused unserved => exact .refused unserved
  | serving sentEq bytesEq carried =>
      refine .serving ?_ carried
      rw [arrivedWhole_split sentEq bytesEq]
      exact List.prefix_append _ _
  | ended left part all carried => exact .ended (left.imp_left And.left) part all carried

/-- A handler that took more turns than its worker has messages for is through. -/
theorem Standing.through {phase : Option Phase} {socket : Socket}
    (standing : Standing served hello messages bytes phase socket calls taken)
    (enough : (arrivedWhole hello messages bytes).length + 5 ≤ taken) :
    phase = some .closed := by
  cases standing with
  | unused | awaiting | replying => omega
  | refused => rfl
  | serving sentEq bytesEq =>
      rw [arrivedWhole_split sentEq bytesEq, List.length_append] at enough
      omega
  | ended left part =>
      rcases left with ⟨-, rfl⟩ | closed
      · have within := part.length_le
        omega
      · exact closed

theorem standing_connect
    (standing : Standing served hello messages bytes (session.phase connection)
      (session.incoming connection) calls taken) :
    Standing served hello messages bytes
      ((session.step limits (.connect connection)).phase connection)
      (session.incoming connection) calls
      (taken + (session.due connection (.connect connection)).toNat) := by
  cases found : session.phase connection with
  | none =>
      have moved : (session.step limits (.connect connection)).phase connection =
          some .awaitingHello := by
        rw [Session.phase] at found
        simp only [Session.step, Session.phase, step_connect limits found,
          find?_moveTo_self]
      have due : session.due connection (.connect connection) = true := by
        simp [Session.due, Turn.connection, found, Turn.follows]
      rw [found] at standing
      rw [moved, due]
      cases standing with
      | unused same => exact .awaiting same
      | ended left => simp at left
  | some phase =>
      have kept : (session.step limits (.connect connection)).phase connection =
          session.phase connection := by
        rw [Session.phase] at found
        simp only [Session.step, Session.phase, Coordinator.step, found,
          reduceCtorEq, if_false]
      have idle : session.due connection (.connect connection) = false := by
        simp [Session.due, found, Turn.follows]
      rwa [kept, idle]

theorem standing_reply (sent : Bool)
    (welcome : served → session.welcomes connection hello (.reply connection sent) = true)
    (standing : Standing served hello messages bytes (session.phase connection)
      (session.incoming connection) calls taken) :
    Standing served hello messages bytes
      ((session.step limits (.reply connection sent)).phase connection)
      (session.incoming connection) calls
      (taken + (session.due connection (.reply connection sent)).toNat) := by
  by_cases replying : ∃ other accepted,
      session.phase connection = some (.replying other accepted)
  · obtain ⟨other, accepted, found⟩ := replying
    have moved : (session.step limits (.reply connection sent)).phase connection =
        some (if sent && accepted then .serving other else .closed) := by
      rw [Session.phase] at found
      simp only [Session.step, Session.phase, Coordinator.step, found]
      split <;> exact find?_moveTo_self _ _ _
    have due : session.due connection (.reply connection sent) = true := by
      simp [Session.due, Turn.connection, found, Turn.follows]
    have ready : served → sent = true := by
      simpa [Session.welcomes, Turn.connection, found] using welcome
    rw [found] at standing
    rw [moved, due]
    cases standing with
    | replying greeted admitted =>
        split
        · have nothing : messages = [] ++ messages := rfl
          exact .serving nothing (by simpa using greeted) .nil
        next unready =>
          refine .refused fun serves => unready ?_
          rw [ready serves, admitted serves]
          rfl
    | ended left => simp at left
  · have kept : (session.step limits (.reply connection sent)).phase connection =
        session.phase connection := by
      simp only [Session.step, Session.phase, Coordinator.step]
      split
      next other accepted found => exact absurd ⟨other, accepted, found⟩ replying
      · rfl
    have idle : session.due connection (.reply connection sent) = false :=
      Bool.eq_false_iff.mpr fun due =>
        replying (follows_reply (Bool.and_eq_true_iff.mp due).2)
    rwa [kept, idle]

theorem standing_leave
    (standing : Standing served hello messages bytes (session.phase connection)
      (session.incoming connection) calls taken) :
    Standing served hello messages bytes
      ((session.step limits (.leave connection)).phase connection)
      (session.incoming connection) calls
      (taken + (session.due connection (.leave connection)).toNat) := by
  by_cases leaving : ∃ other, session.phase connection = some (.leaving other)
  · obtain ⟨other, found⟩ := leaving
    have moved : (session.step limits (.leave connection)).phase connection =
        some .closed := by
      rw [Session.phase] at found
      simp only [Session.step, Session.phase, Coordinator.step, found, find?_moveTo_self]
    rw [found] at standing
    rw [moved]
    cases standing with
    | ended left part all carried => exact .ended (.inr rfl) part all carried
  · have kept : (session.step limits (.leave connection)).phase connection =
        session.phase connection := by
      simp only [Session.step, Session.phase, Coordinator.step]
      split
      next other found => exact absurd ⟨other, found⟩ leaving
      · rfl
    have idle : session.due connection (.leave connection) = false :=
      Bool.eq_false_iff.mpr fun due =>
        leaving (follows_leave (Bool.and_eq_true_iff.mp due).2)
    rwa [kept, idle]

/-- A handler that waits receives the HELLO of its worker, if it arrived whole. -/
theorem standing_greeting {ambient : Ambient}
    (awaiting : session.phase connection = some .awaitingHello)
    (welcome : served → (session.incoming connection).Reliable ∧
      helloBytes hello <+: bytes ∧
      session.welcomes connection hello (.receive connection ambient) = true)
    (standing : Standing served hello messages bytes (session.phase connection)
      (session.incoming connection) calls taken)
    (within : bytes <+: helloBytes hello ++ stream Message.bytes messages) :
    Standing served hello messages bytes
      ((session.step limits (.receive connection ambient)).phase connection)
      ((session.step limits (.receive connection ambient)).incoming connection) calls
      (taken + 1) := by
  rw [awaiting] at standing
  rw [Session.step, receive_awaiting awaiting]
  cases standing with
  | ended left => simp at left
  | awaiting same =>
  have arrived := recvFrame_arrived (hello_encoded hello) rfl (same.symm ▸ within)
  simp only [Session.phase, Session.takenFrom, Function.update_self]
  rcases arrived with ⟨received, rest⟩ | ⟨error, failed, short⟩
  · have parsed : parseHello (session.received connection) = some hello := by
      rw [Session.received, received]
      exact parseHello_encoded hello
    have replying : (onHello session.server connection
        (session.received connection)).connections.find? connection =
          some (.replying hello (admits session.server hello)) := by
      simp only [onHello, parsed]
      split
      next accepted => rw [find?_moveTo_self, accepted]
      next rejected => rw [find?_moveTo_self, Bool.eq_false_iff.mpr rejected]
    rw [replying]
    refine .replying (same ▸ rest) fun serves => ?_
    simpa [Session.welcomes, Turn.connection, awaiting] using (welcome serves).2.2
  · have closed : (onHello session.server connection
        (session.received connection)).connections.find? connection = some .closed := by
      simp only [onHello, Session.received, failed, parseHello, find?_moveTo_self]
    rw [closed]
    refine .refused fun serves => ?_
    obtain ⟨reliable, whole, -⟩ := welcome serves
    have long := whole.length_le
    rw [← same] at long
    exact absurd (short reliable) (Nat.not_lt.mpr long)

theorem reliable_rest (socket : Socket) (maxBytes : Nat) :
    (recvFrame socket maxBytes).2.Reliable ↔ socket.Reliable := by
  rw [Socket.Reliable, Socket.Reliable, recvFrame_transport]

/-- A handler in service receives the next message of its worker, if it arrived whole,
and else leaves. -/
theorem standing_service {other : Hello} {ambient : Ambient}
    (serving : session.phase connection = some (.serving other))
    (standing : Standing served hello messages bytes (session.phase connection)
      (session.incoming connection) calls taken)
    (within : bytes <+: helloBytes hello ++ stream Message.bytes messages) :
    Standing served hello messages bytes
      ((session.step limits (.receive connection ambient)).phase connection)
      ((session.step limits (.receive connection ambient)).incoming connection)
      (calls ++ ofConnection connection (session.calls (.receive connection ambient)))
      (taken + 1) := by
  rw [serving] at standing
  rw [Session.step, receive_serving serving, calls_serving serving]
  simp only [Session.phase, Session.takenFrom, Function.update_self]
  cases standing with
  | ended left => simp at left
  | serving sentEq bytesEq carried =>
  rename_i delivered remaining
  have whole := arrivedWhole_split sentEq bytesEq
  have arrived : (session.incoming connection).bytes <+:
      stream Message.bytes remaining := by
    rw [sentEq, bytesEq, List.prefix_append_right_inj, stream_append,
      List.prefix_append_right_inj] at within
    exact within
  -- the handler leaves if nothing complete follows
  have leaves (error : Error) (failed : session.received connection = .error error)
      (last : (session.incoming connection).Reliable →
        complete Message.bytes (session.incoming connection).bytes.length
          remaining = []) :
      Standing served hello messages bytes
        ((onFrame limits session.server connection hello (session.received connection)
          ambient).connections.find? connection)
        (recvFrame (session.incoming connection) kMax).2
        (calls ++ ofConnection connection
          [(some connection, ⟨.markDynamicEvidenceRevalidationRequired, ambient⟩)])
        (3 + delivered.length + 1) := by
    have left :
        (onFrame limits session.server connection hello (session.received connection)
        ambient).connections.find? connection = some (.leaving hello) := by
      simp only [onFrame, failed, find?_moveTo_self]
    rw [left]
    simp only [ofConnection, decide_true, List.filter_cons_of_pos, List.filter_nil,
      List.map_cons, List.map_nil]
    refine .ended (.inl ⟨rfl, by omega⟩) (whole ▸ List.prefix_append _ _)
      (fun reliable => ?_) carried
    rw [whole, last ((reliable_rest _ _).mp reliable), List.append_nil]
  cases remaining with
  | nil =>
      obtain ⟨error, failed⟩ := recvFrame_nothing (List.prefix_nil.mp arrived)
      have result : session.received connection = .error error := failed
      have ended := leaves error result fun _ => rfl
      simp only [result] at ended ⊢
      exact ended
  | cons message rest =>
      rcases recvFrame_arrived message.encoded message.frame_declared arrived with
        ⟨received, next⟩ | ⟨error, failed, short⟩
      · have result : session.received connection = .ok message.frame := received
        have stays : (onFrame limits session.server connection hello
            (session.received connection) ambient).connections.find? connection =
              some (.serving hello) := by
          rw [Session.phase] at serving
          simp only [onFrame, result]
          split <;> exact serving
        rw [stays, result]
        simp only [Message.publication_frame]
        have own : ofConnection connection
            ((message.call hello ambient).toList.map (some connection, ·)) =
              (message.call hello ambient).toList := by
          cases message.call hello ambient <;> simp [ofConnection]
        rw [own]
        have sentNext : messages = (delivered ++ [message]) ++ rest := by
          rw [sentEq, List.append_assoc, List.singleton_append]
        have one : 3 + delivered.length + 1 = 3 + (delivered ++ [message]).length := by
          rw [List.length_append, List.length_singleton]
          omega
        rw [one]
        refine .serving sentNext ?_ (carried.concat message ambient)
        rw [bytesEq, next, stream_append, stream_cons, stream_nil, List.append_nil,
          List.append_assoc]
      · have result : session.received connection = .error error := failed
        have ended := leaves error result fun reliable =>
          complete_cut (short reliable) rest
        simp only [result] at ended ⊢
        exact ended

variable (limits) in
/-- What stands of a connection still stands after a turn. -/
theorem standing_turn (turn : Turn)
    (welcome : served → (session.incoming connection).Reliable ∧
      helloBytes hello <+: bytes ∧
      session.welcomes connection hello turn = true)
    (standing : Standing served hello messages bytes (session.phase connection)
      (session.incoming connection) calls taken)
    (within : bytes <+: helloBytes hello ++ stream Message.bytes messages) :
    Standing served hello messages bytes ((session.step limits turn).phase connection)
      ((session.step limits turn).incoming connection)
      (calls ++ ofConnection connection (session.calls turn))
      (taken + (session.due connection turn).toNat) := by
  by_cases other : turn.connection ≠ some connection
  · rw [phase_untouched other, incoming_untouched other, ofConnection_untouched other,
      due_untouched other, List.append_nil]
    exact standing
  · cases turn with
    | direct call => simp [Turn.connection] at other
    | connect moved =>
        obtain rfl : moved = connection := Option.some.inj (not_ne_iff.mp other)
        exact (List.append_nil calls).symm ▸ standing_connect standing
    | reply moved sent =>
        obtain rfl : moved = connection := Option.some.inj (not_ne_iff.mp other)
        exact (List.append_nil calls).symm ▸
          standing_reply sent (fun serves => (welcome serves).2.2) standing
    | leave moved =>
        obtain rfl : moved = connection := Option.some.inj (not_ne_iff.mp other)
        exact (List.append_nil calls).symm ▸ standing_leave standing
    | receive moved ambient =>
        obtain rfl : moved = connection := Option.some.inj (not_ne_iff.mp other)
        by_cases serving : ∃ other, session.phase moved = some (.serving other)
        · obtain ⟨other, serving⟩ := serving
          have due : session.due moved (.receive moved ambient) = true := by
            simp [Session.due, Turn.connection, serving, Turn.follows]
          rw [due]
          exact standing_service serving standing within
        · rw [calls_unserved (not_exists.mp serving)]
          rw [ofConnection, List.filter_nil, List.map_nil, List.append_nil]
          by_cases awaiting : session.phase moved = some .awaitingHello
          · have due : session.due moved (.receive moved ambient) = true := by
              simp [Session.due, Turn.connection, awaiting, Turn.follows]
            rw [due]
            exact standing_greeting awaiting welcome standing within
          · have idle : session.due moved (.receive moved ambient) = false :=
              Bool.eq_false_iff.mpr fun due =>
                (follows_receive (Bool.and_eq_true_iff.mp due).2).elim awaiting serving
            rw [Session.step, receive_idle awaiting (not_exists.mp serving), idle]
            exact standing

variable (limits) in
/-- What stands of a connection still stands after any turns. -/
theorem standing_run (turns : List Turn)
    (welcome : served → (session.incoming connection).Reliable ∧
      helloBytes hello <+: bytes ∧
      Along (Session.step limits)
        (fun session turn => session.welcomes connection hello turn = true) session turns)
    (standing : Standing served hello messages bytes (session.phase connection)
      (session.incoming connection) calls taken)
    (within : bytes <+: helloBytes hello ++ stream Message.bytes messages) :
    Standing served hello messages bytes
      ((Session.run limits session turns).phase connection)
      ((Session.run limits session turns).incoming connection)
      (calls ++ ofConnection connection (session.trace limits turns))
      (taken + session.taken limits connection turns) := by
  induction turns generalizing session calls taken with
  | nil => simpa [Session.trace, Session.taken, ofConnection] using standing
  | cons turn turns ih =>
      have now : served → (session.incoming connection).Reliable ∧
          helloBytes hello <+: bytes ∧ session.welcomes connection hello turn = true := by
        intro serves
        obtain ⟨reliable, greeted, along⟩ := welcome serves
        exact ⟨reliable, greeted, along.1⟩
      have later : served → ((session.step limits turn).incoming connection).Reliable ∧
          helloBytes hello <+: bytes ∧ Along (Session.step limits)
            (fun session turn => session.welcomes connection hello turn = true)
            (session.step limits turn) turns := by
        intro serves
        obtain ⟨reliable, greeted, along⟩ := welcome serves
        rw [Socket.Reliable, transport_turn]
        exact ⟨reliable, greeted, along.2⟩
      have next := ih later (standing_turn limits turn now standing within)
      rwa [List.append_assoc, ← ofConnection_append, Nat.add_assoc] at next

end Standing

/-- The registry at the end of a run is what its calls make of it, one after the other. -/
theorem registry_run (limits : Limits) (session : Session) (turns : List Turn) :
    (Session.run limits session turns).server.registry =
      Registry.run limits session.server.registry
        ((session.trace limits turns).map (·.2)) := by
  induction turns generalizing session with
  | nil => rfl
  | cons turn turns ih =>
      rw [Session.run, Transition.run_cons, ← Session.run, ih, registry_turn,
        Session.trace, List.map_append]
      exact (Transition.run_append _ _ _ _).symm

theorem transport_run (limits : Limits) (session : Session) (turns : List Turn)
    (connection : Nat) :
    ((Session.run limits session turns).incoming connection).transport =
      (session.incoming connection).transport := by
  induction turns generalizing session with
  | nil => rfl
  | cons turn turns ih => exact (ih _).trans (transport_turn turn)

/-- The socket of a worker that connects and sends its HELLO and its messages. -/
def workerSocket (outgoing : Transport) (hello : Hello) (messages : List Message) :
    Option Socket :=
  let greeted := (sendFrame { transport := outgoing } (helloFrame hello) kMax).2
  (({ sock := some greeted } : WorkerClient).sendAll messages).2.sock

theorem workerSocket_bytes {outgoing : Transport}
    (sending : ∀ index, outgoing index ≠ none) (hello : Hello) (messages : List Message) :
    ∃ socket, workerSocket outgoing hello messages = some socket ∧
      socket.bytes = helloBytes hello ++ stream Message.bytes messages := by
  have reliable : Socket.Reliable { transport := outgoing } := sending
  obtain ⟨calls, greeted⟩ := sendFrame_reliable reliable (hello_encoded hello)
  have next : Socket.Reliable
      { transport := outgoing, calls := calls, bytes := [] ++ helloBytes hello } :=
        sending
  obtain ⟨-, last, ended, -, bytes⟩ := sendAll_ok next messages
  rw [List.nil_append] at bytes
  refine ⟨last, ?_, bytes⟩
  rw [workerSocket, greeted]
  exact congrArg WorkerClient.sock ended

/-- A worker is served on a connection: nothing that is received fails, its HELLO arrives
whole and is admitted, and its READY is sent. -/
structure Session.Serves (limits : Limits) (session : Session) (turns : List Turn)
    (connection : Nat) (hello : Hello) : Prop where
  reliable : (session.incoming connection).Reliable
  greeted : helloBytes hello <+: (session.incoming connection).bytes
  welcomed : Along (Session.step limits)
    (fun session turn => session.welcomes connection hello turn = true) session turns

/-- Whatever the other connections carry and however the handlers interleave, the
registry is what the calls of all of them make of it, and a connection on which some
part of a worker's stream arrives makes exactly the calls of the messages that arrived
whole, none only if its worker is not served.  Its handler is through once it took more
turns than that. -/
theorem sessions_exactly_once (limits : Limits) (counter : UInt64)
    (incoming : Nat → Socket) (turns : List Turn) :
    let start : Session := { server := construct counter, incoming }
    let final := Session.run limits start turns
    let trace := Session.trace limits start turns
    final.server.registry = Registry.run limits .initial (trace.map (·.2)) ∧
      ∀ (connection : Nat) (outgoing : Transport) (hello : Hello)
        (messages : List Message) (socket : Socket), (∀ index, outgoing index ≠ none) →
        workerSocket outgoing hello messages = some socket →
        (incoming connection).bytes <+: socket.bytes →
        Account (incoming connection).Reliable
          (start.Serves limits turns connection hello)
            hello (arrivedWhole hello messages (incoming connection).bytes)
            (final.phase connection) (ofConnection connection trace) ∧
          ((arrivedWhole hello messages (incoming connection).bytes).length + 5 ≤
              start.taken limits connection turns →
            final.phase connection = some .closed) := by
  intro start final trace
  refine ⟨registry_run limits start turns,
    fun connection outgoing hello messages socket sending worker arrived => ?_⟩
  obtain ⟨same, found, bytes⟩ := workerSocket_bytes sending hello messages
  obtain rfl := Option.some.inj (worker.symm.trans found)
  rw [bytes] at arrived
  have initially : Standing (start.Serves limits turns connection hello) hello messages
      (incoming connection).bytes (start.phase connection)
        (start.incoming connection) [] 0 :=
    .unused rfl
  have standing := standing_run limits turns
    (fun serves => ⟨serves.reliable, serves.greeted, serves.welcomed⟩) initially arrived
  rw [List.nil_append, Nat.zero_add] at standing
  have account := standing.account
  rw [Socket.Reliable, transport_run] at account
  exact ⟨account, standing.through⟩

/-- The HELLO of the first worker of a coordinator. -/
def firstHello : Hello := { worker := ⟨1⟩, boot := ⟨1⟩, epoch := ⟨1⟩ }

/-- What the worker tool sends after its HELLO. -/
def toolMessages : List Message :=
  [.publishDevice (Worker.sourceDevice ⟨1⟩), .publishDevice (Worker.targetDevice ⟨1⟩),
    .publishLink (Worker.link ⟨1⟩ {}),
    .publishMeasurement (Worker.measurement ⟨1⟩), .heartbeat]

/-- A transport that moves three bytes at a time. -/
def threeBytes : Transport := fun _ => some 2

theorem threeBytes_ne (index : Nat) : threeBytes index ≠ none := by
  simp [threeBytes]

/-- A coordinator to which the worker tool is connected. -/
def toolSession : Session where
  server := construct 0
  incoming _ :=
    { transport := threeBytes
      bytes := helloBytes firstHello ++ stream Message.bytes toolMessages }

/-- The handler serves the worker until its stream ends. -/
def toolTurns : List Turn :=
  [.connect 0, .receive 0 {}, .reply 0 true] ++
    List.replicate 6 (.receive 0 {}) ++ [.leave 0]

/-- The registry is called for each of the records, and a last time when they end. -/
theorem sessions_exactly_once_tool :
    ∃ calls ambient, Carried firstHello toolMessages calls ∧
      ofConnection 0 (toolSession.trace {} toolTurns) =
        calls ++ [⟨.markDynamicEvidenceRevalidationRequired, ambient⟩] := by
  obtain ⟨socket, worker, sent⟩ :=
    workerSocket_bytes threeBytes_ne firstHello toolMessages
  obtain ⟨-, each⟩ := sessions_exactly_once {} 0 toolSession.incoming toolTurns
  obtain ⟨account, through⟩ :=
    each 0 threeBytes firstHello toolMessages socket threeBytes_ne
    worker (sent ▸ List.prefix_rfl)
  have closed := through (by decide +kernel)
  have serves : toolSession.Serves {} toolTurns 0 firstHello :=
    ⟨threeBytes_ne, List.prefix_append _ _, by decide +kernel⟩
  have whole : arrivedWhole firstHello toolMessages (toolSession.incoming 0).bytes =
      toolMessages ++ complete Message.bytes ([] : List UInt8).length [] :=
    arrivedWhole_split (List.append_nil _).symm (congrArg _ (List.append_nil _).symm)
  rw [closed, whole] at account
  change Account _ _ _ _ _ (ofConnection 0 (toolSession.trace {} toolTurns)) at account
  generalize ofConnection 0 (toolSession.trace {} toolTurns) = made at account ⊢
  cases account with
  | waiting phase => simp at phase
  | refused unserved => exact absurd serves unserved
  | ended _ _ all carried =>
      rw [all serves.reliable] at carried
      exact ⟨_, _, carried, rfl⟩

end NvlinkFabric.Coordinator

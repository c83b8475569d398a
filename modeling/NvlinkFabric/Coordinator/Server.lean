import NvlinkFabric.Route.Decision
import NvlinkFabric.Wire.Evidence
import NvlinkFabric.Lib.Transition

/-!
# The coordinator server

`CoordinatorServer` runs one handler thread per connection.  A handler waits for
a HELLO, validates it under the server lock, replies, and then serves frames
until the connection ends.  Each event below is one atomic step of some handler:
a received frame, the outcome of a send, or a section under a lock.  The steps
of different handlers interleave freely, so a run is any list of events; an
event its connection is not ready for changes nothing.
-/

namespace NvlinkFabric.Coordinator

open Wire ByteReader

/-- The contents of a HELLO. -/
structure Hello where
  worker : WorkerId
  boot : WorkerBootId
  epoch : CoordinatorEpoch
  deriving DecidableEq

/-- The payload that `WorkerClient::connect` sends. -/
def encHello (hello : Hello) : List UInt8 :=
  [putU64 hello.worker.value, putU64 hello.boot.value, putU64 hello.epoch.value].flatten

def decHello : ByteReader Hello := do
  let worker ← Id.mk <$> u64
  let boot ← Id.mk <$> u64
  let epoch ← Generation.mk <$> u64
  return { worker, boot, epoch }

/-- The HELLO of a received frame; `none` closes the connection. -/
def parseHello (received : Result Frame) : Option Hello :=
  match received with
  | .error _ => none
  | .ok frame =>
      if frame.type ≠ .hello then none
      else
        let (hello, cursor) := decHello.run { bytes := frame.payload }
        if cursor.bad then none else some hello

/-- The reply to a HELLO. -/
def helloReply (epoch : CoordinatorEpoch) (hello : Hello) (accepted : Bool) : Frame :=
  if accepted then { type := .ready, payload := putU64 epoch.value }
  else
    { type := .goodbye
      payload := putStr (if hello.epoch ≠ epoch then "stale coordinator epoch"
        else "stale worker boot identity") }

/-- The registry call that a served frame makes. -/
def publication (hello : Hello) (frame : Frame) (ambient : Ambient) :
    Option Registry.Call :=
  match frame.type with
  | .publishDevice =>
      let device := (decDevice.run { bytes := frame.payload }).1
      some ⟨.upsertDevice { device with
                            ownerWorker := hello.worker, ownerBoot := hello.boot },
        ambient⟩
  | .publishLink =>
      some ⟨.upsertLink ((decLink ambient.now).run { bytes := frame.payload }).1, ambient⟩
  | .publishMeasurement =>
      let measurement := ((decMeas ambient.now).run { bytes := frame.payload }).1
      some ⟨.publishMeasurement
        { measurement with ownerWorker := hello.worker,
                           ownerBoot := hello.boot }, ambient⟩
  | _ => none

/-- The registry after a frame is served. -/
def served (limits : Limits) (ambient : Ambient) (hello : Hello) (frame : Frame)
    (registry : Registry.State) : Registry.State :=
  match publication hello frame ambient with
  | none => registry
  | some call => Registry.step limits registry call

/-- The reply to a served ROUTE frame, if it gets one.  The decision itself never
fails. -/
def routeReply (limits : Limits) (ambient : Ambient) (registry : Registry.State)
    (frame : Frame) : Option Frame :=
  let request : ByteReader (DeviceId × DeviceId) := do
    let source ← Id.mk <$> u64
    let target ← Id.mk <$> u64
    return (source, target)
  let ((source, target), cursor) := request.run { bytes := frame.payload }
  if frame.type ≠ .route || cursor.bad then none
  else
    match Registry.decideRoute limits ambient source target .defaultPolicy registry with
    | .ok decision =>
        some
          { type := .route
            payload := [putU8 decision.outcome.toByte,
              putU64 ((decision.selected.map (·.value)).getD 0),
              putStr decision.explanation].flatten }
    | .error error =>
        some
          { type := .route
            payload := [putU8 RouteDecisionOutcome.noRoute.toByte, putU64 0,
              putStr error.toText].flatten }

/-- Where the handler of a connection stands. -/
inductive Phase where
  | awaitingHello
  | replying (hello : Hello) (accepted : Bool)
  | serving (hello : Hello)
  | leaving (hello : Hello)
  | closed
  deriving DecidableEq

/-- `CoordinatorServer` with the handlers of its connections. -/
structure Server where
  registry : Registry.State
  epoch : CoordinatorEpoch
  lastBoot : FiniteMap WorkerId WorkerBootId
  liveCount : Nat
  connections : FiniteMap Nat Phase

/-- `fresh_generation`, given the counter of the process. -/
def freshGeneration {tag : Tag} (counter : UInt64) : Generation tag × UInt64 :=
  (⟨counter + 1⟩, counter + 1)

/-- The constructor, given the epoch counter of the process. -/
def construct (counter : UInt64) : Server where
  registry := .initial
  epoch := (freshGeneration counter).1
  lastBoot := .empty
  liveCount := 0
  connections := .empty

/-- The first server of a process: its counters start at zero. -/
def Server.initial : Server := construct 0

/-- The validation of a HELLO: the epoch is current and the boot is new. -/
def admits (server : Server) (hello : Hello) : Bool :=
  hello.epoch = server.epoch &&
    (server.lastBoot.find? hello.worker).all (· < hello.boot)

/-- Move the handler of a connection. -/
def Server.moveTo (server : Server) (connection : Nat) (phase : Phase) : Server :=
  { server with connections := server.connections.set connection phase }

/-- Record an admitted boot. -/
def Server.recordBoot (server : Server) (hello : Hello) : Server :=
  { server with
    lastBoot := server.lastBoot.set hello.worker hello.boot
    liveCount := server.liveCount + 1 }

/-- Receive the first frame and validate it. -/
def onHello (server : Server) (connection : Nat) (received : Result Frame) : Server :=
  match parseHello received with
  | none => server.moveTo connection .closed
  | some hello =>
      if admits server hello then
        (server.recordBoot hello).moveTo connection (.replying hello true)
      else server.moveTo connection (.replying hello false)

/-- Receive a frame in the service loop.  A failed receive ends the loop: the
evidence is marked before the handler leaves. -/
def onFrame (limits : Limits) (server : Server) (connection : Nat) (hello : Hello)
    (received : Result Frame) (ambient : Ambient) : Server :=
  match received with
  | .error _ =>
      { server with
        registry := Registry.markDynamicEvidenceRevalidationRequired limits ambient
          server.registry }.moveTo connection (.leaving hello)
  | .ok frame =>
      match publication hello frame ambient with
      | none => server
      | some call => { server with registry := Registry.step limits server.registry call }

/-- One atomic step of some handler, or a call of the embedding process on the
registry. -/
inductive Event where
  | connect (connection : Nat)
  | hello (connection : Nat) (received : Result Frame)
  | reply (connection : Nat) (sent : Bool)
  | frame (connection : Nat) (received : Result Frame) (ambient : Ambient)
  | leave (connection : Nat)
  | direct (call : Registry.Call)

def step (limits : Limits) (server : Server) (event : Event) : Server :=
  match event with
  | .connect connection =>
      if server.connections.find? connection = none then
        server.moveTo connection .awaitingHello
      else server
  | .hello connection received =>
      match server.connections.find? connection with
      | some .awaitingHello => onHello server connection received
      | _ => server
  | .reply connection sent =>
      match server.connections.find? connection with
      | some (.replying hello accepted) =>
          if sent && accepted then server.moveTo connection (.serving hello)
          else server.moveTo connection .closed
      | _ => server
  | .frame connection received ambient =>
      match server.connections.find? connection with
      | some (.serving hello) => onFrame limits server connection hello received ambient
      | _ => server
  | .leave connection =>
      match server.connections.find? connection with
      | some (.leaving _) =>
          { server with liveCount := server.liveCount - 1 }.moveTo connection .closed
      | _ => server
  | .direct call => { server with registry := Registry.step limits server.registry call }

/-- The server after a sequence of events. -/
abbrev run (limits : Limits) (server : Server) (events : List Event) : Server :=
  Transition.run (step limits) server events

@[simp] theorem moveTo_lastBoot (server : Server) (connection : Nat) (phase : Phase) :
    (server.moveTo connection phase).lastBoot = server.lastBoot := rfl

@[simp] theorem find?_moveTo_self (server : Server) (connection : Nat) (phase : Phase) :
    (server.moveTo connection phase).connections.find? connection = some phase :=
  FiniteMap.find?_set_self _ _ _

theorem find?_moveTo_of_ne (server : Server) {connection other : Nat} (phase : Phase)
    (different : other ≠ connection) :
    (server.moveTo connection phase).connections.find? other =
      server.connections.find? other :=
  FiniteMap.find?_set_of_ne _ _ different

@[simp] theorem recordBoot_lastBoot (server : Server) (hello : Hello) :
    (server.recordBoot hello).lastBoot =
      server.lastBoot.set hello.worker hello.boot := rfl

@[simp] theorem admits_moveTo (server : Server) (connection : Nat) (phase : Phase)
    (hello : Hello) : admits (server.moveTo connection phase) hello =
    admits server hello :=
  rfl

/-! ## What a step can do -/

/-- The outcomes of a step.  An event that does not fit the phase of its connection
is ignored, and so is a frame that publishes nothing. -/
inductive Outcome (limits : Limits) (server : Server) : Event → Server → Prop where
  | ignored {event : Event} :
      (∀ connection received, event = .hello connection received →
        server.connections.find? connection ≠ some .awaitingHello) →
      (∀ connection sent hello accepted, event = .reply connection sent →
        server.connections.find? connection ≠ some (.replying hello accepted)) →
      Outcome limits server event server
  | connected {connection : Nat} : server.connections.find? connection = none →
      Outcome limits server (.connect connection)
        (server.moveTo connection .awaitingHello)
  | dropped {connection : Nat} {received : Result Frame} :
      server.connections.find? connection = some .awaitingHello →
      parseHello received = none →
      Outcome limits server (.hello connection received)
        (server.moveTo connection .closed)
  | admitted {connection : Nat} {received : Result Frame} {hello : Hello} :
      server.connections.find? connection = some .awaitingHello →
      parseHello received = some hello → admits server hello = true →
      Outcome limits server (.hello connection received)
        ((server.recordBoot hello).moveTo connection (.replying hello true))
  | refused {connection : Nat} {received : Result Frame} {hello : Hello} :
      server.connections.find? connection = some .awaitingHello →
      parseHello received = some hello → admits server hello = false →
      Outcome limits server (.hello connection received)
        (server.moveTo connection (.replying hello false))
  | greeted {connection : Nat} {hello : Hello} :
      server.connections.find? connection = some (.replying hello true) →
      Outcome limits server (.reply connection true)
        (server.moveTo connection (.serving hello))
  | unserved {connection : Nat} {sent : Bool} {hello : Hello} {accepted : Bool} :
      server.connections.find? connection = some (.replying hello accepted) →
      (sent && accepted) = false →
      Outcome limits server (.reply connection sent) (server.moveTo connection .closed)
  | published {connection : Nat} {hello : Hello} {frame : Frame} {ambient : Ambient}
      {call : Registry.Call} :
      server.connections.find? connection = some (.serving hello) →
      publication hello frame ambient = some call →
      Outcome limits server (.frame connection (.ok frame) ambient)
        { server with registry := Registry.step limits server.registry call }
  | ended {connection : Nat} {hello : Hello} {error : Error} {ambient : Ambient} :
      server.connections.find? connection = some (.serving hello) →
      Outcome limits server (.frame connection (.error error) ambient)
        ({ server with
          registry := Registry.markDynamicEvidenceRevalidationRequired limits ambient
            server.registry }.moveTo connection (.leaving hello))
  | left {connection : Nat} {hello : Hello} :
      server.connections.find? connection = some (.leaving hello) →
      Outcome limits server (.leave connection)
        ({ server with liveCount := server.liveCount - 1 }.moveTo connection .closed)
  | called {call : Registry.Call} : Outcome limits server (.direct call)
      { server with registry := Registry.step limits server.registry call }

theorem onHello_outcome (limits : Limits) {server : Server} {connection : Nat}
    (awaiting : server.connections.find? connection = some .awaitingHello)
    (received : Result Frame) :
    Outcome limits server (.hello connection received)
      (onHello server connection received) := by
  cases parsed : parseHello received with
  | none =>
      simp only [onHello, parsed]
      exact .dropped awaiting parsed
  | some hello =>
      cases accepted : admits server hello with
      | true =>
          simp only [onHello, parsed, accepted, if_true]
          exact .admitted awaiting parsed accepted
      | false =>
          simp only [onHello, parsed, accepted, Bool.false_eq_true, if_false]
          exact .refused awaiting parsed accepted

theorem onFrame_outcome (limits : Limits) {server : Server} {connection : Nat}
    {hello : Hello}
    (serving : server.connections.find? connection = some (.serving hello))
    (received : Result Frame) (ambient : Ambient) :
    Outcome limits server (.frame connection received ambient)
      (onFrame limits server connection hello received ambient) := by
  cases received with
  | error error => exact .ended serving
  | ok frame =>
      cases published : publication hello frame ambient with
      | none =>
          simp only [onFrame, published]
          exact .ignored (by simp) (by simp)
      | some call =>
          simp only [onFrame, published]
          exact .published serving published

/-- Everything a step can do. -/
theorem step_outcome (limits : Limits) (server : Server) (event : Event) :
    Outcome limits server event (step limits server event) := by
  cases event with
  | connect connection =>
      simp only [step]
      split
      next fresh => exact .connected fresh
      · exact .ignored (by simp) (by simp)
  | hello connection received =>
      simp only [step]
      split
      next awaiting => exact onHello_outcome limits awaiting received
      next other =>
        apply Outcome.ignored
        · rintro moved frame ⟨⟩ awaiting
          exact other awaiting
        · simp
  | reply connection sent =>
      simp only [step]
      split
      next hello accepted replying =>
        cases both : sent && accepted with
        | true =>
            obtain ⟨rfl, rfl⟩ := Bool.and_eq_true_iff.mp both
            exact .greeted replying
        | false => exact .unserved replying both
      next other =>
        apply Outcome.ignored
        · simp
        · rintro moved delivered hello accepted ⟨⟩ replying
          exact other hello accepted replying
  | frame connection received ambient =>
      simp only [step]
      split
      next serving => exact onFrame_outcome limits serving received ambient
      · exact .ignored (by simp) (by simp)
  | leave connection =>
      simp only [step]
      split
      next leaving => exact .left leaving
      · exact .ignored (by simp) (by simp)
  | direct call => exact .called

/-- A served frame acts on the registry through its publication alone. -/
theorem registry_step_frame {limits : Limits} {server : Server} {connection : Nat}
    {hello : Hello}
    (serving : server.connections.find? connection = some (.serving hello))
    (frame : Frame) (ambient : Ambient) :
    (step limits server (.frame connection (.ok frame) ambient)).registry =
      served limits ambient hello frame server.registry := by
  simp only [step, serving, onFrame, served]
  cases publication hello frame ambient <;> rfl

theorem decodes_decHello (hello : Hello) : Decodes decHello (encHello hello) hello :=
  .field ((decodes_u64 _).mapped rfl) <|
  .field ((decodes_u64 _).mapped rfl) <|
  .field ((decodes_u64 _).mapped rfl) <|
  .pure _

/-- A HELLO sent by a worker is received as it was sent. -/
theorem parseHello_encoded (hello : Hello) :
    parseHello (.ok { type := .hello, payload := encHello hello }) = some hello := by
  simp [parseHello, (decodes_decHello hello).runAll]

section Publication

variable (hello : Hello) (ambient : Ambient)

theorem publication_device (device : DeviceRecord) :
    publication hello { type := .publishDevice, payload := encDevice device } ambient =
      some ⟨.upsertDevice { receivedDevice device with
        ownerWorker := hello.worker, ownerBoot := hello.boot }, ambient⟩ := by
  simp only [publication, (decodes_decDevice device).runAll]

theorem publication_link (link : LinkRecord) :
    publication hello { type := .publishLink, payload := encLink link } ambient =
      some ⟨.upsertLink (receivedLink ambient.now link), ambient⟩ := by
  simp only [publication, (decodes_decLink ambient.now link).runAll]

theorem publication_measurement (measurement : MeasurementRecord) :
    publication hello { type := .publishMeasurement,
                        payload := encMeas measurement } ambient =
      some ⟨.publishMeasurement { receivedMeas ambient.now measurement with
        ownerWorker := hello.worker, ownerBoot := hello.boot }, ambient⟩ := by
  simp only [publication, (decodes_decMeas ambient.now measurement).runAll]

end Publication

/-- A worker that connects as a given boot and gets its READY. -/
def handshake (connection : Nat) (hello : Hello) : List Event :=
  [.connect connection,
    .hello connection (.ok { type := .hello, payload := encHello hello }),
    .reply connection true]

section Handshake

variable {server : Server} {connection : Nat} {hello : Hello} (limits : Limits)

theorem step_connect (unused : server.connections.find? connection = none) :
    step limits server (.connect connection) =
      server.moveTo connection .awaitingHello := by
  simp only [step, unused, if_true]

theorem step_hello_admitted
    (awaiting : server.connections.find? connection = some .awaitingHello)
    (admitted : admits server hello = true) :
    step limits server
        (.hello connection (.ok { type := .hello, payload := encHello hello })) =
      (server.recordBoot hello).moveTo connection (.replying hello true) := by
  simp only [step, awaiting, onHello, parseHello_encoded, admitted, if_true]

/-- A delivered READY starts the service loop. -/
theorem step_reply_sent
    (replying : server.connections.find? connection = some (.replying hello true)) :
    step limits server (.reply connection true) =
      server.moveTo connection (.serving hello) := by
  simp [step, replying]

/-- A new connection whose HELLO is admitted gets served. -/
theorem run_handshake (unused : server.connections.find? connection = none)
    (admitted : admits server hello = true) :
    run limits server (handshake connection hello) =
      (((server.moveTo connection .awaitingHello).recordBoot hello).moveTo connection
        (.replying hello true)).moveTo connection (.serving hello) := by
  simp only [handshake, run, Transition.run_cons, Transition.run_nil]
  rw [step_connect limits unused,
    step_hello_admitted limits (find?_moveTo_self _ _ _) admitted,
    step_reply_sent limits (find?_moveTo_self _ _ _)]

end Handshake

end NvlinkFabric.Coordinator

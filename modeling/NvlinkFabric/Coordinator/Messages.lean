import NvlinkFabric.Lib.Framing
import NvlinkFabric.Coordinator.Client
import NvlinkFabric.Corruption

/-!
# What a worker sends

A connected worker publishes its records, each in a frame of its own, over a stream
that the transport splits as it likes and that may end anywhere.  The receiving end
takes the frames that arrived whole off the front of it, and nothing else.
-/

namespace NvlinkFabric.Coordinator

open Wire Framing

/-- What a connected worker sends. -/
inductive Message where
  | publishDevice (device : DeviceRecord)
  | publishLink (link : LinkRecord)
  | publishMeasurement (measurement : MeasurementRecord)
  | ready
  | heartbeat
  | route (source target : DeviceId)

namespace Message

/-- The frame of a message. -/
def frame : Message → Frame
  | .publishDevice device => { type := .publishDevice, payload := encDevice device }
  | .publishLink link => { type := .publishLink, payload := encLink link }
  | .publishMeasurement measurement =>
      { type := .publishMeasurement, payload := encMeas measurement }
  | .ready => { type := .ready }
  | .heartbeat => { type := .heartbeat }
  | .route source target => routeFrame source target

/-- The text of the error with which sending a message fails. -/
def failure : Message → Text
  | .publishDevice _ => "failed to publish device"
  | .publishLink _ => "failed to publish link"
  | .publishMeasurement _ => "failed to publish measurement"
  | .ready => "failed to signal ready"
  | .heartbeat => "failed to send heartbeat"
  | .route _ _ => "failed to send route request"

/-- The call that a message makes on the registry, as its records are received. -/
def call (hello : Hello) (ambient : Ambient) : Message → Option Registry.Call
  | .publishDevice device =>
      some ⟨.upsertDevice { receivedDevice device with
        ownerWorker := hello.worker, ownerBoot := hello.boot }, ambient⟩
  | .publishLink link => some ⟨.upsertLink (receivedLink ambient.now link), ambient⟩
  | .publishMeasurement measurement =>
      some ⟨.publishMeasurement { receivedMeas ambient.now measurement with
        ownerWorker := hello.worker, ownerBoot := hello.boot }, ambient⟩
  | _ => none

/-- The message publishes a record. -/
def publishes : Message → Bool
  | .publishDevice _ | .publishLink _ | .publishMeasurement _ => true
  | _ => false

theorem call_of_publishes {message : Message} (publishes : message.publishes = true)
    (hello : Hello) (ambient : Ambient) : ∃ call,
    message.call hello ambient = some call := by
  cases message with
  | publishDevice | publishLink | publishMeasurement => exact ⟨_, rfl⟩
  | ready | heartbeat | route => cases publishes

theorem call_of_silent {message : Message} (silent : message.publishes = false)
    (hello : Hello) (ambient : Ambient) : message.call hello ambient = none := by
  cases message with
  | publishDevice | publishLink | publishMeasurement => cases silent
  | ready | heartbeat | route => rfl

/-- A handler makes of a frame the call of its message. -/
theorem publication_frame (hello : Hello) (ambient : Ambient) (message : Message) :
    publication hello message.frame ambient = message.call hello ambient := by
  cases message with
  | publishDevice device => exact publication_device hello ambient device
  | publishLink link => exact publication_link hello ambient link
  | publishMeasurement measurement =>
      exact publication_measurement hello ambient measurement
  | ready | heartbeat | route => rfl

theorem frame_declared (message : Message) : message.frame.type.declared = true := by
  cases message <;> rfl

/-- Every message fits in a frame. -/
theorem length_frame_le (message : Message) :
    message.frame.payload.length + 14 ≤ kMax := by
  have flag (value : Bool) : (putBool value).length = 1 := length_putU8 _
  cases message with
  | publishDevice device =>
      have name := length_putStr_le device.logicalName
      have architecture := length_putStr_le device.architecture
      have generation := length_putStr_le device.deviceGeneration
      have identity := length_putStr_le device.pciIdentity
      simp only [frame, encDevice, List.flatten_cons, List.flatten_nil,
        List.length_append, length_putU8, length_putU32, length_putU64, flag,
        List.length_nil, kMax]
      omega
  | publishLink link =>
      have identifier := length_putStr_le link.physicalIdentifier
      simp only [frame, encLink, List.flatten_cons, List.flatten_nil, List.length_append,
        length_putU8, length_putU64, flag, List.length_nil, kMax]
      omega
  | publishMeasurement measurement =>
      simp only [frame, encMeas, List.flatten_cons, List.flatten_nil, List.length_append,
        length_putU8, length_putU64, flag, List.length_nil, kMax]
      omega
  | ready | heartbeat => simp [frame, kMax]
  | route source target => simp [frame, routeFrame, kMax]

end Message

/-- `WorkerClient`: its connected socket, if it has one. -/
structure WorkerClient where
  sock : Option Socket := none

namespace WorkerClient

/-- Send the frame of a message.  `request_route` goes on to read the reply. -/
def send (client : WorkerClient) (message : Message) : Result Unit × WorkerClient :=
  match client.sock with
  | none => (err .notFound "not connected", client)
  | some socket =>
      let (sent, next) := sendFrame socket message.frame kMax
      (if sent then .ok () else err .protocolError message.failure, { sock := some next })

/-- `WorkerClient::publish_device`. -/
def publishDevice (client : WorkerClient) (device : DeviceRecord) :
    Result Unit × WorkerClient :=
  client.send (.publishDevice device)

/-- `WorkerClient::publish_link`. -/
def publishLink (client : WorkerClient) (link : LinkRecord) :
    Result Unit × WorkerClient :=
  client.send (.publishLink link)

/-- `WorkerClient::publish_measurement`. -/
def publishMeasurement (client : WorkerClient) (measurement : MeasurementRecord) :
    Result Unit × WorkerClient :=
  client.send (.publishMeasurement measurement)

/-- `WorkerClient::signal_ready`. -/
def signalReady (client : WorkerClient) : Result Unit × WorkerClient := client.send .ready

/-- `WorkerClient::heartbeat`. -/
def heartbeat (client : WorkerClient) : Result Unit × WorkerClient :=
  client.send .heartbeat

/-- The messages of a worker, sent one after the other. -/
def sendAll (client : WorkerClient) : List Message → List (Result Unit) × WorkerClient
  | [] => ([], client)
  | message :: messages =>
      let (result, next) := client.send message
      let (results, last) := sendAll next messages
      (result :: results, last)

end WorkerClient

/-- The encoding of a frame. -/
def frameBytes (frame : Frame) : List UInt8 :=
  frameBody frame ++ putU32 (crc32 (frameBody frame))

theorem encodeFrame_frameBytes {frame : Frame} (fits : frame.payload.length + 14 ≤ kMax) :
    encodeFrame frame kMax = .ok (frameBytes frame) := by
  have room : ¬frame.payload.length + kHeaderNoPayload + kCrcBytes > kMax := by
    simp only [kHeaderNoPayload, kCrcBytes]
    omega
  rw [encodeFrame, if_neg room, frameBytes]

/-- The encoding of a message. -/
def Message.bytes (message : Message) : List UInt8 := frameBytes message.frame

theorem Message.encoded (message : Message) :
    encodeFrame message.frame kMax = .ok message.bytes :=
  encodeFrame_frameBytes message.length_frame_le

/-- The encoding of a HELLO. -/
def helloBytes (hello : Hello) : List UInt8 := frameBytes (helloFrame hello)

theorem hello_encoded (hello : Hello) :
    encodeFrame (helloFrame hello) kMax = .ok (helloBytes hello) :=
  encodeFrame_frameBytes (by simp [helloFrame, encHello, kMax])

/-- Without failures a frame that fits is sent behind what was sent before. -/
theorem sendFrame_reliable {socket : Socket} (reliable : socket.Reliable) {frame : Frame}
    {bytes : List UInt8} (encoded : encodeFrame frame kMax = .ok bytes) :
    ∃ calls, sendFrame socket frame kMax =
      (true, { socket with calls := calls, bytes := socket.bytes ++ bytes }) := by
  obtain ⟨calls, sent⟩ := sendAll_reliable reliable bytes
  exact ⟨calls, by simp only [sendFrame, encoded, sent]⟩

/-- Without failures every call succeeds, and the bytes of the messages are sent behind
what was sent before. -/
theorem sendAll_ok {socket : Socket} (reliable : socket.Reliable)
    (messages : List Message) :
    (({ sock := some socket } : WorkerClient).sendAll messages).1 =
        List.replicate messages.length (.ok ()) ∧
      ∃ last, (({ sock := some socket } : WorkerClient).sendAll messages).2 =
          { sock := some last } ∧
        last.Reliable ∧ last.bytes = socket.bytes ++ stream Message.bytes messages := by
  induction messages generalizing socket with
  | nil => exact ⟨rfl, socket, rfl, reliable, by simp⟩
  | cons message messages ih =>
      obtain ⟨calls, sent⟩ := sendFrame_reliable reliable message.encoded
      have next : ({ socket with
          calls := calls, bytes := socket.bytes ++ message.bytes } : Socket).Reliable :=
            reliable
      obtain ⟨results, last, ended, lastReliable, bytes⟩ := ih next
      simp only [WorkerClient.sendAll, WorkerClient.send, sent, if_true]
      refine ⟨?_, last, ended, lastReliable, ?_⟩
      · rw [results, List.length_cons, List.replicate_succ]
      · rw [bytes, stream_cons, List.append_assoc]

theorem recvFrame_transport (socket : Socket) (maxBytes : Nat) :
    (recvFrame socket maxBytes).2.transport = socket.transport := by
  have header := recvExact_transport socket kHeaderNoPayload
  unfold recvFrame
  split
  next next headerEq => exact (congrArg (·.2.transport) headerEq).symm.trans header
  next filled next headerEq =>
    have same : next.transport = socket.transport :=
      (congrArg (·.2.transport) headerEq).symm.trans header
    dsimp only
    split
    · exact same
    · have payload := recvExact_transport next
        (LittleEndian.decode ((filled.drop 6).take 4) + kCrcBytes)
      split
      next last restEq =>
        exact ((congrArg (·.2.transport) restEq).symm.trans payload).trans same
      next rest last restEq =>
        exact ((congrArg (·.2.transport) restEq).symm.trans payload).trans same

/-- Of a stream that starts with the encoding of a frame and may end early, whatever
the transport does, only that frame is received; it is received if the encoding
arrived whole and no call fails. -/
theorem recvFrame_arrived {socket : Socket} {frame : Frame} {bytes others : List UInt8}
    (encoded : encodeFrame frame kMax = .ok bytes) (declared : frame.type.declared = true)
    (arrived : socket.bytes <+: bytes ++ others) :
    ((recvFrame socket kMax).1 = .ok frame ∧
        socket.bytes = bytes ++ (recvFrame socket kMax).2.bytes) ∨
      ∃ error, (recvFrame socket kMax).1 = .error error ∧
        (socket.Reliable → socket.bytes.length < bytes.length) := by
  have bound : kMax < 2 ^ 32 := by decide
  have sized := encodeFrame_ok bound encoded
  cases received : recvFrame socket kMax with
  | mk result last =>
  cases result with
  | error error =>
      refine .inr ⟨error, rfl, fun reliable => ?_⟩
      by_contra long
      obtain ⟨rest, whole⟩ :=
        List.prefix_of_prefix_length_le (List.prefix_append bytes others)
          arrived (by omega)
      obtain ⟨next, accepted, -⟩ := recvFrame_encoded reliable encoded whole.symm
      simp [accepted, delivered, declared] at received
  | ok other =>
      obtain ⟨front, spelled, split⟩ := recvFrame_ok received
      have frontSized := encodeFrame_ok bound spelled
      have inside : front <+: bytes ++ others := by
        rw [split] at arrived
        exact (List.prefix_append front _).trans arrived
      obtain rfl : front = bytes := by
        rcases List.prefix_or_prefix_of_prefix inside
            (List.prefix_append bytes others) with
          ⟨lost, rfl⟩ | ⟨extra, rfl⟩
        · rw [frontSized.1.eq_nil (by decide) sized.1, List.append_nil]
        · rw [sized.1.eq_nil (by decide) frontSized.1, List.append_nil]
      have same : delivered other = .ok frame := by
        rw [← decodeFrame_encoded bound spelled,
          decodeFrame_of_encodeFrame bound encoded declared]
      have equal : other = frame := by
        unfold delivered at same
        split at same
        · exact Except.ok.inj same
        · cases same
      exact .inl ⟨congrArg _ equal, split⟩

/-- Nothing is received once the stream has ended. -/
theorem recvFrame_nothing {socket : Socket} (ended : socket.bytes = []) :
    ∃ error, (recvFrame socket kMax).1 = .error error :=
  ⟨_, recvFrame_end ended kMax⟩

end NvlinkFabric.Coordinator

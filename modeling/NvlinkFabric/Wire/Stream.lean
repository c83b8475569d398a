import NvlinkFabric.Wire.Canonical

/-!
# Frames on a byte stream

A connection carries bytes reliably and in order, but a call may move only a part
of what it was asked to move.  `send_all` and `recv_exact` loop until everything
has been moved, so nothing above them depends on how the transport splits the
stream: `recv_frame` takes exactly one encoded frame off the front of it.
-/

namespace NvlinkFabric.Wire

/-- How the system answers the calls on a socket: call number `index` fails, or
moves a part of the bytes at hand, whose size the number picks. -/
abbrev Transport := Nat → Option Nat

/-- One direction of a connection.  The bytes are those sent so far at the sending
end, and those still to be received at the receiving end. -/
structure Socket where
  transport : Transport
  calls : Nat := 0
  bytes : List UInt8 := []

namespace Socket

/-- How many of the available bytes the next call moves: none if it fails or there
are none, else at least one. -/
def moved (socket : Socket) (available : Nat) : Nat :=
  match socket.transport socket.calls with
  | none => 0
  | some choice => if available = 0 then 0 else 1 + choice % available

/-- `::send`: the number of bytes taken from the front of the buffer. -/
def send (socket : Socket) (buffer : List UInt8) : Nat × Socket :=
  let sent := socket.moved buffer.length
  (sent,
    { socket with calls := socket.calls + 1, bytes := socket.bytes ++ buffer.take sent })

/-- `::recv`: at most `count` bytes from the front of the stream; none at its end. -/
def recv (socket : Socket) (count : Nat) : List UInt8 × Socket :=
  let received := socket.moved (min count socket.bytes.length)
  (socket.bytes.take received,
    { socket with calls := socket.calls + 1, bytes := socket.bytes.drop received })

theorem moved_le (socket : Socket) (available : Nat) :
    socket.moved available ≤ available := by
  unfold moved
  cases socket.transport socket.calls with
  | none => exact Nat.zero_le _
  | some choice =>
      by_cases empty : available = 0
      · simp [empty]
      · have part := Nat.mod_lt choice (Nat.pos_of_ne_zero empty)
        simp only [empty, if_false]
        omega

/-- No call on the socket fails. -/
def Reliable (socket : Socket) : Prop := ∀ index, socket.transport index ≠ none

theorem moved_pos {socket : Socket} (reliable : socket.Reliable) {available : Nat}
    (nonempty : available ≠ 0) : socket.moved available ≠ 0 := by
  unfold moved
  cases answer : socket.transport socket.calls with
  | none => exact absurd answer (reliable socket.calls)
  | some choice =>
      simp only [nonempty, if_false]
      omega

theorem length_recv (socket : Socket) (count : Nat) :
    (socket.recv count).1.length = socket.moved (min count socket.bytes.length) := by
  have bound := socket.moved_le (min count socket.bytes.length)
  simp only [recv, List.length_take]
  omega

theorem length_recv_le (socket : Socket) (count : Nat) :
    (socket.recv count).1.length ≤ count := by
  have bound := socket.moved_le (min count socket.bytes.length)
  rw [length_recv]
  omega

/-- A call takes what it returns off the front of the stream. -/
theorem recv_append (socket : Socket) (count : Nat) :
    (socket.recv count).1 ++ (socket.recv count).2.bytes = socket.bytes :=
  List.take_append_drop _ _

end Socket

/-- `send_all`. -/
def sendAll (socket : Socket) (bytes : List UInt8) : Bool × Socket :=
  if bytes.length = 0 then (true, socket)
  else
    let (sent, next) := socket.send bytes
    if sent = 0 then (false, next)
    else sendAll next (bytes.drop sent)
termination_by bytes.length
decreasing_by
  rw [List.length_drop]
  omega

/-- `recv_exact`: the filled buffer, or `none` where the source returns false. -/
def recvExact (socket : Socket) (count : Nat) : Option (List UInt8) × Socket :=
  if count = 0 then (some [], socket)
  else
    let (received, next) := socket.recv count
    if received.length = 0 then (none, next)
    else
      let (rest, last) := recvExact next (count - received.length)
      (rest.map (received ++ ·), last)
termination_by count
decreasing_by
  omega

/-- Without failures everything is sent, behind what was sent before. -/
theorem sendAll_reliable {socket : Socket} (reliable : socket.Reliable)
    (bytes : List UInt8) :
    ∃ calls, sendAll socket bytes =
      (true, { socket with calls := calls, bytes := socket.bytes ++ bytes }) := by
  fun_induction sendAll socket bytes with
  | case1 socket bytes empty =>
      refine ⟨socket.calls, ?_⟩
      rw [List.eq_nil_of_length_eq_zero empty, List.append_nil]
  | case2 socket bytes nonempty next sendEq =>
      exact absurd (congrArg Prod.fst sendEq) (socket.moved_pos reliable nonempty)
  | case3 socket bytes nonempty sent next sendEq some ih =>
      obtain ⟨rfl, rfl⟩ := Prod.mk.inj sendEq
      obtain ⟨calls, rest⟩ := ih reliable
      refine ⟨calls, ?_⟩
      rw [rest, List.append_assoc, List.take_append_drop]

/-- Whatever the transport does, a filled buffer holds the next bytes of the stream. -/
theorem recvExact_some {socket last : Socket} {count : Nat} {buffer : List UInt8}
    (filled : recvExact socket count = (some buffer, last)) :
    buffer.length = count ∧ buffer ++ last.bytes = socket.bytes := by
  fun_induction recvExact socket count generalizing buffer last with
  | case1 socket =>
      simp only [Prod.mk.injEq, Option.some.injEq] at filled
      obtain ⟨rfl, rfl⟩ := filled
      exact ⟨rfl, rfl⟩
  | case2 socket count nonempty received next recvEq none => simp at filled
  | case3 socket count nonempty received next recvEq some rest last' restEq ih =>
      simp only [Prod.mk.injEq, Option.map_eq_some_iff] at filled
      obtain ⟨⟨tail, rfl, rfl⟩, rfl⟩ := filled
      obtain ⟨size, stream⟩ := ih restEq
      have bound := socket.length_recv_le count
      have front := socket.recv_append count
      rw [recvEq] at bound front
      refine ⟨?_, ?_⟩
      · rw [List.length_append, size]
        exact Nat.add_sub_cancel' bound
      · rw [List.append_assoc, stream]
        exact front

theorem recvExact_transport (socket : Socket) (count : Nat) :
    (recvExact socket count).2.transport = socket.transport := by
  fun_induction recvExact socket count with
  | case1 socket => rfl
  | case2 socket count nonempty received next recvEq none =>
      exact congrArg (·.2.transport) recvEq.symm
  | case3 socket count nonempty received next recvEq some rest last restEq ih =>
      rw [restEq] at ih
      exact ih.trans (congrArg (·.2.transport) recvEq.symm)

/-- Without failures any buffer that the stream can fill is filled. -/
theorem recvExact_ne_none {socket : Socket} (reliable : socket.Reliable) {count : Nat}
    (long : count ≤ socket.bytes.length) : (recvExact socket count).1 ≠ none := by
  fun_induction recvExact socket count with
  | case1 socket => simp
  | case2 socket count nonempty received next recvEq none =>
      have size := socket.length_recv count
      rw [recvEq, none, Nat.min_eq_left long] at size
      exact absurd size.symm (socket.moved_pos reliable nonempty)
  | case3 socket count nonempty received next recvEq some rest last restEq ih =>
      have front := congrArg List.length (socket.recv_append count)
      rw [List.length_append] at front
      obtain ⟨rfl, rfl⟩ := Prod.mk.inj recvEq
      have tail : count - (socket.recv count).1.length ≤
          (socket.recv count).2.bytes.length := by
        omega
      have filled := ih reliable tail
      rw [restEq] at filled
      simpa using filled

theorem recvExact_reliable {socket : Socket} (reliable : socket.Reliable)
    {buffer rest : List UInt8} (stream : socket.bytes = buffer ++ rest) {count : Nat}
    (size : buffer.length = count) :
    ∃ last, recvExact socket count = (some buffer, last) ∧ last.bytes = rest ∧
      last.Reliable := by
  have long : count ≤ socket.bytes.length := by simp [stream, size]
  obtain ⟨filled, found⟩ :=
    Option.ne_none_iff_exists'.mp (recvExact_ne_none reliable long)
  have received : recvExact socket count = (some filled, (recvExact socket count).2) :=
    Prod.ext found rfl
  obtain ⟨filledSize, filledStream⟩ := recvExact_some received
  obtain ⟨rfl, restEq⟩ := List.append_inj (filledStream.trans stream)
    (filledSize.trans size.symm)
  refine ⟨_, received, restEq, ?_⟩
  intro index
  rw [recvExact_transport]
  exact reliable index

/-- A stream that ends early leaves the buffer unfilled. -/
theorem recvExact_end {socket : Socket} {count : Nat}
    (short : socket.bytes.length < count) :
    (recvExact socket count).1 = none := by
  cases found : (recvExact socket count).1 with
  | none => rfl
  | some filled =>
      have received : recvExact socket count =
          (some filled, (recvExact socket count).2) :=
        Prod.ext found rfl
      obtain ⟨size, stream⟩ := recvExact_some received
      have whole := congrArg List.length stream
      rw [List.length_append] at whole
      omega

/-! ## Frames -/

/-- The bound on a frame that both ends use. -/
def kMax : Nat := 16 * 1024 * 1024

/-- `send_frame`. -/
def sendFrame (socket : Socket) (frame : Frame) (maxBytes : Nat) : Bool × Socket :=
  match encodeFrame frame maxBytes with
  | .error _ => (false, socket)
  | .ok bytes => sendAll socket bytes

/-- `recv_frame`.  The bound on the payload is a difference of `size_t` values. -/
def recvFrame (socket : Socket) (maxBytes : Nat) : Result Frame × Socket :=
  match recvExact socket kHeaderNoPayload with
  | (none, next) => (err .protocolError "connection closed during header", next)
  | (some header, next) =>
      let payloadLen := LittleEndian.decode ((header.drop 6).take 4)
      if payloadLen > (UInt64.ofNat maxBytes - UInt64.ofNat kHeaderNoPayload -
          UInt64.ofNat kCrcBytes).toNat then
        (err .resourceLimit "frame too large", next)
      else
        match recvExact next (payloadLen + kCrcBytes) with
        | (none, last) => (err .protocolError "connection closed during payload", last)
        | (some rest, last) => (decodeFrame (header ++ rest) maxBytes, last)

/-- Whatever the transport does, an accepted frame was the front of the stream. -/
theorem recvFrame_ok {socket last : Socket} {maxBytes : Nat} {frame : Frame}
    (received : recvFrame socket maxBytes = (.ok frame, last)) :
    ∃ bytes, encodeFrame frame maxBytes = .ok bytes ∧
      socket.bytes = bytes ++ last.bytes := by
  unfold recvFrame at received
  cases headerEq : recvExact socket kHeaderNoPayload with
  | mk header next =>
  rw [headerEq] at received
  cases header with
  | none => simp [err] at received
  | some header =>
  simp only at received
  split at received
  · simp [err] at received
  cases restEq : recvExact next
      (LittleEndian.decode ((header.drop 6).take 4) + kCrcBytes) with
  | mk rest final =>
  rw [restEq] at received
  cases rest with
  | none => simp [err] at received
  | some rest =>
  obtain ⟨decoded, rfl⟩ := Prod.mk.inj received
  refine ⟨header ++ rest, (encodeFrame_of_decodeFrame decoded).1, ?_⟩
  rw [← (recvExact_some headerEq).2, ← (recvExact_some restEq).2, List.append_assoc]

/-- What the receiver makes of an encoded frame: `valid_type` refuses a code that is
no enumerator. -/
def delivered (frame : Frame) : Result Frame :=
  if frame.type.declared then .ok frame else err .protocolError "invalid message type"

theorem decodeFrame_encoded {frame : Frame} {maxBytes : Nat} {bytes : List UInt8}
    (bound : maxBytes < 2 ^ 32) (encoded : encodeFrame frame maxBytes = .ok bytes) :
    decodeFrame bytes maxBytes = delivered frame := by
  cases declared : frame.type.declared with
  | true =>
      rw [decodeFrame_of_encodeFrame bound encoded declared]
      simp [delivered, declared]
  | false =>
      obtain ⟨-, rfl⟩ := encodeFrame_ok_iff.mp encoded
      have long : ¬frame.payload.length + 14 < kHeaderNoPayload + kCrcBytes := by
        simp only [kHeaderNoPayload, kCrcBytes]
        omega
      have refused : validType frame.type.toByte = false := by
        rw [MessageType.validType_toByte, declared]
      simp only [decodeFrame, length_spell, long, spell_magic, decode_putU32,
        spell_version, spell_type, refused, delivered, declared, ne_eq,
        not_true_eq_false, if_false,
        Bool.not_false, if_true, Bool.false_eq_true]

/-- Without failures one frame is taken off the stream, wherever the stream splits. -/
theorem recvFrame_encoded {socket : Socket} (reliable : socket.Reliable) {frame : Frame}
    {bytes rest : List UInt8} (encoded : encodeFrame frame kMax = .ok bytes)
    (stream : socket.bytes = bytes ++ rest) :
    ∃ last, recvFrame socket kMax = (delivered frame, last) ∧ last.bytes = rest ∧
      last.Reliable := by
  have bound : kMax < 2 ^ 32 := by decide
  obtain ⟨fits, spelled⟩ := encodeFrame_ok_iff.mp encoded
  have size : bytes.length = frame.payload.length + 14 := by rw [spelled, length_spell]
  have word : LittleEndian.decode (((bytes.take 10).drop 6).take 4) =
      frame.payload.length := by
    rw [List.drop_take, List.take_take, spelled,
      Nat.min_eq_left (by decide), spell_length, decode_putU32,
      toNat_sentLength bound fits]
  have room : ¬frame.payload.length > (UInt64.ofNat kMax - UInt64.ofNat kHeaderNoPayload -
      UInt64.ofNat kCrcBytes).toNat := by
    have bounds : (UInt64.ofNat kMax - UInt64.ofNat kHeaderNoPayload -
        UInt64.ofNat kCrcBytes).toNat + 14 = kMax := by decide
    omega
  have headerSize : (bytes.take 10).length = kHeaderNoPayload := by
    rw [List.length_take, kHeaderNoPayload]
    omega
  have restSize : (bytes.drop 10).length = frame.payload.length + kCrcBytes := by
    rw [List.length_drop, kCrcBytes]
    omega
  have headerStream : socket.bytes = bytes.take 10 ++ (bytes.drop 10 ++ rest) := by
    rw [← List.append_assoc, List.take_append_drop, stream]
  obtain ⟨next, headerEq, nextStream, nextReliable⟩ :=
    recvExact_reliable reliable headerStream headerSize
  obtain ⟨last, restEq, lastStream, lastReliable⟩ :=
    recvExact_reliable nextReliable nextStream restSize
  refine ⟨last, ?_, lastStream, lastReliable⟩
  simp only [recvFrame, headerEq, word, room, if_false, restEq, List.take_append_drop,
    decodeFrame_encoded bound encoded]

/-- Send frames one after the other; the answers of `send_frame` come along. -/
def sendFrames (socket : Socket) : List Frame → List Bool × Socket
  | [] => ([], socket)
  | frame :: frames =>
      let (sent, next) := sendFrame socket frame kMax
      let (others, last) := sendFrames next frames
      (sent :: others, last)

/-- The results of calling `recv_frame` a number of times. -/
def recvFrames (socket : Socket) : Nat → List (Result Frame) × Socket
  | 0 => ([], socket)
  | count + 1 =>
      let (received, next) := recvFrame socket kMax
      let (others, last) := recvFrames next count
      (received :: others, last)

/-- Strings that `encode_frame` returns for the frames. -/
abbrev Encodings (frames : List Frame) (encodings : List (List UInt8)) : Prop :=
  List.Forall₂ (fun frame bytes => encodeFrame frame kMax = .ok bytes) frames encodings

theorem exists_encodings {frames : List Frame}
    (accepted : ∀ frame ∈ frames, ∃ bytes, encodeFrame frame kMax = .ok bytes) :
    ∃ encodings, Encodings frames encodings := by
  induction frames with
  | nil => exact ⟨[], .nil⟩
  | cons frame frames ih =>
      obtain ⟨bytes, encoded⟩ := accepted frame List.mem_cons_self
      obtain ⟨encodings, others⟩ :=
        ih fun other member => accepted other (List.mem_cons_of_mem _ member)
      exact ⟨bytes :: encodings, .cons encoded others⟩

/-- Without failures the stream holds the encodings in the order of the frames. -/
theorem sendFrames_encoded {socket : Socket} (reliable : socket.Reliable)
    {frames : List Frame} {encodings : List (List UInt8)}
    (encoded : Encodings frames encodings) :
    (sendFrames socket frames).1 = List.replicate frames.length true ∧
      (sendFrames socket frames).2.bytes = socket.bytes ++ encodings.flatten := by
  induction encoded generalizing socket with
  | nil => exact ⟨rfl, (List.append_nil _).symm⟩
  | cons first others ih =>
      rename_i frame bytes frames encodings
      obtain ⟨calls, sent⟩ := sendAll_reliable reliable bytes
      have next : ({ socket with
          calls := calls, bytes := socket.bytes ++ bytes } : Socket).Reliable := reliable
      obtain ⟨answers, stream⟩ := ih next
      simp only [sendFrames, sendFrame, first, sent]
      refine ⟨?_, ?_⟩
      · rw [answers, List.length_cons, List.replicate_succ]
      · rw [stream, List.flatten_cons, List.append_assoc]

/-- Without failures the frames are received in order, and nothing else is taken off
the stream. -/
theorem recvFrames_encoded {socket : Socket} (reliable : socket.Reliable)
    {frames : List Frame} {encodings : List (List UInt8)}
    (encoded : Encodings frames encodings) {rest : List UInt8}
    (stream : socket.bytes = encodings.flatten ++ rest) :
    ∃ last, recvFrames socket frames.length = (frames.map delivered, last) ∧
      last.bytes = rest := by
  induction encoded generalizing socket with
  | nil => exact ⟨socket, rfl, stream⟩
  | cons first others ih =>
      rw [List.flatten_cons, List.append_assoc] at stream
      obtain ⟨next, received, nextStream, nextReliable⟩ :=
        recvFrame_encoded reliable first stream
      obtain ⟨last, results, lastStream⟩ := ih nextReliable nextStream
      refine ⟨last, ?_, lastStream⟩
      simp only [List.length_cons, recvFrames, received, results, List.map_cons]

/-- At the end of the stream there is no header to be read. -/
theorem recvFrame_end {socket : Socket} (ended : socket.bytes = []) (maxBytes : Nat) :
    (recvFrame socket maxBytes).1 =
      err .protocolError "connection closed during header" := by
  have short : socket.bytes.length < kHeaderNoPayload := by simp [ended, kHeaderNoPayload]
  have unfilled := recvExact_end short
  cases headerEq : recvExact socket kHeaderNoPayload with
  | mk header next =>
  rw [headerEq] at unfilled
  simp only at unfilled
  simp only [recvFrame, headerEq, unfilled]

/-- Frames sent over one transport are received over any other in the order in which
they were sent, followed by an error; and from any stream, over any transport,
`recv_frame` accepts nothing but an encoded frame at the front. -/
theorem stream_self_delimiting :
    (∀ (outgoing incoming : Transport), (∀ index, outgoing index ≠ none) →
      (∀ index, incoming index ≠ none) → ∀ frames : List Frame,
      (∀ frame ∈ frames, ∃ bytes, encodeFrame frame kMax = .ok bytes) →
      ∃ wire last : Socket,
        sendFrames { transport := outgoing } frames =
          (List.replicate frames.length true, wire) ∧
        recvFrames { transport := incoming, bytes := wire.bytes } frames.length =
          (frames.map delivered, last) ∧
        ((∀ frame ∈ frames, frame.type.declared = true) →
          frames.map delivered = frames.map .ok) ∧
        (recvFrame last kMax).1 =
          err .protocolError "connection closed during header") ∧
    ∀ (socket last : Socket) (frame : Frame), recvFrame socket kMax = (.ok frame, last) →
      ∃ bytes, encodeFrame frame kMax = .ok bytes ∧
        socket.bytes = bytes ++ last.bytes := by
  refine ⟨fun outgoing incoming sending receiving frames accepted => ?_,
    fun socket last frame received => recvFrame_ok received⟩
  obtain ⟨encodings, encoded⟩ := exists_encodings accepted
  have sender : Socket.Reliable { transport := outgoing } := sending
  obtain ⟨answers, stream⟩ := sendFrames_encoded sender encoded
  cases sent : sendFrames { transport := outgoing } frames with
  | mk replies wire =>
  rw [sent] at answers stream
  simp only [List.nil_append] at answers stream
  have whole : wire.bytes = encodings.flatten ++ [] := by rw [stream, List.append_nil]
  have receiver : Socket.Reliable { transport := incoming, bytes := wire.bytes } :=
    receiving
  obtain ⟨last, results, ended⟩ := recvFrames_encoded receiver encoded whole
  refine ⟨wire, last, by rw [answers], results, fun declared => ?_, recvFrame_end ended _⟩
  apply List.map_congr_left
  intro frame member
  rw [delivered, declared frame member, if_pos rfl]

/-- One byte at a time is enough for a READY and a heartbeat. -/
theorem ready_delivered :
    ∃ wire last : Socket,
      sendFrames { transport := fun _ => some 0 }
        [{ type := .ready, payload := putU64 1 },
        { type := .heartbeat }] = ([true, true], wire) ∧
      recvFrames { transport := fun _ => some 0, bytes := wire.bytes } 2 =
        ([.ok { type := .ready, payload := putU64 1 },
          .ok { type := .heartbeat }], last) ∧
      ∃ bytes rest, encodeFrame { type := .ready, payload := putU64 1 } kMax = .ok bytes ∧
        wire.bytes = bytes ++ rest := by
  obtain ⟨wire, last, sent, received, -, -⟩ :=
    stream_self_delimiting.1 (fun _ => some 0) (fun _ => some 0) (by simp) (by simp)
      [{ type := .ready, payload := putU64 1 }, { type := .heartbeat }]
      (by simp [encodeFrame_ok_iff, kMax])
  refine ⟨wire, last, sent, received, ?_⟩
  cases first : recvFrame { transport := fun _ => some 0, bytes := wire.bytes } kMax with
  | mk result next =>
  obtain rfl : result = .ok { type := .ready, payload := putU64 1 } := by
    simp only [List.length_cons, recvFrames, first, Prod.mk.injEq, List.map_cons,
      List.cons.injEq] at received
    exact received.1.1
  obtain ⟨bytes, encoded, front⟩ := stream_self_delimiting.2 _ next _ first
  exact ⟨bytes, next.bytes, encoded, front⟩

end NvlinkFabric.Wire

import NvlinkFabric.Coordinator.Server
import NvlinkFabric.Wire.Stream
import NvlinkFabric.Worker.Evidence

/-!
# The worker client

`WorkerClient` sends a frame and reads the reply to it.  A reply travels as bytes:
`transmit` is what the receiving end makes of a frame that was sent.  The route
request carries the two endpoints and nothing else, and the coordinator answers it
under its default policy.
-/

namespace NvlinkFabric.Coordinator

open Wire ByteReader

/-- A frame that is sent at one end of a connection, as received at the other. -/
def transmit (frame : Frame) : Result Frame := do
  let bytes ← encodeFrame frame kMax
  decodeFrame bytes kMax

/-- A frame that fits arrives as it was sent. -/
theorem transmit_eq {frame : Frame} (declared : frame.type.declared = true)
    (fits : frame.payload.length + 14 ≤ kMax) : transmit frame = .ok frame := by
  have encoded := encodeFrame_ok_iff.mpr ⟨fits, rfl⟩
  rw [transmit, encoded]
  exact decodeFrame_of_encodeFrame (by decide) encoded declared

/-- `std::string::find`, asked whether there is an occurrence. -/
def occursIn (needle text : Text) : Bool := text.tails.any (needle.isPrefixOf ·)

/-- The HELLO that `connect` sends. -/
def helloFrame (hello : Hello) : Frame := { type := .hello, payload := encHello hello }

/-- `WorkerClient::connect` on a connected socket, given the reply it receives. -/
def connect (reply : Result Frame) : Result Unit :=
  match reply with
  | .error _ => err .protocolError "worker got no HELLO reply"
  | .ok frame =>
      if frame.type = .goodbye then
        let note := (str.run { bytes := frame.payload }).1
        let code : ErrorCode := if occursIn "epoch" note then .staleEpoch else .staleBoot
        err code (if note.isEmpty then "worker rejected" else note)
      else if frame.type ≠ .ready then err .protocolError "unexpected HELLO reply"
      else .ok ()

/-- The request that `request_route` sends. -/
def routeFrame (source target : DeviceId) : Frame where
  type := .route
  payload := [putU64 source.value, putU64 target.value].flatten

/-- The decision that `request_route` reads from a reply. -/
def decDecision : ByteReader RouteDecision := do
  let outcome ← RouteDecisionOutcome.ofByte <$> u8
  let selected ← u64
  let explanation ← str
  return {
    outcome, explanation
    selected := if selected ≠ 0 then some ⟨selected⟩ else none }

/-- `WorkerClient::request_route`, given how its request is answered.  The policy is
an unnamed parameter of the source. -/
def requestRoute (answer : Frame → Result Frame) (source target : DeviceId)
    (_policy : RoutePolicy) : Result RouteDecision :=
  match answer (routeFrame source target) with
  | .error _ => err .protocolError "bad route reply"
  | .ok frame =>
      if frame.type ≠ .route then err .protocolError "bad route reply"
      else .ok (decDecision.run { bytes := frame.payload }).1

/-- How the coordinator answers a frame in a given state of its registry.  A frame
without a reply leaves the client waiting until the connection ends. -/
def answer (limits : Limits) (ambient : Ambient) (registry : Registry.State)
    (frame : Frame) :
    Result Frame := do
  let received ← transmit frame
  match routeReply limits ambient registry received with
  | some reply => transmit reply
  | none => err .protocolError "connection closed during header"

/-- What a reply carries of a decision. -/
def carriedDecision (decision : RouteDecision) : RouteDecision where
  outcome := decision.outcome
  selected := decision.selected.filter (·.value ≠ 0)
  explanation := sent decision.explanation

/-- The payload of a reply with a decision. -/
def encDecision (decision : RouteDecision) : List UInt8 :=
  [putU8 decision.outcome.toByte, putU64 ((decision.selected.map (·.value)).getD 0),
    putStr decision.explanation].flatten

theorem decodes_decDecision (decision : RouteDecision) :
    Decodes decDecision (encDecision decision) (carriedDecision decision) := by
  have selected : (if (decision.selected.map (·.value)).getD 0 ≠ 0 then
      some (⟨(decision.selected.map (·.value)).getD 0⟩ : PathId) else none) =
        decision.selected.filter (·.value ≠ 0) := by
    cases decision.selected with
    | none => rfl
    | some id =>
        by_cases zero : id.value = 0
        · simp [zero, Option.filter_some]
        · simp [zero, Option.filter_some]
  have last : Decodes
      (pure
        { outcome := decision.outcome
          explanation := sent decision.explanation
          selected :=
            if (decision.selected.map (·.value)).getD 0 ≠ 0 then
              some ⟨(decision.selected.map (·.value)).getD 0⟩
            else none })
      [] (carriedDecision decision) := by
    rw [selected]
    exact .pure _
  exact
    .field ((decodes_u8 _).mapped (RouteDecisionOutcome.ofByte_toByte _)) <|
    .field (decodes_u64 _) <|
    .field (decodes_str _) <|
    last

/-- The endpoints of a request arrive as they were sent. -/
theorem routeReply_routeFrame {limits : Limits} {ambient : Ambient}
    {registry : Registry.State} {source target : DeviceId} {decision : RouteDecision}
    (decided : Registry.decideRoute limits ambient source target .defaultPolicy registry =
      .ok decision) :
    routeReply limits ambient registry (routeFrame source target) =
      some { type := .route, payload := encDecision decision } := by
  have decodes : Decodes (do
      let source ← Id.mk <$> u64
      let target ← Id.mk <$> u64
      return ((source, target) : DeviceId × DeviceId))
      (routeFrame source target).payload (source, target) :=
    .field ((decodes_u64 _).mapped rfl) <| .field ((decodes_u64 _).mapped rfl) <| .pure _
  simp only [routeReply, decodes.runAll, decided]
  simp only [routeFrame, ne_eq, not_true_eq_false, decide_false, Bool.or_false,
    Bool.false_eq_true, if_false, encDecision]

theorem length_putStr_le (text : Text) : (putStr text).length ≤ 65537 := by
  rw [putStr, putU16, List.length_append, LittleEndian.length_encode, List.length_take,
    UInt16.toNat_ofNat']
  split <;> omega

theorem length_encDecision_le (decision : RouteDecision) :
    (encDecision decision).length ≤ 65546 := by
  have cut := length_putStr_le decision.explanation
  simp only [encDecision, List.flatten_cons, List.flatten_nil, List.length_append,
    length_putU8, length_putU64, List.length_nil]
  omega

/-- A request is answered with what a reply carries of the decision under the default
policy. -/
theorem requestRoute_eq {limits : Limits} {ambient : Ambient} {registry : Registry.State}
    {source target : DeviceId} {decision : RouteDecision}
    (decided : Registry.decideRoute limits ambient source target .defaultPolicy registry =
      .ok decision) (policy : RoutePolicy) :
    requestRoute (answer limits ambient registry) source target policy =
      .ok (carriedDecision decision) := by
  have request : transmit (routeFrame source target) = .ok (routeFrame source target) :=
    transmit_eq rfl (by simp [routeFrame, kMax])
  have reply : transmit { type := .route, payload := encDecision decision } =
      .ok { type := .route, payload := encDecision decision } := by
    apply transmit_eq rfl
    have size := length_encDecision_le decision
    simp only [kMax]
    omega
  have answered : answer limits ambient registry (routeFrame source target) =
      .ok { type := .route, payload := encDecision decision } := by
    simp only [answer, request, bind, Except.bind, routeReply_routeFrame decided, reply]
  simp only [requestRoute, answered, (decodes_decDecision decision).runAll, ne_eq,
    not_true_eq_false, if_false]

/-- Whatever policy is passed, a remote request returns the outcome and the selected
path of a decision under the default policy, and its explanation up to 65535 bytes. -/
theorem requestRoute_default (limits : Limits) (ambient : Ambient)
    (registry : Registry.State) (source target : DeviceId) (policy : RoutePolicy) :
    ∃ remote decision,
      requestRoute (answer limits ambient registry) source target policy = .ok remote ∧
      Registry.decideRoute limits ambient source target .defaultPolicy registry =
        .ok decision ∧
      remote.outcome = decision.outcome ∧
      remote.selected = decision.selected.filter (·.value ≠ 0) ∧
      remote.explanation = decision.explanation.take 65535 := by
  obtain ⟨decision, decided⟩ := Registry.decideRoute_total limits ambient source target
    .defaultPolicy registry
  exact ⟨carriedDecision decision, decision, requestRoute_eq decided policy,
    decided, rfl, rfl, rfl⟩

/-- A policy that asks for a measurement. -/
def measuredPolicy : RoutePolicy :=
  { RoutePolicy.defaultPolicy with hard := { minMeasuredBandwidthBps := some 1 } }

/-- Where nothing was measured, a policy that asks for a measurement allows no route;
a remote request under that policy still returns one. -/
theorem requestRoute_ignores_policy :
    ¬∀ (limits : Limits) (ambient : Ambient) (registry : Registry.State)
      (source target : DeviceId) (policy : RoutePolicy) (remote decision : RouteDecision),
      Registry.Reachable limits registry →
      requestRoute (answer limits ambient registry) source target policy = .ok remote →
      Registry.decideRoute limits ambient source target policy registry = .ok decision →
      (∀ id ∈ decision.selected, id.value ≠ 0) →
      remote.outcome = decision.outcome ∧ remote.selected = decision.selected ∧
        remote.explanation = decision.explanation.take 65535 := by
  intro obeys
  obtain ⟨byDefault, decidedDefault⟩ := Registry.decideRoute_total {} {} Worker.sourceId
    Worker.targetId .defaultPolicy Worker.published
  obtain ⟨decision, decided⟩ := Registry.decideRoute_total {} {} Worker.sourceId
    Worker.targetId measuredPolicy Worker.published
  have allowed :
      (Registry.decideRoute {} {} Worker.sourceId Worker.targetId .defaultPolicy
      Worker.published).toOption.map (·.outcome) = some .routeAllowed := by decide +kernel
  have rejected :
      (Registry.decideRoute {} {} Worker.sourceId Worker.targetId measuredPolicy
      Worker.published).toOption.map (fun decision =>
        (decision.outcome, decision.selected)) =
        some (.policyRejected, none) := by decide +kernel
  simp only [decidedDefault, Except.toOption, Option.map_some,
    Option.some.injEq] at allowed
  simp only [decided, Except.toOption, Option.map_some, Option.some.injEq,
    Prod.mk.injEq] at rejected
  have same : byDefault.outcome = decision.outcome :=
    (obeys {} {} Worker.published _ _ measuredPolicy _ decision ⟨_, rfl⟩
      (requestRoute_eq decidedDefault measuredPolicy) decided (by simp [rejected.2])).1
  rw [allowed, rejected.1] at same
  exact absurd same (by decide)

end NvlinkFabric.Coordinator

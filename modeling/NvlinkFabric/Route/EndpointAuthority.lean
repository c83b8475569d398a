import NvlinkFabric.Route.FailClosed
import NvlinkFabric.Route.UsableRoutes

/-!
# Authority of the devices on a route

`decide_route` looks devices up but never reads their health.  A device that is absent,
unreachable, incompatible or awaits revalidation is kept off the routes only by its
links, as long as they block.  Nothing in the registry ties the two together, so this
holds along runs whose calls do.
-/

namespace NvlinkFabric

/-- Health of a device that has lost its authority. -/
def DeviceHealthState.isWithdrawn : DeviceHealthState → Bool
  | .absent | .unreachable | .incompatible | .revalidationRequired => true
  | _ => false

namespace Registry

open Transition

variable {limits : Limits} {state : State} {call : Call} {calls : List Call}
variable {source target id : DeviceId} {policy : RoutePolicy} {path : Path}

/-- The device is stored without authority. -/
def withdrawn (state : State) (id : DeviceId) : Bool :=
  (state.devices.find? id).any (·.health.isWithdrawn)

theorem withdrawn_iff : withdrawn state id = true ↔
    ∃ device, (id, device) ∈ state.devices.entries ∧
      device.health.isWithdrawn = true := by
  simp only [withdrawn, Option.any_eq_true, FiniteMap.find?_eq_some]

/-- Both ends of the link have authority. -/
def HasAuthority (state : State) (link : LinkRecord) : Prop :=
  withdrawn state link.source = false ∧ withdrawn state link.target = false

instance (state : State) (link : LinkRecord) : Decidable (HasAuthority state link) :=
  inferInstanceAs (Decidable (_ ∧ _))

theorem hasAuthority_iff {link : LinkRecord} : HasAuthority state link ↔
    ∀ id, link.source = id ∨ link.target = id → withdrawn state id = false := by
  constructor
  · rintro ⟨sourceHolds, targetHolds⟩ id (rfl | rfl)
    · exact sourceHolds
    · exact targetHolds
  · intro holds
    exact ⟨holds _ (.inl rfl), holds _ (.inr rfl)⟩

/-- A link that does not block has authority at both ends. -/
def EndsHold (state : State) : Prop :=
  ∀ key link, (key, link) ∈ state.links.entries → link.state.isBlocking = false →
    HasAuthority state link

/-- Every device on the path has authority. -/
def PathHolds (state : State) (path : Path) : Prop :=
  ∀ id ∈ path.devices, withdrawn state id = false

/-- The device that a call reports on, and the health it reports. -/
def healthReported (call : Call) : Option (DeviceId × DeviceHealthState) :=
  match call.operation with
  | .upsertDevice device => some (device.id, device.health)
  | .updateDeviceHealth device health _ => some (device, health)
  | _ => none

/-- Every link at the device blocks. -/
def Blocked (state : State) (id : DeviceId) : Prop :=
  ∀ entry ∈ state.links.entries, entry.2.source = id ∨ entry.2.target = id →
    entry.2.state.isBlocking = true

instance (state : State) (id : DeviceId) : Decidable (Blocked state id) :=
  inferInstanceAs (Decidable (∀ _ ∈ _, _))

/-- An accepted call withdraws only devices whose links block, and writes links that do
not block only between devices with authority. -/
def KeepsEnds (limits : Limits) (state : State) (call : Call) : Prop :=
  accepted limits call state = true →
    (∀ report ∈ healthReported call, report.2.isWithdrawn = true →
      Blocked state report.1) ∧
      ∀ link ∈ linkWritten state call, link.state.isBlocking = false →
        HasAuthority state link

instance (limits : Limits) (state : State) (call : Call) :
    Decidable (KeepsEnds limits state call) :=
  inferInstanceAs (Decidable (_ → _ ∧ _))

/-- A device of the next state has the health it had before the call or the one that the
call reports. -/
theorem step_device_health {device : DeviceRecord}
    (kept : losesAuthority limits state call = false)
    (member : (id, device) ∈ (step limits state call).devices.entries) :
    (∃ old, (id, old) ∈ state.devices.entries ∧ old.health = device.health) ∨
      accepted limits call state = true ∧ (id, device.health) ∈ healthReported call := by
  cases result : apply limits call state with
  | error error =>
      rw [step_of_apply_error result] at member
      exact .inl ⟨device, member, rfl⟩
  | ok next =>
      have accepted : accepted limits call state = true := accepted_of_ok result
      rw [step_of_apply_ok result] at member
      obtain ⟨operation, ambient⟩ := call
      cases operation with
      | upsertDevice record =>
          obtain ⟨-, -, ⟨-, rfl⟩ | ⟨-, -, observation, rfl⟩ | ⟨_, -, -,
              observation, rfl⟩⟩ :=
            upsertDevice_ok result
          · exact .inl ⟨device, member, rfl⟩
          · rcases FiniteMap.mem_emplace member with stored | inserted
            · exact .inl ⟨device, stored, rfl⟩
            · obtain ⟨rfl, rfl⟩ := Prod.mk.inj inserted
              exact .inr ⟨accepted, rfl⟩
          · rcases FiniteMap.mem_assign member with ⟨stored, -⟩ | replaced
            · exact .inl ⟨device, stored, rfl⟩
            · obtain ⟨rfl, rfl⟩ := Prod.mk.inj replaced
              exact .inr ⟨accepted, rfl⟩
      | removeDevice removed =>
          obtain ⟨-, observation, rfl⟩ := removeDevice_ok result
          exact .inl ⟨device, (FiniteMap.mem_erase.mp member).1, rfl⟩
      | updateDeviceHealth updated health evidence =>
          obtain ⟨current, -, observation, rfl⟩ := updateDeviceHealth_ok result
          rcases FiniteMap.mem_assign member with ⟨stored, -⟩ | replaced
          · exact .inl ⟨device, stored, rfl⟩
          · obtain ⟨rfl, rfl⟩ := Prod.mk.inj replaced
            exact .inr ⟨accepted, rfl⟩
      | markDynamicEvidenceRevalidationRequired | restoreDurableState durable =>
          simp [losesAuthority, accepted] at kept
      | _ =>
          rw [devices_of_ok rfl result] at member
          exact .inl ⟨device, member, rfl⟩

theorem withdrawn_step (kept : losesAuthority limits state call = false)
    (gone : withdrawn (step limits state call) id = true) :
    withdrawn state id = true ∨ accepted limits call state = true ∧
      ∃ health, (id, health) ∈ healthReported call ∧ health.isWithdrawn = true := by
  obtain ⟨device, stored, health⟩ := withdrawn_iff.mp gone
  rcases step_device_health kept stored with ⟨old, before, same⟩ | ⟨accepted, reported⟩
  · exact .inl (withdrawn_iff.mpr ⟨old, before, by rw [same, health]⟩)
  · exact .inr ⟨accepted, device.health, reported, health⟩

/-- A call that writes a link reports on no device. -/
theorem healthReported_of_linkWritten {link : LinkRecord}
    (writes : linkWritten state call = some link) : healthReported call = none := by
  obtain ⟨operation, ambient⟩ := call
  cases operation with
  | upsertDevice | updateDeviceHealth => simp [linkWritten] at writes
  | _ => rfl

/-- One call keeps the links between devices without authority blocking. -/
theorem endsHold_step (keeps : KeepsEnds limits state call) (holds : EndsHold state) :
    EndsHold (step limits state call) := by
  intro key link member live
  cases lost : losesAuthority limits state call with
  | true =>
      rw [step_link_lost lost member] at live
      exact absurd live (by decide)
  | false =>
      rw [hasAuthority_iff]
      intro id ends
      rw [← Bool.not_eq_true]
      intro gone
      rcases step_link_written lost member with
        ⟨old, generation, stored, rfl⟩ | ⟨confirming, written, generation, writes, rfl⟩
      · have before := hasAuthority_iff.mp (holds key old stored live) id ends
        rcases withdrawn_step lost gone with was | ⟨accepted, health, reported, withdraws⟩
        · exact absurd was (by simp [before])
        · have blocks := (keeps accepted).1 _ reported withdraws (key, old) stored ends
          have quiet : old.state.isBlocking = false := live
          simp [quiet] at blocks
      · have accepted : accepted limits call state = true :=
          (Bool.and_eq_true_iff.mp confirming).1
        have before :=
          hasAuthority_iff.mp ((keeps accepted).2 written writes live) id ends
        rcases withdrawn_step lost gone with was | ⟨-, health, reported, -⟩
        · exact absurd was (by simp [before])
        · simp [healthReported_of_linkWritten writes] at reported

theorem endsHold_run (keeps : Along (step limits) (KeepsEnds limits) .initial calls) :
    EndsHold (run limits .initial calls) := by
  apply invariant_along (fun _ _ => endsHold_step) _ keeps
  intro key link member
  simp [State.initial] at member

/-- Where the ends of links hold, so do the devices of a usable candidate. -/
theorem pathHolds_of_usable (coherent : Tables limits state.devices state.links)
    (holds : EndsHold state)
    (member : path ∈ enumeratePathsImpl (buildSnapshot state) source target limits)
    (usable : (qualityIn state path).outcome.Usable) : PathHolds state path := by
  intro id on
  obtain ⟨key, listed, link, stored, ends⟩ := candidate_device coherent member on
  have live := someLink_eq_false.mp ((usable_iff member _).mp usable).1 key listed link
    ((findLink_buildSnapshot coherent key).trans stored)
  exact hasAuthority_iff.mp
    (holds key link (FiniteMap.find?_eq_some.mp stored) live) id ends

/-- Executable decisions select paths all of whose devices have authority. -/
def RoutesHold (ranking : Ranking) (limits : Limits) (policy : RoutePolicy)
    (state : State) (source target : DeviceId) : Prop :=
  ∀ (ambient : Ambient) (decision : RouteDecision),
    decideRouteBy ranking limits ambient source target policy state = .ok decision →
    decision.executable = true →
    ∃ best, winner ranking limits policy state source target = some best ∧
      decision.selected = some best.path.id ∧ PathHolds state best.path

/-- In a reachable state, executable decisions select paths with authority exactly if the
usable competitors without it are outranked.  Along a run whose calls keep the ends of
links, they always do, whatever the comparator. -/
theorem endpoint_authority (ranking : Ranking) (limits : Limits) (calls : List Call) :
    (∀ (policy : RoutePolicy) (source target : DeviceId),
      Lawful ranking limits policy (run limits .initial calls) source target →
      (RoutesHold ranking limits policy (run limits .initial calls) source target ↔
        Outranked ranking limits policy (run limits .initial calls) source target
          (fun eval => eval.quality.outcome.Usable →
            PathHolds (run limits .initial calls) eval.path))) ∧
      (Along (step limits) (KeepsEnds limits) .initial calls →
        ∀ reached, reached <+: calls →
          ∀ (policy : RoutePolicy) (source target : DeviceId),
            RoutesHold ranking limits policy (run limits .initial reached) source
              target) := by
  constructor
  · intro policy source target lawful
    exact executable_iff_outranked ⟨calls, rfl⟩ lawful _
  · rintro keeps reached ⟨later, rfl⟩ policy source target ambient decision
      decided executable
    rw [along_append] at keeps
    have reachable : Reachable limits (run limits .initial reached) := ⟨reached, rfl⟩
    have coherent := (consistent_of_reachable reachable).tables
    obtain ⟨best, front, selected, usable⟩ := winner_of_executable decided executable
    obtain ⟨enumerated, -, quality⟩ := of_mem_competitors (Selection.front_mem front)
    rw [quality] at usable
    exact ⟨best, front, selected,
      pathHolds_of_usable coherent (endsHold_run keeps.1) enumerated usable⟩

/-- A worker that publishes its devices before its link keeps the ends, also after the
evidence of its predecessor was marked. -/
theorem endpoint_authority_republished :
    ∃ (decision : RouteDecision) (best : Eval),
      decideRouteBy Double.ranking {} {} Worker.sourceId Worker.targetId .defaultPolicy
        (run {} .initial (Worker.publication ⟨1⟩ ++
          ⟨.markDynamicEvidenceRevalidationRequired, {}⟩ :: Worker.publication ⟨2⟩)) =
          .ok decision ∧
      decision.executable = true ∧ decision.selected = some best.path.id ∧
      PathHolds (run {} .initial (Worker.publication ⟨1⟩ ++
        ⟨.markDynamicEvidenceRevalidationRequired, {}⟩ :: Worker.publication ⟨2⟩))
        best.path := by
  have executable :
      (decideRouteBy Double.ranking {} {} Worker.sourceId Worker.targetId .defaultPolicy
      (run {} .initial (Worker.publication ⟨1⟩ ++
        ⟨.markDynamicEvidenceRevalidationRequired, {}⟩ ::
          Worker.publication ⟨2⟩))).toOption.map (·.executable) = some true := by
    decide +kernel
  obtain ⟨decision, decided⟩ :=
    decideRouteBy_total Double.ranking {} {} Worker.sourceId Worker.targetId
    .defaultPolicy (run {} .initial (Worker.publication ⟨1⟩ ++
      ⟨.markDynamicEvidenceRevalidationRequired, {}⟩ :: Worker.publication ⟨2⟩))
  simp only [decided, Except.toOption, Option.map_some, Option.some.injEq] at executable
  obtain ⟨best, -, selected, holds⟩ :=
    (endpoint_authority Double.ranking {} (Worker.publication ⟨1⟩ ++
    ⟨.markDynamicEvidenceRevalidationRequired, {}⟩ :: Worker.publication ⟨2⟩)).2
    (by decide +kernel) _ List.prefix_rfl .defaultPolicy Worker.sourceId
      Worker.targetId {}
    decision decided executable
  exact ⟨decision, best, decided, executable, selected, holds⟩

/-- Two workers publish a device each.  The first one dies, and the second publishes its
device anew and a link to the other. -/
def orphanCalls : List Call :=
  [⟨.upsertDevice
      { id := ⟨1⟩, generation := ⟨1⟩, health := .present, ownerWorker := some ⟨1⟩ }, {}⟩,
    ⟨.upsertDevice
      { id := ⟨2⟩, generation := ⟨1⟩, health := .present, ownerWorker := some ⟨2⟩ }, {}⟩,
    ⟨.markDynamicEvidenceRevalidationRequired, {}⟩,
    ⟨.upsertDevice
      { id := ⟨2⟩, generation := ⟨2⟩, health := .present, ownerWorker := some ⟨2⟩ }, {}⟩,
    ⟨.upsertLink
      { id := ⟨7⟩, source := ⟨1⟩, target := ⟨2⟩, generation := ⟨1⟩, state := .up,
        capability := { nominalBandwidthBps := 100 } }, {}⟩]

/-- The device of the dead worker is on an executable route. -/
theorem endpoint_authority_orphan :
    ¬∀ (limits : Limits) (state : State), Reachable limits state →
      ∀ (policy : RoutePolicy) (source target : DeviceId),
        RoutesHold Double.ranking limits policy state source target := by
  intro always
  obtain ⟨decision, decided⟩ :=
    decideRouteBy_total Double.ranking {} {} ⟨1⟩ ⟨2⟩ .defaultPolicy
    (run {} .initial orphanCalls)
  have executable : (decideRouteBy Double.ranking {} {} ⟨1⟩ ⟨2⟩ .defaultPolicy
      (run {} .initial orphanCalls)).toOption.map (·.executable) = some true := by
    decide +kernel
  simp only [decided, Except.toOption, Option.map_some, Option.some.injEq] at executable
  obtain ⟨best, front, -, holds⟩ := always {} (run {} .initial orphanCalls)
    ⟨orphanCalls, rfl⟩ .defaultPolicy ⟨1⟩ ⟨2⟩ {} decision decided executable
  have orphaned : withdrawn (run {} .initial orphanCalls) ⟨1⟩ = true := by decide +kernel
  obtain ⟨starts, -⟩ :=
    candidate_endpoints (of_mem_competitors (Selection.front_mem front)).1
  rw [holds ⟨1⟩ starts] at orphaned
  exact Bool.false_ne_true orphaned

end Registry

end NvlinkFabric

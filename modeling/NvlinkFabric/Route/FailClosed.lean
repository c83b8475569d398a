import NvlinkFabric.Route.Decision
import NvlinkFabric.Registry.Invariant
import NvlinkFabric.Worker.Evidence
import Mathlib.Data.List.Induction

/-!
# Failing closed after a loss of authority

A mark or a restore leaves every link awaiting revalidation.  The only calls
that can bring a link out of that state name it: an upsert of its record or an
update of its state.  Together with the outcome cascade, which never permits a
route over a link that awaits revalidation, every link of an executable route
has been confirmed since authority was last lost.
-/

namespace NvlinkFabric.Registry

open Transition

variable {limits : Limits} {state : State} {call : Call} {calls : List Call}
variable {key : LinkId} {link : LinkRecord}

/-- Calls after which all dynamic evidence needs revalidation. -/
def losesAuthority (limits : Limits) (state : State) (call : Call) : Bool :=
  match call.operation with
  | .markDynamicEvidenceRevalidationRequired => true
  | .restoreDurableState _ => accepted limits call state
  | _ => false

/-- The call was accepted and its subject is the link. -/
def confirms (limits : Limits) (state : State) (call : Call) (id : LinkId) : Bool :=
  accepted limits call state &&
    match call.operation with
    | .upsertLink link => link.id = id
    | .updateLinkState link _ _ _ _ => link = id
    | _ => false

/-- Authority was not lost anywhere along the run. -/
abbrev KeepsAuthority (limits : Limits) (state : State) (calls : List Call) : Prop :=
  Along (step limits) (fun state call =>
    losesAuthority limits state call = false) state calls

/-- Some call of the run confirmed the link, and authority was not lost after it. -/
def ConfirmedSince (limits : Limits) (state : State) (calls : List Call) (id : LinkId) :
    Prop :=
  ∃ before call after, calls = before ++ call :: after ∧
    confirms limits (run limits state before) call id = true ∧
    KeepsAuthority limits (step limits (run limits state before) call) after

theorem ConfirmedSince.extend {id : LinkId}
    (confirmed : ConfirmedSince limits state calls id)
    (kept : losesAuthority limits (run limits state calls) call = false) :
    ConfirmedSince limits state (calls ++ [call]) id := by
  obtain ⟨before, confirming, after, rfl, confirms, keeps⟩ := confirmed
  refine ⟨before, confirming, after ++ [call], by simp, confirms, ?_⟩
  rw [KeepsAuthority, along_append]
  refine ⟨keeps, ?_, trivial⟩
  rwa [run, run_append] at kept

/-- Logging and stamping change nothing of a link but its stamp. -/
theorem mem_links_commit {observation : Observation}
    (member : (key, link) ∈ (commit limits observation state).links.entries) :
    ∃ old generation, (key, old) ∈ state.links.entries ∧ link = stamp generation old := by
  obtain ⟨old, oldMem, rfl⟩ := FiniteMap.mem_mapValues.mp member
  exact ⟨old, _, oldMem, rfl⟩

/-- The link that an accepted call writes, before it is stamped. -/
def linkWritten (state : State) (call : Call) : Option LinkRecord :=
  match call.operation with
  | .upsertLink link => some link
  | .updateLinkState link linkState evidence degraded note =>
      (state.links.find? link).map fun current =>
        { current with
          state := linkState
          evidence := evidence
          degraded := degraded
          degradationNote := note
          generation := current.generation.next
          lastObservation := call.ambient.now }
  | _ => none

/-- A link of the next state is one that was stored before the call or the one that the
call writes, up to its stamp. -/
theorem step_link_written (kept : losesAuthority limits state call = false)
    (member : (key, link) ∈ (step limits state call).links.entries) :
    (∃ old generation, (key, old) ∈ state.links.entries ∧ link = stamp generation old) ∨
      confirms limits state call key = true ∧
        ∃ written generation, linkWritten state call = some written ∧
          link = stamp generation written := by
  cases result : apply limits call state with
  | error error =>
      rw [step_of_apply_error result] at member
      exact .inl ⟨link, link.topologyGeneration, member, rfl⟩
  | ok next =>
      have accepted : accepted limits call state = true := accepted_of_ok result
      rw [step_of_apply_ok result] at member
      obtain ⟨operation, ambient⟩ := call
      cases operation with
      | removeDevice device =>
          obtain ⟨-, observation, rfl⟩ := removeDevice_ok result
          obtain ⟨old, generation, oldMem, rfl⟩ := mem_links_commit member
          exact .inl ⟨old, generation, (FiniteMap.mem_filter.mp oldMem).1, rfl⟩
      | upsertLink record =>
          obtain ⟨-, ⟨-, rfl⟩ | ⟨-, observation, rfl⟩ | ⟨_, -, -, observation, rfl⟩⟩ :=
            upsertLink_ok result
          · exact .inl ⟨link, link.topologyGeneration, member, rfl⟩
          · obtain ⟨old, generation, oldMem, rfl⟩ := mem_links_commit member
            rcases FiniteMap.mem_emplace oldMem with stored | inserted
            · exact .inl ⟨old, generation, stored, rfl⟩
            · obtain ⟨rfl, rfl⟩ := Prod.mk.inj inserted
              exact .inr ⟨by simp [confirms, accepted], old, generation, rfl, rfl⟩
          · obtain ⟨old, generation, oldMem, rfl⟩ := mem_links_commit member
            rcases FiniteMap.mem_assign oldMem with ⟨stored, -⟩ | replaced
            · exact .inl ⟨old, generation, stored, rfl⟩
            · obtain ⟨rfl, rfl⟩ := Prod.mk.inj replaced
              exact .inr ⟨by simp [confirms, accepted], old, generation, rfl, rfl⟩
      | removeLink id =>
          obtain ⟨current, -, observation, rfl⟩ := removeLink_ok result
          obtain ⟨old, generation, oldMem, rfl⟩ := mem_links_commit member
          exact .inl ⟨old, generation, (FiniteMap.mem_erase.mp oldMem).1, rfl⟩
      | updateLinkState id linkState evidence degraded note =>
          obtain ⟨current, found, observation, rfl⟩ := updateLinkState_ok result
          obtain ⟨old, generation, oldMem, rfl⟩ := mem_links_commit member
          rcases FiniteMap.mem_assign oldMem with ⟨stored, -⟩ | replaced
          · exact .inl ⟨old, generation, stored, rfl⟩
          · obtain ⟨rfl, rfl⟩ := Prod.mk.inj replaced
            exact .inr ⟨by simp [confirms, accepted], _, generation,
              by simp only [linkWritten, found, Option.map_some], rfl⟩
      | markDynamicEvidenceRevalidationRequired | restoreDurableState durable =>
          simp [losesAuthority, accepted] at kept
      | _ =>
          rcases links_of_ok rfl result with same | ⟨generation, stamped⟩
          · rw [same] at member
            exact .inl ⟨link, link.topologyGeneration, member, rfl⟩
          · rw [stamped] at member
            obtain ⟨old, oldMem, rfl⟩ := FiniteMap.mem_mapValues.mp member
            exact .inl ⟨old, generation, oldMem, rfl⟩

/-- A link of the next state either had its state before the call or was the
subject of the call. -/
theorem step_link_origin (kept : losesAuthority limits state call = false)
    (member : (key, link) ∈ (step limits state call).links.entries) :
    (∃ old, (key, old) ∈ state.links.entries ∧ old.state = link.state) ∨
      confirms limits state call key = true := by
  rcases step_link_written kept member with ⟨old, generation, stored, rfl⟩
      | ⟨confirming, -⟩
  · exact .inl ⟨old, stored, rfl⟩
  · exact .inr confirming

theorem restoreLink_state {devices : FiniteMap DeviceId DeviceRecord}
    {links result : FiniteMap LinkId LinkRecord} {record : LinkRecord}
    (ok : restoreLink limits devices links record = .ok result)
    (all : ∀ key link, (key, link) ∈ links.entries → link.state = .revalidationRequired) :
    ∀ key link, (key, link) ∈ result.entries → link.state = .revalidationRequired := by
  unfold restoreLink at ok
  split at ok
  · simp at ok
  split at ok
  · simp at ok
  split at ok
  · simp at ok
  · simp only [Except.ok.injEq] at ok
    subst ok
    intro key link member
    rcases FiniteMap.mem_emplace member with stored | inserted
    · exact all key link stored
    · rw [(Prod.mk.inj inserted).2]
      rfl

/-- After a loss of authority every link awaits revalidation. -/
theorem step_link_lost (lost : losesAuthority limits state call = true)
    (member : (key, link) ∈ (step limits state call).links.entries) :
    link.state = .revalidationRequired := by
  obtain ⟨operation, ambient⟩ := call
  cases operation with
  | markDynamicEvidenceRevalidationRequired =>
      obtain ⟨old, generation, oldMem, rfl⟩ := mem_links_commit member
      obtain ⟨original, -, rfl⟩ := FiniteMap.mem_mapValues.mp oldMem
      rfl
  | restoreDurableState durable =>
      simp only [losesAuthority] at lost
      cases result : apply limits ⟨.restoreDurableState durable, ambient⟩ state with
      | error error => simp [accepted_of_error result] at lost
      | ok next =>
          rw [step_of_apply_ok result] at member
          obtain ⟨-, devices, links, observation, -, linksOk, rfl⟩ :=
            restoreDurableState_ok result
          obtain ⟨old, oldMem, rfl⟩ := FiniteMap.mem_mapValues.mp member
          exact foldlM_invariant
            (fun links : FiniteMap LinkId LinkRecord => ∀ key link,
              (key, link) ∈ links.entries → link.state = .revalidationRequired)
            restoreLink_state (by simp) linksOk key old oldMem
  | _ => simp [losesAuthority] at lost

/-- Along every run from a state whose links all await revalidation, a link in
any other state has been confirmed since authority was last lost. -/
theorem run_link_confirmed
    (all : ∀ key link, (key, link) ∈ state.links.entries →
      link.state = .revalidationRequired)
    (member : (key, link) ∈ (run limits state calls).links.entries)
    (current : link.state ≠ .revalidationRequired) :
    ConfirmedSince limits state calls key := by
  -- Induction from the end of the run: the last call decides whether the link
  -- was already current before it.
  induction calls using List.reverseRecOn generalizing link with
  | nil => exact absurd (all key link member) current
  | append_singleton calls call ih =>
      rw [run, run_append, run_cons, run_nil] at member
      cases lost : losesAuthority limits (run limits state calls) call with
      | true => exact absurd (step_link_lost lost member) current
      | false =>
          rcases step_link_origin lost member with ⟨old, oldMem, same⟩ | confirming
          · exact (ih oldMem (same ▸ current)).extend lost
          · exact ⟨calls, call, [], rfl, confirming, trivial⟩

/-- Every link of a permitted path is stored and does not await revalidation. -/
theorem permitted_link_current {path : Path}
    (coherent : Tables limits state.devices state.links)
    (permitted : (selectedOutcome (computeQuality (buildSnapshot state)
      state.measurementHistory path).outcome).permits = true)
    {id : LinkId} (member : id ∈ path.links) :
    ∃ link, (id, link) ∈ state.links.entries ∧ link.state ≠ .revalidationRequired := by
  obtain ⟨notDown, notUnsupported, notStale⟩ := outcome_of_permits permitted
  obtain ⟨link, found, -, fresh⟩ :=
    links_current_of_outcome notDown notUnsupported notStale member
  have stored := FiniteMap.find?_eq_some.mp
    ((findLink_buildSnapshot coherent id).symm.trans found)
  refine ⟨link, stored, ?_⟩
  rintro awaiting
  simp [LinkOperationalState.needsRevalidation, awaiting] at fresh

/-- Whatever the policy, an executable decision after a loss of authority only
uses links that were confirmed since authority was last lost. -/
theorem executable_route_confirmed (limits : Limits) (start : State)
    (reachable : Reachable limits start) (loss : Call)
    (lost : losesAuthority limits start loss = true) (calls : List Call)
    (ambient : Ambient) (source target : DeviceId) (policy : RoutePolicy)
    (decision : RouteDecision)
    (decided : decideRoute limits ambient source target policy
      (run limits (step limits start loss) calls) = .ok decision)
    (executable : decision.executable = true) :
    ∃ best, selectBest limits policy
        (consistentView (run limits (step limits start loss) calls)) source target =
          some best ∧
      decision.selected = some best.path.id ∧
      ∀ id ∈ best.path.links,
        ConfirmedSince limits (step limits start loss) calls id := by
  have consistent := consistent_of_reachable ((reachable.next loss).trans_run calls)
  obtain ⟨best, selected, chosen, permitted⟩ :=
    (justified_of_executable decided executable).best_selected
  refine ⟨best, selected, chosen, fun id member => ?_⟩
  obtain ⟨-, quality, -⟩ := selectBest_spec selected
  rw [quality] at permitted
  obtain ⟨link, stored, current⟩ :=
    permitted_link_current consistent.tables permitted member
  exact run_link_confirmed (fun _ _ member => step_link_lost lost member) stored current

theorem republished_route_confirmed :
    ∃ (decision : RouteDecision) (best : Eval),
      decideRoute {} {} Worker.sourceId Worker.targetId .defaultPolicy
        (run {} (step {} Worker.published ⟨.markDynamicEvidenceRevalidationRequired, {}⟩)
          (Worker.publication ⟨2⟩)) = .ok decision ∧
      decision.executable = true ∧ decision.selected = some best.path.id ∧
      ∀ id ∈ best.path.links, ConfirmedSince {}
        (step {} Worker.published ⟨.markDynamicEvidenceRevalidationRequired, {}⟩)
        (Worker.publication ⟨2⟩) id := by
  have executable : (decideRoute {} {} Worker.sourceId Worker.targetId .defaultPolicy
      (run {} (step {} Worker.published ⟨.markDynamicEvidenceRevalidationRequired, {}⟩)
        (Worker.publication ⟨2⟩))).toOption.map (·.executable) = some true := by
    decide +kernel
  obtain ⟨decision, decided⟩ := decideRoute_total {} {} Worker.sourceId Worker.targetId
    .defaultPolicy (run {} (step {} Worker.published
      ⟨.markDynamicEvidenceRevalidationRequired, {}⟩) (Worker.publication ⟨2⟩))
  simp only [decided, Except.toOption, Option.map_some, Option.some.injEq] at executable
  obtain ⟨best, -, chosen, confirmed⟩ := executable_route_confirmed {} Worker.published
    ⟨Worker.publication ⟨1⟩, rfl⟩ ⟨.markDynamicEvidenceRevalidationRequired,
      {}⟩ rfl _ {} _ _
    _ decision decided executable
  exact ⟨decision, best, decided, executable, chosen, confirmed⟩

end NvlinkFabric.Registry

import NvlinkFabric.Coordinator.Lifecycle
import NvlinkFabric.Registry.Submitted
import NvlinkFabric.Route.FailClosed
import NvlinkFabric.Route.UsableRoutes

/-!
# What a stopped server leaves behind

A handler marks the registry when its worker goes, and `stop` waits for all handlers.
So once nothing runs, nothing that a worker said still holds: a link that does not
await revalidation was confirmed by the embedding process, after the last mark.
-/

namespace NvlinkFabric.Coordinator

open Transition Wire

/-- What the handler of a connection can do in one turn: the calls that it makes, and
the phases before and after them. -/
inductive Moves : Option Phase → List Registry.Call → Option Phase → Prop where
  | stays {phase : Option Phase} : Moves phase [] phase
  | connects : Moves none [] (some .awaitingHello)
  | greeted {hello : Hello} {accepted : Bool} :
      Moves (some .awaitingHello) [] (some (.replying hello accepted))
  | dropped : Moves (some .awaitingHello) [] (some .closed)
  | answers {hello : Hello} :
      Moves (some (.replying hello true)) [] (some (.serving hello))
  | refuses {hello : Hello} {accepted : Bool} :
      Moves (some (.replying hello accepted)) [] (some .closed)
  | serves {hello : Hello} {calls : List Registry.Call} :
      Moves (some (.serving hello)) calls (some (.serving hello))
  | ends {hello : Hello} {ambient : Ambient} :
      Moves (some (.serving hello)) [⟨.markDynamicEvidenceRevalidationRequired, ambient⟩]
        (some (.leaving hello))
  | leaves {hello : Hello} : Moves (some (.leaving hello)) [] (some .closed)

section Moves

variable {limits : Limits} {session : Session} {connection : Nat}

/-- A handler in service makes the call of a frame, or marks the registry and leaves. -/
theorem moves_service {hello : Hello}
    (serving : session.phase connection = some (.serving hello)) (ambient : Ambient) :
    Moves (session.phase connection)
      (ofConnection connection (session.calls (.receive connection ambient)))
      ((session.step limits (.receive connection ambient)).phase connection) := by
  rw [Session.step, receive_serving serving, calls_serving serving, serving]
  rw [Session.phase] at serving ⊢
  cases session.received connection with
  | error error =>
      simp only [onFrame, find?_moveTo_self, ofConnection, decide_true,
        List.filter_cons_of_pos, List.filter_nil, List.map_cons, List.map_nil]
      exact .ends
  | ok frame =>
      simp only [onFrame]
      split
      · rw [serving]
        exact .serves
      · rw [serving]
        exact .serves

/-- A handler that waits for its HELLO answers it, or drops the connection. -/
theorem moves_greeting (awaiting : session.phase connection = some .awaitingHello)
    (ambient : Ambient) :
    Moves (session.phase connection) []
      ((session.step limits (.receive connection ambient)).phase connection) := by
  rw [Session.step, receive_awaiting awaiting, awaiting, Session.phase]
  simp only [onHello]
  split
  · rw [find?_moveTo_self]
    exact .dropped
  · split
    · rw [find?_moveTo_self]
      exact .greeted
    · rw [find?_moveTo_self]
      exact .greeted

/-- No turn does anything else to a connection. -/
theorem moves_turn (limits : Limits) (session : Session) (connection : Nat)
    (turn : Turn) :
    Moves (session.phase connection) (ofConnection connection (session.calls turn))
      ((session.step limits turn).phase connection) := by
  by_cases other : turn.connection ≠ some connection
  · rw [phase_untouched other, ofConnection_untouched other]
    exact .stays
  cases turn with
  | direct call => simp [Turn.connection] at other
  | connect moved =>
      obtain rfl : moved = connection := Option.some.inj (not_ne_iff.mp other)
      cases unused : session.phase moved with
      | none => exact phase_connect unused ▸ .connects
      | some phase =>
          rw [Session.phase] at unused
          simp only [Session.step, Session.phase, Coordinator.step, unused,
            reduceCtorEq, if_false]
          exact .stays
  | reply moved sent =>
      obtain rfl : moved = connection := Option.some.inj (not_ne_iff.mp other)
      simp only [Session.step, Session.phase, Coordinator.step]
      split
      next hello accepted replying =>
        split
        next admitted =>
          obtain ⟨-, rfl⟩ := Bool.and_eq_true_iff.mp admitted
          rw [replying, find?_moveTo_self]
          exact .answers
        · rw [replying, find?_moveTo_self]
          exact .refuses
      · exact .stays
  | leave moved =>
      obtain rfl : moved = connection := Option.some.inj (not_ne_iff.mp other)
      simp only [Session.step, Session.phase, Coordinator.step]
      split
      next hello leaving =>
        rw [leaving, find?_moveTo_self]
        exact .leaves
      · exact .stays
  | receive moved ambient =>
      obtain rfl : moved = connection := Option.some.inj (not_ne_iff.mp other)
      by_cases serving : ∃ hello, session.phase moved = some (.serving hello)
      · obtain ⟨hello, serving⟩ := serving
        exact moves_service serving ambient
      · rw [calls_unserved (not_exists.mp serving)]
        by_cases awaiting : session.phase moved = some .awaitingHello
        · exact moves_greeting awaiting ambient
        · rw [Session.step, receive_idle awaiting (not_exists.mp serving)]
          exact .stays

end Moves

/-- The calls of a handler by its phase: none before its service, and a mark last after
it, if it was ever in service. -/
def Concluded (calls : List Registry.Call) : Option Phase → Prop
  | none | some .awaitingHello | some (.replying _ _) => calls = []
  | some (.serving _) => True
  | some (.leaving _) | some .closed =>
      calls = [] ∨ ∃ earlier ambient,
        calls = earlier ++ [⟨.markDynamicEvidenceRevalidationRequired, ambient⟩]

theorem Concluded.moves {calls made : List Registry.Call} {before after : Option Phase}
    (concluded : Concluded calls before) (moves : Moves before made after) :
    Concluded (calls ++ made) after := by
  cases moves with
  | stays => rwa [List.append_nil]
  | connects | greeted => rwa [List.append_nil]
  | dropped | refuses => exact .inl (by rw [List.append_nil]; exact concluded)
  | answers | serves => trivial
  | ends => exact .inr ⟨calls, _, rfl⟩
  | leaves => rwa [List.append_nil]

theorem concluded_run (limits : Limits) (session : Session) (connection : Nat)
    (turns : List Turn) {calls : List Registry.Call}
    (concluded : Concluded calls (session.phase connection)) :
    Concluded (calls ++ ofConnection connection (session.trace limits turns))
      ((Session.run limits session turns).phase connection) := by
  induction turns generalizing session calls with
  | nil =>
      rwa [Session.trace, ofConnection, List.filter_nil, List.map_nil, List.append_nil]
  | cons turn turns ih =>
      have next := ih _ (concluded.moves (moves_turn limits session connection turn))
      rwa [List.append_assoc, ← ofConnection_append] at next

/-- What a step of some thread does to the session. -/
def Lifecycle.turnOf (life : Lifecycle) (action : Action) : Option Turn :=
  if life.aborted then none
  else
    match action with
    | .start _ | .stop | .proceed => none
    | .accept _ =>
        match life.acceptor with
        | .holding client => some (.connect client)
        | _ => none
    | .receive connection ambient => some (.receive connection ambient)
    | .reply connection sent => some (.reply connection sent)
    | .leave connection => some (.leave connection)
    | .direct call => some (.direct call)

def Lifecycle.turns (limits : Limits) : Lifecycle → List Action → List Turn
  | _, [] => []
  | life, action :: actions =>
      (life.turnOf action).toList ++ (life.step limits action).turns limits actions

theorem session_step (limits : Limits) (life : Lifecycle) (action : Action) :
    (life.step limits action).session =
      Session.run limits life.session (life.turnOf action).toList := by
  unfold Lifecycle.step Lifecycle.turnOf
  split
  · rfl
  · cases action with
    | receive | reply | leave | direct => rfl
    | stop =>
        dsimp only
        split <;> rfl
    | proceed =>
        simp only [Lifecycle.proceed]
        split
        · rfl
        · rfl
        · split <;> rfl
        · rfl
        · rfl
        · split <;> rfl
    | start setup =>
        dsimp only
        split
        · cases setup with
          | bound port =>
              simp only [Lifecycle.start]
              split <;> rfl
          | socketFailed | bindFailed | listenFailed | nameFailed => rfl
        · rfl
    | accept answer =>
        simp only [Lifecycle.accept]
        cases place : life.acceptor with
        | absent | ended | testing | polling | holding => rfl
        | accepting =>
            dsimp only
            split <;> rfl

/-- The threads do to the session what their turns do. -/
theorem session_life (limits : Limits) (life : Lifecycle) (actions : List Action) :
    (Lifecycle.run limits life actions).session =
      Session.run limits life.session (life.turns limits actions) := by
  induction actions generalizing life with
  | nil => rfl
  | cons action actions ih =>
      rw [Lifecycle.run, run_cons, ← Lifecycle.run, ih, session_step, Lifecycle.turns]
      exact (run_append _ _ _ _).symm

/-! ## Who confirmed what a stopped server holds -/

/-- The last call that wrote the state of a link, marks included, was made by the
embedding process and confirmed the link. -/
def OwnConfirmation (limits : Limits) (trace : List (Option Nat × Registry.Call))
    (id : LinkId) :
    Prop :=
  ∃ before call after linkState, trace = before ++ (none, call) :: after ∧
    Registry.stateField.submits limits id
      (Registry.run limits .initial (before.map (·.2))) call = some linkState ∧
    linkState ≠ .revalidationRequired ∧
    Along (Registry.step limits)
      (fun state later => Registry.stateField.submits limits id state later = none)
      (Registry.run limits .initial ((before ++ [(none, call)]).map (·.2)))
        (after.map (·.2)) ∧
    ∀ entry ∈ after, entry.2.operation ≠ .markDynamicEvidenceRevalidationRequired

/-- A mark writes the state of every link. -/
theorem submits_mark (limits : Limits) (id : LinkId) (state : Registry.State)
    (ambient : Ambient) :
    Registry.stateField.submits limits id state
      ⟨.markDynamicEvidenceRevalidationRequired, ambient⟩ =
        some .revalidationRequired := rfl

/-- While nothing writes the state of a link, nothing marks the registry. -/
theorem unmarked_of_silent {limits : Limits} {id : LinkId} {state : Registry.State}
    {calls : List Registry.Call}
    (silent : Along (Registry.step limits)
      (fun state later => Registry.stateField.submits limits id state later = none)
        state calls) :
    ∀ call ∈ calls, call.operation ≠ .markDynamicEvidenceRevalidationRequired := by
  induction calls generalizing state with
  | nil => simp
  | cons call calls ih =>
      intro later member
      rcases List.mem_cons.mp member with rfl | member
      · rintro marked
        obtain ⟨operation, ambient⟩ := later
        obtain rfl : operation = .markDynamicEvidenceRevalidationRequired := marked
        simp [submits_mark] at silent
      · exact ih silent.2 later member

/-- A call that comes with others in a concluded connection is a mark or precedes one. -/
theorem mark_after {calls earlier later : List Registry.Call} {call : Registry.Call}
    (concluded : Concluded calls (some .closed))
    (split : calls = earlier ++ call :: later) :
    ∃ ambient, ⟨.markDynamicEvidenceRevalidationRequired, ambient⟩ ∈ call :: later := by
  rcases concluded with rfl | ⟨before, ambient, rfl⟩
  · simp at split
  · refine ⟨ambient, List.mem_of_getLast? ?_⟩
    have last := congrArg List.getLast? split
    rw [List.getLast?_concat,
      List.getLast?_append_of_ne_nil _ (List.cons_ne_nil _ _)] at last
    exact last.symm

/-- If every connection concluded its calls, only the embedding process can have
confirmed what still holds. -/
theorem ownConfirmation_of_concluded {limits : Limits}
    {trace : List (Option Nat × Registry.Call)}
    (concluded : ∀ connection, Concluded (ofConnection connection trace) (some .closed))
    {id : LinkId} {link : LinkRecord}
    (found : (Registry.run limits .initial (trace.map (·.2))).links.find? id = some link)
    (fresh : link.state ≠ .revalidationRequired) : OwnConfirmation limits trace id := by
  obtain ⟨before, call, after, split, writing, silent⟩ :=
    Registry.stateField.written_last limits _ found
  obtain ⟨earlier, rest, rfl, rfl, restEq⟩ := List.map_eq_append_iff.mp split
  obtain ⟨⟨origin, own⟩, later, rfl, rfl, rfl⟩ := List.map_eq_cons_iff.mp restEq
  have unmarked (entry : Option Nat × Registry.Call) (member : entry ∈ later) :
      entry.2.operation ≠ .markDynamicEvidenceRevalidationRequired :=
    unmarked_of_silent silent entry.2 (List.mem_map_of_mem member)
  cases origin with
  | none =>
      refine ⟨earlier, own, later, link.state, rfl, writing, fresh, ?_, unmarked⟩
      simpa using silent
  | some connection =>
      -- the mark that concluded the connection would have written the state again
      obtain ⟨ambient, member⟩ := mark_after (concluded connection)
        (show _ = ofConnection connection earlier ++ own ::
          ofConnection connection later by
          simp [ofConnection])
      rcases List.mem_cons.mp member with rfl | member
      · rw [submits_mark] at writing
        exact absurd (Option.some.inj writing).symm fresh
      · obtain ⟨entry, listed, same⟩ := List.mem_map.mp member
        exact absurd (congrArg Registry.Call.operation same)
          (unmarked entry (List.mem_filter.mp listed).1)

/-- Every link awaits revalidation unless the embedding process itself confirmed it last,
and so a route is only executable over links of this kind. -/
structure WorkersRevoked (limits : Limits) (trace : List (Option Nat × Registry.Call))
    (registry : Registry.State) : Prop where
  links : ∀ id link, registry.links.find? id = some link →
    link.state = .revalidationRequired ∨ OwnConfirmation limits trace id
  routes : ∀ ranking when source target policy decision,
    Registry.decideRouteBy ranking limits when source target policy registry =
      .ok decision →
      decision.executable = true →
        ∃ best, Registry.winner ranking limits policy registry source target = some best ∧
          decision.selected = some best.path.id ∧
          ∀ id ∈ best.path.links, OwnConfirmation limits trace id

/-- The calls that the threads make on the registry. -/
def Lifecycle.trace (limits : Limits) (life : Lifecycle) (actions : List Action) :
    List (Option Nat × Registry.Call) :=
  Session.trace limits life.session (life.turns limits actions)

theorem registry_life (limits : Limits) (counter : UInt64) (incoming : Nat → Socket)
    (actions : List Action) :
    (Lifecycle.run limits (.initial counter incoming) actions).session.server.registry =
      Registry.run limits .initial
        (((Lifecycle.initial counter incoming).trace limits actions).map (·.2)) := by
  rw [session_life]
  exact registry_run limits _ _

/-- Where nothing runs, the workers are revoked. -/
theorem workersRevoked_of_atRest {limits : Limits} {counter : UInt64}
    {incoming : Nat → Socket} {actions : List Action}
    (rest : (Lifecycle.run limits (.initial counter incoming) actions).AtRest) :
    WorkersRevoked limits ((Lifecycle.initial counter incoming).trace limits actions)
      (Lifecycle.run limits (.initial counter incoming)
        actions).session.server.registry := by
  have registryEq := registry_life limits counter incoming actions
  have concluded (connection : Nat) :
      Concluded
        (ofConnection connection
          ((Lifecycle.initial counter incoming).trace limits actions))
        (some .closed) := by
    have last := concluded_run limits
      (Lifecycle.initial counter incoming).session connection
      ((Lifecycle.initial counter incoming).turns limits actions)
      (show Concluded [] (Session.phase _ connection) from rfl)
    rw [List.nil_append, ← session_life] at last
    rw [((tracked_run limits counter incoming actions).at_rest rest).returned
      connection] at last
    split at last
    · exact last
    · exact .inl last
  have own {id : LinkId} {link : LinkRecord}
      (found : (Lifecycle.run limits (.initial counter incoming)
        actions).session.server.registry.links.find? id = some link)
      (fresh : link.state ≠ .revalidationRequired) :
      OwnConfirmation limits
        ((Lifecycle.initial counter incoming).trace limits actions) id :=
    ownConfirmation_of_concluded concluded (registryEq ▸ found) fresh
  refine ⟨fun id link found => ?_,
    fun ranking when source target policy decision decided executable => ?_⟩
  · by_cases awaiting : link.state = .revalidationRequired
    · exact .inl awaiting
    · exact .inr (own found awaiting)
  · have coherent := (Registry.consistent_of_reachable
      (⟨_, registryEq.symm⟩ : Registry.Reachable limits _)).tables
    obtain ⟨best, front, chosen, usable⟩ :=
      Registry.winner_of_executable decided executable
    refine ⟨best, front, chosen, fun id member => ?_⟩
    obtain ⟨-, -, quality⟩ := Registry.of_mem_competitors (Selection.front_mem front)
    rw [quality] at usable
    obtain ⟨link, stored, current⟩ :=
      Registry.permitted_link_current coherent (permits_iff.mpr usable) member
    exact own (FiniteMap.find?_eq_some.mpr stored) current

/-- Whatever workers published before: when a `stop` has returned, and whenever nothing
runs, every link awaits revalidation unless the embedding process itself confirmed it
last, and so a route is only executable over links of this kind. -/
theorem stop_revokes_workers (limits : Limits) (counter : UInt64)
    (incoming : Nat → Socket) (actions : List Action) :
    let start := Lifecycle.initial counter incoming
    let life := Lifecycle.run limits start actions
    life.session.server.registry =
        Registry.run limits .initial ((start.trace limits actions).map (·.2)) ∧
      (life.AtRest →
        WorkersRevoked limits (start.trace limits actions) life.session.server.registry) ∧
      ∀ action, life.control ≠ .free → (life.step limits action).control = .free →
        (life.step limits action).AtRest ∧
          WorkersRevoked limits (start.trace limits (actions ++ [action]))
            (life.step limits action).session.server.registry := by
  intro start life
  refine ⟨registry_life limits counter incoming actions, workersRevoked_of_atRest,
    fun action stopping free => ?_⟩
  have rest := (tracked_run limits counter incoming actions).returned stopping free
  have next : Lifecycle.run limits start (actions ++ [action]) =
      life.step limits action :=
    run_append _ _ _ _
  rw [← next] at rest ⊢
  exact ⟨rest, workersRevoked_of_atRest rest⟩

/-- The embedding process confirms the link of the worker tool after the server has been
stopped. -/
def confirmedActions : List Action :=
  servedActions ++ [.proceed, .proceed,
    .direct ⟨.updateLinkState ⟨1000001⟩ .up {} false [], {}⟩]

/-- Only its own confirmation keeps the link of the worker. -/
theorem stopped_link_confirmed :
    let life := Lifecycle.run {} (.initial 0 toolSession.incoming) confirmedActions
    ∃ link, life.session.server.registry.links.find? ⟨1000001⟩ = some link ∧
      link.state = .up ∧
      OwnConfirmation {}
        ((Lifecycle.initial 0 toolSession.incoming).trace {} confirmedActions)
        ⟨1000001⟩ := by
  intro life
  have stored : (life.session.server.registry.links.find? ⟨1000001⟩).map (·.state) =
      some .up := by
    decide +kernel
  obtain ⟨link, found, up⟩ := Option.map_eq_some_iff.mp stored
  obtain ⟨-, resting, -⟩ :=
    stop_revokes_workers {} 0 toolSession.incoming confirmedActions
  have rest : life.AtRest := ⟨by decide +kernel, by decide +kernel⟩
  rcases (resting rest).links ⟨1000001⟩ link found with awaiting | own
  · rw [up] at awaiting
    cases awaiting
  · exact ⟨link, found, up, own⟩

end NvlinkFabric.Coordinator

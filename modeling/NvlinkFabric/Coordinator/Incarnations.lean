import NvlinkFabric.Coordinator.Server
import NvlinkFabric.Worker.Incarnations

/-!
# Successive incarnations of a worker

A worker connects, publishes and disconnects, again and again, each time with a
larger boot.  The server admits every incarnation, and what it does to the
registry is the sequence of calls studied for the worker.
-/

namespace NvlinkFabric.Coordinator

open Wire Worker

/-- The HELLO of an incarnation that knows the current epoch. -/
def greeting (worker : WorkerId) (incarnation : Incarnation) : Hello where
  worker := worker
  boot := incarnation.boot
  epoch := Server.initial.epoch

/-- The frames that `nvlink_worker` sends after its HELLO, each with what the
coordinator draws when it arrives. -/
def publishing (incarnation : Incarnation) : List (Frame × Ambient) :=
  [({ type := .publishDevice, payload := encDevice (sourceDevice incarnation.boot) },
      incarnation.sourceAt),
    ({ type := .publishDevice, payload := encDevice (targetDevice incarnation.boot) },
      incarnation.targetAt),
    ({ type := .publishLink,
       payload := encLink (link incarnation.boot incarnation.sentAt) },
      incarnation.linkAt),
    ({ type := .publishMeasurement, payload := encMeas (measurement incarnation.boot) },
      incarnation.measurementAt),
    ({ type := .ready }, ({} : Ambient))] ++
  List.replicate incarnation.heartbeats ({ type := .heartbeat }, ({} : Ambient))

/-- Frames received one after the other on a connection. -/
def received (connection : Nat) (frames : List (Frame × Ambient)) : List Event :=
  frames.map fun frame => .frame connection (.ok frame.1) frame.2

/-- An incarnation that connects and publishes. -/
def session (worker : WorkerId) (connection : Nat)
    (incarnation : Incarnation) : List Event :=
  handshake connection (greeting worker incarnation) ++
    received connection (publishing incarnation)

/-- The coordinator notices that the connection is gone. -/
def ending (connection : Nat) (incarnation : Incarnation) : List Event :=
  [.frame connection (.error incarnation.failure) incarnation.lostAt, .leave connection]

/-- Incarnations one after the other, each on a connection of its own. -/
def sessions (worker : WorkerId) : Nat → List Incarnation → List Event
  | _, [] => []
  | connection, incarnation :: incarnations =>
      session worker connection incarnation ++ ending connection incarnation ++
        sessions worker (connection + 1) incarnations

section Served

variable {server : Server} {connection : Nat} {hello : Hello} (limits : Limits)

/-- A served connection turns the frames it receives into registry calls. -/
theorem run_received
    (serving : server.connections.find? connection = some (.serving hello))
    (frames : List (Frame × Ambient)) :
    run limits server (received connection frames) =
      { server with
        registry := Registry.run limits server.registry
          (frames.filterMap fun frame => publication hello frame.1 frame.2) } := by
  induction frames generalizing server with
  | nil => rfl
  | cons frame frames ih =>
      simp only [received, List.map_cons, run, Transition.run_cons]
      cases published : publication hello frame.1 frame.2 with
      | none =>
          simp only [step, serving, onFrame, published, List.filterMap_cons]
          exact ih serving
      | some call =>
          have stepped : step limits server (.frame connection (.ok frame.1) frame.2) =
              { server with registry := Registry.step limits server.registry call } := by
            simp only [step, serving, onFrame, published]
          simp only [stepped, List.filterMap_cons, published, Registry.run,
            Transition.run_cons]
          exact ih serving

/-- What an incarnation sends becomes its registry calls. -/
theorem publications (worker : WorkerId) (incarnation : Incarnation) :
    ((publishing incarnation).filterMap fun frame =>
      publication (greeting worker incarnation) frame.1 frame.2) =
      incarnation.publication worker := by
  have silent : (List.replicate incarnation.heartbeats
      (({ type := .heartbeat }, {}) : Frame × Ambient)).filterMap (fun frame =>
        publication (greeting worker incarnation) frame.1 frame.2) = [] := by
    rw [List.filterMap_eq_nil_iff]
    intro frame member
    rw [List.eq_of_mem_replicate member]
    rfl
  have ready : publication (greeting worker incarnation) { type := .ready } {} = none :=
    rfl
  rw [publishing, List.filterMap_append, silent, List.append_nil]
  simp only [List.filterMap_cons, List.filterMap_nil, publication_device,
    publication_link, publication_measurement, ready]
  rfl

end Served

/-! ## Many incarnations -/

/-- A server ready for the next incarnation of a worker. -/
structure Idle (worker : WorkerId) (last : Option WorkerBootId) (connection : Nat)
    (server : Server) : Prop where
  epoch : server.epoch = Server.initial.epoch
  boot : server.lastBoot.find? worker = last
  unused : ∀ other, connection ≤ other → server.connections.find? other = none

/-- A server that serves an incarnation. -/
structure Serving (worker : WorkerId) (incarnation : Incarnation) (connection : Nat)
    (server : Server) : Prop where
  epoch : server.epoch = Server.initial.epoch
  boot : server.lastBoot.find? worker = some incarnation.boot
  serving : server.connections.find? connection =
    some (.serving (greeting worker incarnation))
  unused : ∀ other, connection < other → server.connections.find? other = none

section Runs

variable {server : Server} {worker : WorkerId} {connection : Nat}
variable {last : Option WorkerBootId} {incarnation : Incarnation} (limits : Limits)

/-- A newer incarnation is admitted and publishes. -/
theorem Idle.serve (idle : Idle worker last connection server)
    (newer : ∀ earlier ∈ last, earlier < incarnation.boot) :
    Serving worker incarnation connection
        (run limits server (session worker connection incarnation)) ∧
      (run limits server (session worker connection incarnation)).registry =
        Registry.run limits server.registry (incarnation.publication worker) := by
  have admitted : admits server (greeting worker incarnation) = true := by
    simp only [admits, greeting, idle.epoch, idle.boot, decide_true, Bool.true_and]
    cases last with
    | none => rfl
    | some earlier => exact decide_eq_true (newer earlier rfl)
  have greeted := run_handshake limits (idle.unused connection (Nat.le_refl _)) admitted
  have serving : (run limits server
      (handshake connection (greeting worker incarnation))).connections.find? connection =
      some (.serving (greeting worker incarnation)) := by
    rw [greeted]
    exact find?_moveTo_self _ _ _
  have published : run limits server (session worker connection incarnation) =
      run limits (run limits server (handshake connection (greeting worker incarnation)))
        (received connection (publishing incarnation)) := Transition.run_append _ _ _ _
  rw [published, run_received limits serving, publications]
  refine ⟨⟨?_, ?_, serving, fun other beyond => ?_⟩, ?_⟩
  · rw [greeted]
    exact idle.epoch
  · rw [greeted]
    exact FiniteMap.find?_set_self _ _ _
  · have different : other ≠ connection := by omega
    rw [greeted, find?_moveTo_of_ne _ _ different, find?_moveTo_of_ne _ _ different]
    exact (find?_moveTo_of_ne _ _ different).trans
      (idle.unused other (Nat.le_of_lt beyond))
  · rw [greeted]
    rfl

/-- A lost connection leaves the server ready for the next incarnation. -/
theorem Serving.lose (serving : Serving worker incarnation connection server) :
    Idle worker (some incarnation.boot) (connection + 1)
        (run limits server (ending connection incarnation)) ∧
      (run limits server (ending connection incarnation)).registry =
        Registry.step limits server.registry
          ⟨.markDynamicEvidenceRevalidationRequired, incarnation.lostAt⟩ := by
  let lost : Server :=
    { server with
      registry := Registry.markDynamicEvidenceRevalidationRequired limits
        incarnation.lostAt
        server.registry }
  have left : run limits server (ending connection incarnation) =
      { lost.moveTo connection (.leaving (greeting worker incarnation)) with
        liveCount := server.liveCount - 1 }.moveTo connection .closed := by
    have noticed : step limits server
        (.frame connection (.error incarnation.failure) incarnation.lostAt) =
        lost.moveTo connection (.leaving (greeting worker incarnation)) := by
      simp only [step, serving.serving, onFrame, lost]
    simp only [ending, run, Transition.run_cons, Transition.run_nil, noticed]
    simp only [step, find?_moveTo_self]
    rfl
  rw [left]
  refine ⟨⟨serving.epoch, serving.boot, fun other beyond => ?_⟩, rfl⟩
  have different : other ≠ connection := by omega
  rw [find?_moveTo_of_ne _ _ different]
  exact (find?_moveTo_of_ne lost _ different).trans (serving.unused other beyond)

/-- Incarnations with increasing boots are all admitted, one after the other. -/
theorem Idle.serveAll {incarnations : List Incarnation}
    (idle : Idle worker last connection server)
    (newer : ∀ earlier ∈ last, ∀ incarnation ∈ incarnations, earlier < incarnation.boot)
    (increasing : (incarnations.map (·.boot)).Pairwise (· < ·)) :
    (∃ latest, Idle worker latest (connection + incarnations.length)
        (run limits server (sessions worker connection incarnations)) ∧
      ∀ earlier ∈ latest, earlier ∈ last ∨ earlier ∈ incarnations.map (·.boot)) ∧
      (run limits server (sessions worker connection incarnations)).registry =
        Registry.run limits server.registry (incarnations.flatMap (·.life worker)) := by
  induction incarnations generalizing server connection last with
  | nil => exact ⟨⟨last, idle, fun _ onRecord => .inl onRecord⟩, rfl⟩
  | cons incarnation incarnations ih =>
      rw [List.map_cons, List.pairwise_cons] at increasing
      obtain ⟨serving, published⟩ := idle.serve limits fun earlier onRecord =>
        newer earlier onRecord incarnation List.mem_cons_self
      obtain ⟨ready, marked⟩ := serving.lose limits
      have parts : run limits server
          (sessions worker connection (incarnation :: incarnations)) =
          run limits
            (run limits (run limits server (session worker connection incarnation))
            (ending connection incarnation))
              (sessions worker (connection + 1) incarnations) := by
        rw [sessions, run, Transition.run_append, Transition.run_append]
      have laterNewer : ∀ earlier ∈ some incarnation.boot, ∀ later ∈ incarnations,
          earlier < later.boot := by
        rintro earlier ⟨⟩ later member
        exact increasing.1 _ (List.mem_map_of_mem member)
      obtain ⟨⟨latest, idleLatest, recorded⟩, calls⟩ := ih ready laterNewer increasing.2
      rw [parts]
      refine ⟨⟨latest, ?_, fun earlier onRecord => .inr ?_⟩, ?_⟩
      · rwa [List.length_cons, Nat.add_comm incarnations.length 1, ← Nat.add_assoc]
      · rcases recorded earlier onRecord with same | later
        · rw [← Option.some.inj same]
          exact List.mem_cons_self
        · exact List.mem_cons_of_mem _ later
      · rw [calls, marked, published, List.flatMap_cons, Incarnation.life,
          List.append_assoc]
        simp only [Registry.run, Transition.run_append, Transition.run_cons,
          Transition.run_nil]

end Runs

/-- The registry after earlier incarnations have come and gone and the latest one
has published. -/
def registryAfter (worker : WorkerId) (earlier : List Incarnation)
    (latest : Incarnation) :
    Registry.State :=
  (run {} .initial
    (sessions worker 0 earlier ++ session worker earlier.length latest)).registry

/-- The latest incarnation has its link up, and the route over it is allowed. -/
def RestoresEligibility (worker : WorkerId) (earlier : List Incarnation)
    (latest : Incarnation) : Prop :=
  (∃ link, (registryAfter worker earlier latest).links.find? (linkId latest.boot) =
      some link ∧ link.state = .up) ∧
    ∀ ambient, ∃ decision,
      Registry.decideRoute {} ambient sourceId targetId .defaultPolicy
        (registryAfter worker earlier latest) = .ok decision ∧
      decision.outcome = .routeAllowed ∧ decision.executable = true

/-- The server adds nothing to the registry calls of the incarnations. -/
theorem registryAfter_eq {earlier : List Incarnation} {latest : Incarnation}
    (worker : WorkerId)
    (increasing : ((earlier ++ [latest]).map (·.boot)).Pairwise (· < ·)) :
    registryAfter worker earlier latest =
      Registry.run {} .initial
        (earlier.flatMap (·.life worker) ++ latest.publication worker) := by
  rw [List.map_append, List.pairwise_append] at increasing
  have idle : Idle worker none 0 Server.initial := ⟨rfl, rfl, fun _ _ => rfl⟩
  obtain ⟨⟨last, ready, recorded⟩, calls⟩ :=
    idle.serveAll {} (by simp) increasing.1
  rw [Nat.zero_add] at ready
  have newer : ∀ boot ∈ last, boot < latest.boot := by
    intro boot onRecord
    rcases recorded boot onRecord with absurdity | member
    · simp at absurdity
    · exact increasing.2.2 boot member _ (by simp)
  obtain ⟨-, published⟩ := ready.serve {} newer
  rw [registryAfter, run, Transition.run_append, published, calls]
  exact (Transition.run_append _ _ _ _).symm

/-- The latest incarnation has published next to the remains of the earlier ones. -/
theorem published_registryAfter {earlier : List Incarnation} {latest : Incarnation}
    (worker : WorkerId)
    (increasing : ((earlier ++ [latest]).map (·.boot)).Pairwise (· < ·))
    (seeded : ∀ incarnation ∈ earlier ++ [latest], Seeded incarnation.boot) :
    Published (earlier.map (·.boot)) latest.boot
      (registryAfter worker earlier latest) := by
  rw [registryAfter_eq worker increasing]
  rw [List.map_append, List.pairwise_append] at increasing
  have newer : ∀ boot ∈ earlier.map (·.boot), boot < latest.boot := fun boot member =>
    increasing.2.2 boot member _ (by simp)
  have hosted := hosted_initial.lives
    (fun incarnation member => seeded incarnation (List.mem_append_left _ member))
    (by simpa using increasing.1) worker
  rw [Registry.run, Transition.run_append]
  exact hosted.publish (seeded latest (by simp)) newer
    (fun boot onRecord => newer boot (List.mem_of_getLast? onRecord)) worker

/-- A fresh boot restores eligibility exactly as long as fewer than sixteen
incarnations came before it: their links are never removed, and they use up the
parallel links of the pair. -/
theorem fresh_boot_restores_iff (worker : WorkerId) (earlier : List Incarnation)
    (latest : Incarnation)
    (increasing : ((earlier ++ [latest]).map (·.boot)).Pairwise (· < ·))
    (seeded : ∀ incarnation ∈ earlier ++ [latest], Seeded incarnation.boot) :
    RestoresEligibility worker earlier latest ↔ earlier.length < 16 := by
  have published := published_registryAfter worker increasing seeded
  constructor
  · rintro ⟨⟨link, found, -⟩, -⟩
    by_contra full
    rw [published.refused (by simpa using full)] at found
    simp at found
  · intro room
    have below : (earlier.map (·.boot)).length < 16 := by simpa using room
    have reachable : Registry.Reachable {} (registryAfter worker earlier latest) :=
      ⟨_, (registryAfter_eq worker increasing).symm⟩
    obtain ⟨link, found, current⟩ := published.own below
    exact ⟨⟨link, found, current.up⟩, published.route reachable below⟩

/-- Incarnations with boots 1 to `count`. -/
def incarnations (count : Nat) : List Incarnation :=
  (List.range count).map fun index => { boot := ⟨UInt64.ofNat (index + 1)⟩ }

/-- The second incarnation of a worker restores eligibility. -/
theorem second_boot_restores :
    RestoresEligibility ⟨1⟩ (incarnations 1) { boot := ⟨2⟩ } :=
  (fresh_boot_restores_iff ⟨1⟩ (incarnations 1) { boot := ⟨2⟩ } (by decide)
    (by decide)).mpr
    (by decide)

/-- The seventeenth incarnation cannot publish its link. -/
theorem seventeenth_boot_fails :
    ¬∀ (worker : WorkerId) (earlier : List Incarnation) (latest : Incarnation),
      ((earlier ++ [latest]).map (·.boot)).Pairwise (· < ·) →
      (∀ incarnation ∈ earlier ++ [latest], Seeded incarnation.boot) →
        RestoresEligibility worker earlier latest := by
  intro restores
  let latest : Incarnation := { boot := ⟨17⟩ }
  have increasing : ((incarnations 16 ++ [latest]).map (·.boot)).Pairwise (· < ·) := by
    decide
  have seeded : ∀ incarnation ∈ incarnations 16 ++ [latest], Seeded incarnation.boot := by
    decide
  obtain ⟨⟨link, found, -⟩, -⟩ := restores ⟨1⟩ _ _ increasing seeded
  have absent := (published_registryAfter ⟨1⟩ increasing seeded).refused (by decide)
  rw [absent] at found
  simp at found

end NvlinkFabric.Coordinator

import NvlinkFabric.Coordinator.Session
import NvlinkFabric.Path.Submissions

/-!
# Evidence from workers

`dec_link` gives every link that a worker publishes the class SYNTHETIC, whatever the
payload says or fails to say.  So no sequence of bytes on any connection makes the
coordinator rate a path as REAL; only the embedding process can.
-/

namespace NvlinkFabric.Coordinator

open Wire ByteReader
open Registry (Unreal)

/-- Whatever bytes a link is decoded from, it is SYNTHETIC. -/
theorem yields_decLink (now : Timestamp) :
    Yields (decLink now) (·.evidence.evidenceClass = .synthetic) :=
  .bind (.any _) fun _ _ => .bind (.any _) fun _ _ => .bind (.any _) fun _ _ =>
  .bind (.any _) fun _ _ => .bind (.any _) fun _ _ => .bind (.any _) fun _ _ =>
  .bind (.any _) fun _ _ => .bind (.any _) fun _ _ => .bind (.any _) fun _ _ =>
  .pure rfl

/-- A publication is never more than SYNTHETIC, however malformed its payload is. -/
theorem publication_unreal {hello : Hello} {frame : Frame} {ambient : Ambient}
    {call : Registry.Call} (published : publication hello frame ambient = some call) :
    Unreal call := by
  intro id evidence brought
  cases type : frame.type <;> simp only [publication, type,
    Option.some.injEq] at published
  case publishDevice =>
    subst published
    cases brought
  case publishLink =>
    subst published
    simp only [Registry.LinkField.brings, Registry.read_evidenceField] at brought
    split at brought
    · rw [← Option.some.inj brought]
      exact .inl (yields_decLink ambient.now _)
    · cases brought
  case publishMeasurement =>
    subst published
    cases brought
  all_goals cases published

/-- The handlers make no other calls than publications and marks. -/
theorem calls_unreal {session : Session} {turn : Turn}
    (direct : ∀ call, turn = .direct call → Unreal call) :
    ∀ entry ∈ session.calls turn, Unreal entry.2 := by
  intro entry member
  cases turn with
  | connect | reply | leave => simp [Session.calls] at member
  | direct call =>
      obtain rfl := List.mem_singleton.mp member
      exact direct call rfl
  | receive connection ambient =>
      simp only [Session.calls] at member
      split at member
      next hello serving =>
        split at member
        next error failed =>
          obtain rfl := List.mem_singleton.mp member
          intro id evidence brought
          cases brought
        next frame received =>
          obtain ⟨call, published, rfl⟩ := List.mem_map.mp member
          exact publication_unreal (Option.mem_toList.mp published)
      · cases member

theorem trace_unreal (limits : Limits) (session : Session) (turns : List Turn)
    (direct : ∀ call, .direct call ∈ turns → Unreal call) :
    ∀ entry ∈ session.trace limits turns, Unreal entry.2 := by
  induction turns generalizing session with
  | nil => simp [Session.trace]
  | cons turn turns ih =>
      intro entry member
      rcases List.mem_append.mp member with now | later
      · exact calls_unreal (fun call same =>
          direct call (same ▸ List.mem_cons_self)) entry now
      · exact ih _ (fun call made =>
          direct call (List.mem_cons_of_mem _ made)) entry later

/-- Whatever bytes arrive on any number of connections, and however the handlers
interleave, no path that the registry enumerates is rated as REAL, unless the embedding
process submits evidence of its own for a link. -/
theorem workers_never_real {limits : Limits} {counter : UInt64} {incoming : Nat → Socket}
    {turns : List Turn} (direct : ∀ call, .direct call ∈ turns → Unreal call)
    {source target : DeviceId} {paths : List Path} {path : Path} {quality : PathQuality}
    (listed : Registry.enumeratePaths limits source target
      (Session.run limits { server := construct counter, incoming }
        turns).server.registry =
        .ok paths) (member : path ∈ paths)
    (rated : Registry.computePathQuality path
      (Session.run limits { server := construct counter, incoming }
        turns).server.registry =
        .ok quality) :
    quality.evidence.evidenceClass ≠ .real := by
  rw [registry_run] at listed rated
  refine Registry.unreal_rating (fun call made => ?_) listed member rated
  obtain ⟨entry, traced, rfl⟩ := List.mem_map.mp made
  exact trace_unreal limits { server := construct counter, incoming } turns
    direct entry traced

/-- The coordinator once the worker tool has published everything. -/
def toolServed : Registry.State :=
  (Session.run {} toolSession (toolTurns.take 8)).server.registry

/-- The path between the devices of the worker tool. -/
def toolPath : Path :=
  pathOver (Registry.buildSnapshot toolServed) Worker.sourceId Worker.targetId
    [⟨(Worker.link ⟨1⟩ {}).id, Worker.targetId⟩]

/-- A path over the link that arrived from the worker tool. -/
theorem worker_link_not_real :
    Registry.enumeratePaths {} Worker.sourceId Worker.targetId toolServed =
      .ok [toolPath] ∧
      ∃ quality, Registry.computePathQuality toolPath toolServed = .ok quality ∧
        quality.evidence.evidenceClass ≠ .real := by
  have listed : Registry.enumeratePaths {} Worker.sourceId Worker.targetId toolServed =
      .ok [toolPath] := by
    decide +kernel
  have direct (call : Registry.Call) (made : .direct call ∈ toolTurns.take 8) :
      Unreal call := by
    simp [toolTurns] at made
  have rates : (Registry.computePathQuality toolPath toolServed).toOption.isSome =
      true := by
    decide +kernel
  cases rated : Registry.computePathQuality toolPath toolServed with
  | error error => simp [rated, Except.toOption] at rates
  | ok quality =>
      exact ⟨listed, quality, rfl,
        workers_never_real direct listed List.mem_cons_self rated⟩

end NvlinkFabric.Coordinator

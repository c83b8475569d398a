import NvlinkFabric.Coordinator.Server
import NvlinkFabric.Worker.Evidence

/-!
# Fencing of process incarnations

A boot is compared with the last accepted one only when the HELLO is validated.
Later frames of the same connection are attributed to the boot of that HELLO and
are not checked again.  Evidence of a superseded boot is therefore kept out as
long as every older connection of a worker is gone when a newer boot is
accepted, and not otherwise.
-/

namespace NvlinkFabric.Coordinator

open Wire Transition

variable {limits : Limits} {server : Server} {event : Event} {events : List Event}
variable {connection : Nat} {hello : Hello}

/-- The HELLO behind a handler that may still publish. -/
def Phase.admitted? : Phase → Option Hello
  | .replying hello true => some hello
  | .serving hello => some hello
  | _ => none

/-- The HELLO that an event gets accepted. -/
def acceptedHello (server : Server) : Event → Option Hello
  | .hello connection received =>
      match server.connections.find? connection with
      | some .awaitingHello => (parseHello received).filter (admits server)
      | _ => none
  | _ => none

/-- No HELLO of a worker is accepted while an earlier connection of that worker
may still publish. -/
def Exclusive (server : Server) (event : Event) : Prop :=
  ∀ hello ∈ acceptedHello server event, ∀ entry ∈ server.connections.entries,
    ∀ earlier ∈ entry.2.admitted?, earlier.worker ≠ hello.worker

instance (server : Server) (event : Event) : Decidable (Exclusive server event) :=
  inferInstanceAs (Decidable (∀ hello ∈ acceptedHello server event, _))

/-- Message types that publish evidence. -/
def publishes (type : MessageType) : Bool :=
  type = .publishDevice || type = .publishLink || type = .publishMeasurement

/-- The identity behind an event that publishes evidence. -/
def publisher (server : Server) : Event → Option Hello
  | .frame connection (.ok frame) _ =>
      match server.connections.find? connection with
      | some (.serving hello) => if publishes frame.type then some hello else none
      | _ => none
  | _ => none

/-- If the event publishes evidence that changes the registry, the evidence comes
from the last accepted boot of its worker. -/
def PublishesCurrent (limits : Limits) (server : Server) (event : Event) : Prop :=
  ∀ hello ∈ publisher server event,
    (step limits server event).registry ≠ server.registry →
    server.lastBoot.find? hello.worker = some hello.boot

instance (limits : Limits) (server : Server) (event : Event) :
    Decidable (PublishesCurrent limits server event) :=
  inferInstanceAs (Decidable (∀ hello ∈ publisher server event, _))

theorem acceptedHello_of_unheard (unheard : ∀ connection received,
    event = .hello connection received →
      server.connections.find? connection ≠ some .awaitingHello) :
    acceptedHello server event = none := by
  cases event with
  | hello connection received =>
      simp only [acceptedHello]
      split
      next awaiting => exact absurd awaiting (unheard connection received rfl)
      · rfl
  | _ => rfl

theorem acceptedHello_of_parsed {received : Result Frame}
    (awaiting : server.connections.find? connection = some .awaitingHello)
    (parsed : parseHello received = some hello) :
    acceptedHello server (.hello connection received) =
      if admits server hello then some hello else none := by
  simp only [acceptedHello, awaiting, parsed]
  rfl

/-- Only an accepted HELLO changes the record of boots. -/
theorem step_lastBoot (limits : Limits) (server : Server) (event : Event) :
    (step limits server event).lastBoot =
      match acceptedHello server event with
      | none => server.lastBoot
      | some hello => server.lastBoot.set hello.worker hello.boot := by
  have outcome := step_outcome limits server event
  generalize step limits server event = next at outcome ⊢
  cases outcome with
  | ignored unheard => rw [acceptedHello_of_unheard unheard]
  | dropped awaiting parsed => simp [acceptedHello, awaiting, parsed]
  | admitted awaiting parsed accepted =>
      simp [acceptedHello_of_parsed awaiting parsed, accepted]
  | refused awaiting parsed rejected =>
      simp [acceptedHello_of_parsed awaiting parsed, rejected]
  | _ => rfl

/-- The phase found after a connection moved. -/
theorem find?_moveTo {other : Nat} {phase found : Phase}
    (lookup : (server.moveTo connection phase).connections.find? other = some found) :
    other = connection ∧ found = phase ∨ server.connections.find? other = some found := by
  by_cases same : other = connection
  · subst same
    rw [find?_moveTo_self] at lookup
    exact .inl ⟨rfl, (Option.some.inj lookup).symm⟩
  · rw [find?_moveTo_of_ne server phase same] at lookup
    exact .inr lookup

/-- A handler that may publish after a step could do so before, or the step
accepted its HELLO. -/
theorem step_admitted {other : Nat} {phase : Phase}
    (found : (step limits server event).connections.find? other = some phase)
    (admitted : phase.admitted? = some hello) :
    (∃ old, server.connections.find? other = some old ∧ old.admitted? = some hello) ∨
      acceptedHello server event = some hello := by
  have unchanged (same : server.connections.find? other = some phase) :
      (∃ old, server.connections.find? other = some old ∧ old.admitted? = some hello) ∨
        acceptedHello server event = some hello := .inl ⟨phase, same, admitted⟩
  have outcome := step_outcome limits server event
  generalize step limits server event = next at outcome found
  cases outcome with
  | ignored | published | called => exact unchanged found
  | admitted awaiting parsed accepted =>
      rcases find?_moveTo found with ⟨-, rfl⟩ | same
      · right
        rw [← admitted]
        simp [acceptedHello_of_parsed awaiting parsed, accepted, Phase.admitted?]
      · exact unchanged same
  | greeted replying =>
      rcases find?_moveTo found with ⟨rfl, rfl⟩ | same
      · exact .inl ⟨_, replying, admitted⟩
      · exact unchanged same
  | connected | dropped | refused | unserved | ended | left =>
      -- The handler moves to a phase in which it may not publish.
      rcases find?_moveTo found with ⟨-, rfl⟩ | same
      · simp [Phase.admitted?] at admitted
      · exact unchanged same

/-- Every handler that may publish acts for the last accepted boot. -/
def Fenced (server : Server) : Prop :=
  ∀ connection phase hello, server.connections.find? connection = some phase →
    phase.admitted? = some hello → server.lastBoot.find? hello.worker = some hello.boot

theorem fenced_initial : Fenced Server.initial := by
  intro connection phase hello found
  simp [Server.initial, construct] at found

theorem fenced_step (exclusive : Exclusive server event) (fenced : Fenced server) :
    Fenced (step limits server event) := by
  intro connection phase hello found admitted
  rw [step_lastBoot]
  rcases step_admitted found admitted with ⟨old, oldFound, oldAdmitted⟩ | accepted
  · cases validated : acceptedHello server event with
    | none => exact fenced connection old hello oldFound oldAdmitted
    | some newer =>
        have different : hello.worker ≠ newer.worker :=
          exclusive newer validated _ (FiniteMap.find?_eq_some.mp oldFound)
            hello oldAdmitted
        rw [FiniteMap.find?_set_of_ne _ _ different]
        exact fenced connection old hello oldFound oldAdmitted
  · rw [accepted]
    exact FiniteMap.find?_set_self _ _ _

/-- A publishing event comes from a handler that may publish. -/
theorem publisher_admitted (publishing : publisher server event = some hello) :
    ∃ connection, server.connections.find? connection = some (.serving hello) := by
  unfold publisher at publishing
  split at publishing
  · split at publishing
    next found =>
      split at publishing
      · obtain rfl := Option.some.inj publishing
        exact ⟨_, found⟩
      · simp at publishing
    · simp at publishing
  · simp at publishing

theorem publishesCurrent_of_fenced (fenced : Fenced server) :
    PublishesCurrent limits server event := by
  intro hello publishing _
  obtain ⟨connection, found⟩ := publisher_admitted publishing
  exact fenced connection _ hello found rfl

/-! ## What happens without exclusion -/

/-- Every handler that may publish was accepted for a boot on record. -/
def Recorded (server : Server) : Prop :=
  ∀ connection phase hello, server.connections.find? connection = some phase →
    phase.admitted? = some hello →
    ∃ last, server.lastBoot.find? hello.worker = some last ∧ hello.boot ≤ last

theorem recorded_initial : Recorded Server.initial := by
  intro connection phase hello found
  simp [Server.initial, construct] at found

/-- An accepted HELLO was admitted on a connection that waited for it. -/
theorem acceptedHello_eq (limits : Limits)
    (accepted : acceptedHello server event = some hello) :
    ∃ connection received, event = .hello connection received ∧
      server.connections.find? connection = some .awaitingHello ∧
      admits server hello = true ∧
      step limits server event =
        (server.recordBoot hello).moveTo connection (.replying hello true) := by
  have outcome := step_outcome limits server event
  generalize step limits server event = next at outcome ⊢
  cases outcome with
  | ignored unheard => simp [acceptedHello_of_unheard unheard] at accepted
  | dropped awaiting parsed => simp [acceptedHello, awaiting, parsed] at accepted
  | refused awaiting parsed rejected =>
      simp [acceptedHello_of_parsed awaiting parsed, rejected] at accepted
  | admitted awaiting parsed admitted =>
      rw [acceptedHello_of_parsed awaiting parsed, if_pos admitted,
        Option.some.injEq] at accepted
      subst accepted
      exact ⟨_, _, rfl, awaiting, admitted, rfl⟩
  | _ => simp [acceptedHello] at accepted

theorem recorded_step (limits : Limits) (event : Event) (recorded : Recorded server) :
    Recorded (step limits server event) := by
  intro connection phase hello found admitted
  rw [step_lastBoot]
  rcases step_admitted found admitted with ⟨old, oldFound, oldAdmitted⟩ | accepted
  · obtain ⟨last, onRecord, atMost⟩ := recorded connection old hello oldFound oldAdmitted
    cases validated : acceptedHello server event with
    | none => exact ⟨last, onRecord, atMost⟩
    | some newer =>
        by_cases same : hello.worker = newer.worker
        · obtain ⟨-, -, -, -, admitted, -⟩ := acceptedHello_eq limits validated
          simp only [admits, ← same, onRecord, Option.all_some, Bool.and_eq_true,
            decide_eq_true_eq] at admitted
          refine ⟨newer.boot, by simp [same], ?_⟩
          exact UInt64.le_trans atMost (UInt64.le_of_lt admitted.2)
        · exact ⟨last, by simpa [FiniteMap.find?_set_of_ne _ _ same] using onRecord,
            atMost⟩
  · rw [accepted]
    exact ⟨hello.boot, FiniteMap.find?_set_self _ _ _, UInt64.le_refl _⟩

/-- A handler of a superseded boot can publish a measurement that changes the
registry. -/
theorem superseded_can_publish (room : 1 ≤ limits.maxMeasurementHistory)
    (serving : server.connections.find? connection = some (.serving hello))
    (superseded : server.lastBoot.find? hello.worker ≠ some hello.boot) :
    ∃ event, Exclusive server event ∧ ¬PublishesCurrent limits server event := by
  obtain ⟨id, nonZero, fresh⟩ : ∃ id : UInt64, id ≠ 0 ∧
      server.registry.measurementHistory.getLast?.map (·.id) ≠ some ⟨id⟩ := by
    by_cases taken : server.registry.measurementHistory.getLast?.map (·.id) = some ⟨1⟩
    · exact ⟨2, by decide, by rw [taken]; decide⟩
    · exact ⟨1, by decide, taken⟩
  refine ⟨.frame connection
    (.ok { type := .publishMeasurement, payload := encMeas { id := ⟨id⟩ } }) {}, ?_, ?_⟩
  · simp [Exclusive, acceptedHello]
  · intro current
    refine superseded (current hello (by simp [publisher, serving, publishes]) ?_)
    simp only [step, serving, onFrame, publication_measurement]
    intro same
    have history :=
      congrArg (fun state => state.measurementHistory.getLast?.map (·.id)) same
    simp only [Registry.step, Registry.apply, Registry.publishMeasurement,
      BoundedQueue.getLast?_push room, Option.map_some] at history
    rw [← history] at fresh
    simp [receivedMeas, Id.isNil, nonZero] at fresh

/-- Accepting a newer boot while an older connection may still publish opens a run
in which superseded evidence changes the registry. -/
theorem overlap_breaks_fencing (room : 1 ≤ limits.maxMeasurementHistory)
    (recorded : Recorded server) (overlap : ¬Exclusive server event) :
    ∃ later, Along (step limits) Exclusive (step limits server event) later ∧
      ¬Along (step limits) (PublishesCurrent limits)
        (step limits server event) later := by
  simp only [Exclusive, not_forall, not_not] at overlap
  obtain ⟨newer, accepted, ⟨connection, phase⟩, member, earlier, admitted, sameWorker⟩ :=
    overlap
  have found := FiniteMap.find?_eq_some.mpr member
  obtain ⟨waiting, received, rfl, awaiting, validated, stepEq⟩ :=
    acceptedHello_eq limits accepted
  have other : connection ≠ waiting := by
    rintro rfl
    obtain rfl : Phase.awaitingHello = phase :=
      Option.some.inj (awaiting.symm.trans found)
    simp [Phase.admitted?] at admitted
  -- The older handler keeps its place, and its boot is no longer the recorded one.
  have kept : (step limits server (.hello waiting received)).connections.find?
      connection =
      some phase := by
    rw [stepEq, find?_moveTo_of_ne _ _ other]
    exact found
  have superseded : (step limits server (.hello waiting received)).lastBoot.find?
      earlier.worker ≠ some earlier.boot := by
    obtain ⟨last, onRecord, atMost⟩ := recorded connection phase earlier found admitted
    simp only [admits, ← sameWorker, onRecord, Option.all_some, Bool.and_eq_true,
      decide_eq_true_eq] at validated
    have below : earlier.boot.value < newer.boot.value :=
      UInt64.lt_of_le_of_lt atMost validated.2
    rw [stepEq, sameWorker, moveTo_lastBoot, recordBoot_lastBoot,
      FiniteMap.find?_set_self, ne_eq, Option.some.injEq]
    intro equal
    exact UInt64.lt_irrefl _ (equal ▸ below)
  cases phase with
  | serving hello =>
      obtain rfl : hello = earlier := by simpa [Phase.admitted?] using admitted
      obtain ⟨event, exclusive, stale⟩ := superseded_can_publish room kept superseded
      exact ⟨[event], ⟨exclusive, trivial⟩, fun current => stale current.1⟩
  | replying hello delivered =>
      cases delivered with
      | false => simp [Phase.admitted?] at admitted
      | true =>
          obtain rfl : hello = earlier := by simpa [Phase.admitted?] using admitted
          have replied := step_reply_sent limits kept
          obtain ⟨event, exclusive, stale⟩ :=
            superseded_can_publish room (find?_moveTo_self _ connection (.serving hello))
              superseded
          refine ⟨[.reply connection true, event], ⟨?_, ?_, trivial⟩, fun current => ?_⟩
          · simp [Exclusive, acceptedHello]
          · rwa [replied]
          · have second := current.2.1
            rw [replied] at second
            exact stale second
  | awaitingHello | leaving hello | closed => simp [Phase.admitted?] at admitted

/-- In every run whose accepted HELLOs never overlap an older connection of their
worker, evidence that changes the registry comes from the last accepted boot; and
every overlap can be continued to a run in which it does not. -/
theorem evidence_fenced_iff_exclusive (limits : Limits) (events : List Event) :
    (Along (step limits) Exclusive .initial events →
      Along (step limits) (PublishesCurrent limits) .initial events) ∧
    (1 ≤ limits.maxMeasurementHistory → ∀ event,
      ¬Exclusive (run limits .initial events) event →
        ∃ later, Along (step limits) Exclusive
            (run limits .initial (events ++ [event])) later ∧
          ¬Along (step limits) (PublishesCurrent limits) .initial
            (events ++ event :: later)) := by
  constructor
  · intro exclusive
    have preserved (server : Server) (event : Event) (exclusive : Exclusive server event)
        (fenced : Fenced server) : Fenced (step limits server event) :=
      fenced_step exclusive fenced
    exact along_of_invariant preserved
      (fun _ _ fenced => publishesCurrent_of_fenced fenced) fenced_initial exclusive
  · intro room event overlap
    have recorded : Recorded (run limits .initial events) :=
      invariant_run (fun _ event => recorded_step limits event) recorded_initial events
    obtain ⟨later, exclusive, stale⟩ := overlap_breaks_fencing room recorded overlap
    refine ⟨later, ?_, fun current => stale ?_⟩
    · rwa [run, run_append]
    · exact ((along_append (step limits)).mp current).2.2

/-- Two boots of one worker, the second accepted while the first still serves. -/
def overlapping : List Event :=
  handshake 1 { worker := ⟨1⟩, boot := ⟨1⟩, epoch := ⟨1⟩ } ++
    handshake 2 { worker := ⟨1⟩, boot := ⟨2⟩, epoch := ⟨1⟩ }

/-- The device that the superseded boot publishes. -/
def staleDevice : Event :=
  .frame 1 (.ok { type := .publishDevice,
                  payload := encDevice (Worker.sourceDevice ⟨1⟩) }) {}

/-- One boot alone is fenced, and the overlap of two boots can be continued to a
violation. -/
theorem overlapping_not_fenced :
    Along (step {}) (PublishesCurrent {}) .initial
      (handshake 1 { worker := ⟨1⟩, boot := ⟨1⟩, epoch := ⟨1⟩ } ++ [staleDevice]) ∧
    ∃ later, ¬Along (step {}) (PublishesCurrent {}) .initial
      (overlapping.take 4 ++ overlapping.get ⟨4, by decide⟩ :: later) := by
  refine ⟨(evidence_fenced_iff_exclusive {} _).1 (by decide +kernel), ?_⟩
  obtain ⟨later, -, stale⟩ := (evidence_fenced_iff_exclusive {} (overlapping.take 4)).2
    (by decide) (overlapping.get ⟨4, by decide⟩) (by decide +kernel)
  exact ⟨later, stale⟩

/-- After boot 2 of the worker is accepted, boot 1 still publishes a device. -/
theorem superseded_boot_publishes :
    ¬∀ (limits : Limits) (events : List Event),
      Along (step limits) (PublishesCurrent limits) .initial events := by
  intro fenced
  have stale : ¬Along (step {}) (PublishesCurrent {}) .initial
      (overlapping ++ [staleDevice]) := by decide +kernel
  exact stale (fenced {} (overlapping ++ [staleDevice]))

end NvlinkFabric.Coordinator

import NvlinkFabric.Registry.Effects
import NvlinkFabric.Worker.Evidence

/-!
# What an upsert writes to the observation log

An insert copies the record and logs it; an update moves the record into the map
first, so the log is written from strings with unspecified contents.  The newest
entry therefore carries the submitted evidence exactly after an insert.
-/

namespace NvlinkFabric.Registry

variable {limits : Limits} {state : State}

/-- An entry that carries the evidence of a submitted record, quotes it and refers
to its ends. -/
structure Reports (evidence : Evidence) (summary : Text) (source target : DeviceId)
    (observation : Observation) : Prop where
  evidence : observation.evidence = evidence
  summary : observation.summary = summary
  source : observation.source = source
  target : observation.target = target

/-- The newest entry of the log has the property; only a log without room for any
entry may be empty. -/
def Newest (limits : Limits) (log : List Observation)
    (property : Observation → Prop) : Prop :=
  match log.getLast? with
  | some newest => property newest
  | none => limits.maxObservations = 0

/-- The log is empty and has no room, so that an entry is dropped as it is appended. -/
def DropsEntries (limits : Limits) (log : List Observation) : Prop :=
  limits.maxObservations = 0 ∧ log = []

theorem newest_push (log : List Observation) (observation : Observation)
    (property : Observation → Prop) :
    Newest limits (BoundedQueue.push limits.maxObservations log observation) property ↔
      property observation ∨ DropsEntries limits log := by
  by_cases drops : DropsEntries limits log
  · obtain ⟨bound, rfl⟩ := drops
    simp [Newest, DropsEntries, BoundedQueue.push, bound]
  · simp only [drops, or_false]
    cases found : (BoundedQueue.push limits.maxObservations log observation).getLast? with
    | some newest =>
        obtain rfl := BoundedQueue.eq_of_getLast?_push found
        simp only [Newest, found]
    | none =>
        refine absurd ?_ drops
        rw [List.getLast?_eq_none_iff] at found
        have bound : ¬1 ≤ limits.maxObservations := by
          intro positive
          have kept := BoundedQueue.getLast?_push positive log observation
          simp [found] at kept
        refine ⟨by omega, ?_⟩
        cases log with
        | nil => rfl
        | cons first rest =>
            simp [BoundedQueue.push, Nat.eq_zero_of_not_pos bound] at found

/-- Whatever an operation draws from the process, the contents of moved-from strings
included, if it changes the registry then the newest entry has the property. -/
def Logs (limits : Limits) (state : State) (operation : Operation)
    (property : Observation → Prop) : Prop :=
  ∀ ambient, step limits state ⟨operation, ambient⟩ ≠ state →
    Newest limits (step limits state ⟨operation, ambient⟩).observations property

/-- The operation changes the registry. -/
def Changes (limits : Limits) (state : State) (operation : Operation) : Prop :=
  ∃ ambient, step limits state ⟨operation, ambient⟩ ≠ state

theorem newest_commit (observation : Observation) (edited : State)
    (property : Observation → Prop) :
    Newest limits (commit limits observation edited).observations property ↔
      property observation ∨ DropsEntries limits edited.observations :=
  newest_push edited.observations observation property

/-- An operation that commits an entry with the property logs it. -/
theorem logs_of_commit {operation : Operation} {property : Observation → Prop}
    {entry : Ambient → Observation} {edited : Ambient → State}
    (steps : ∀ ambient, step limits state ⟨operation, ambient⟩ =
      commit limits (entry ambient) (edited ambient))
    (holds : ∀ ambient, property (entry ambient)) :
    Logs limits state operation property := by
  intro ambient _
  rw [steps, newest_commit]
  exact .inl (holds ambient)

/-- What is logged from moved-from strings carries the submission only if it is
dropped. -/
theorem logs_moved_iff {operation : Operation} {edited : State}
    {kind label summary : Text} {source target : DeviceId} {evidence : Evidence}
    (steps : ∀ ambient, step limits state ⟨operation, ambient⟩ =
      commit limits
        (makeObservation ambient kind source target (movedEvidence ambient evidence)
          (label ++ ambient.movedFrom.label)) edited)
    (changed : ∀ ambient, step limits state ⟨operation, ambient⟩ ≠ state)
    (log : edited.observations = state.observations) :
    Logs limits state operation (Reports evidence summary source target) ↔
      DropsEntries limits state.observations := by
  constructor
  · intro logs
    let ambient : Ambient := { movedFrom := { source := 0 :: evidence.source } }
    have newest := logs ambient (changed ambient)
    rw [steps, newest_commit, log] at newest
    refine newest.resolve_left fun carries => ?_
    have kept : (0 : UInt8) :: evidence.source = evidence.source :=
      congrArg Evidence.source carries.evidence
    simp at kept
  · intro drops ambient _
    rw [steps, newest_commit, log]
    exact .inr drops

/-- Calls that end in the same way whatever they draw: without an effect, or in one of
the outcomes. -/
def Settled (state : State) (outcome : (Ambient → State) → Prop)
    (attempt : Ambient → Result State) : Prop :=
  (∀ ambient next, attempt ambient = .ok next → next = state) ∨
    ∃ result, outcome result ∧ ∀ ambient, attempt ambient = .ok (result ambient)

/-- A check that does not depend on what is drawn. -/
theorem Settled.guard {outcome : (Ambient → State) → Prop}
    {attempt : Ambient → Result State} {condition : Prop} [Decidable condition]
    {code : ErrorCode} {message : Text}
    (passed : ¬condition → Settled state outcome attempt) :
    Settled state outcome fun ambient =>
      if condition then err code message else attempt ambient := by
  by_cases refused : condition
  · left
    intro ambient next ok
    simp [refused, err] at ok
  · simpa only [if_neg refused] using passed refused

/-- A stale record is refused, and one of the stored generation changes nothing. -/
theorem Settled.versioned {outcome : (Ambient → State) → Prop}
    {attempt : Ambient → Result State} {tag : Tag} {submitted stored : Generation tag}
    {replays : Bool} {stale conflict : Text}
    (replaces : stored < submitted → Settled state outcome attempt) :
    Settled state outcome fun ambient =>
      if submitted < stored then err .staleGeneration stale
      else if submitted = stored then
        if replays then .ok state else err .staleGeneration conflict
      else attempt ambient := by
  refine .guard fun older => ?_
  by_cases same : submitted = stored
  · left
    intro ambient next ok
    simp only [if_pos same] at ok
    split at ok
    · exact (Except.ok.inj ok).symm
    · simp [err] at ok
  · simp only [if_neg same]
    exact replaces (lt_of_le_of_ne (not_lt.mp older) (Ne.symm same))

theorem Settled.of_changes {outcome : (Ambient → State) → Prop} {operation : Operation}
    (settled : Settled state outcome fun ambient =>
      apply limits ⟨operation, ambient⟩ state)
    (changes : Changes limits state operation) :
    ∃ result, outcome result ∧ ∀ ambient, step limits state ⟨operation, ambient⟩ =
      result ambient := by
  rcases settled with idle | ⟨result, reached, accepted⟩
  · obtain ⟨ambient, changed⟩ := changes
    cases attempt : apply limits ⟨operation, ambient⟩ state with
    | ok next =>
        obtain rfl := idle ambient next attempt
        exact absurd (step_of_apply_ok attempt) changed
    | error error => exact absurd (step_of_apply_error attempt) changed
  · exact ⟨result, reached, fun ambient => step_of_apply_ok (accepted ambient)⟩

/-- An insert logs the submitted record, an update what the move left behind. -/
inductive DeviceOutcome (limits : Limits) (state : State) (device : DeviceRecord) :
    (Ambient → State) → Prop where
  | inserted (fresh : state.devices.find? device.id = none) :
      DeviceOutcome limits state device fun ambient =>
        commit limits
          (makeObservation ambient "device" device.id device.id device.evidence
            ("device " ++ device.logicalName))
          { state with devices := state.devices.emplace device.id device }
  | replaced (current : DeviceRecord)
      (found : state.devices.find? device.id = some current)
      (newer : current.generation < device.generation) :
      DeviceOutcome limits state device fun ambient =>
        commit limits
          (makeObservation ambient "device" device.id device.id
            (movedEvidence ambient device.evidence)
              ("device " ++ ambient.movedFrom.label))
          { state with devices := state.devices.assign device.id device }

theorem settled_upsertDevice (limits : Limits) (state : State) (device : DeviceRecord) :
    Settled state (DeviceOutcome limits state device) fun ambient =>
      upsertDevice limits ambient device state := by
  unfold upsertDevice
  refine .guard fun _ => ?_
  cases found : state.devices.find? device.id with
  | none =>
      simp only
      exact .guard fun _ => .inr ⟨_, .inserted found, fun _ => rfl⟩
  | some current =>
      simp only
      exact .versioned fun newer => .inr ⟨_, .replaced current found newer, fun _ => rfl⟩

/-- The same for links. -/
inductive LinkOutcome (limits : Limits) (state : State) (link : LinkRecord) :
    (Ambient → State) → Prop where
  | inserted (fresh : state.links.find? link.id = none) :
      LinkOutcome limits state link fun ambient =>
        commit limits
          (makeObservation ambient "link" link.source link.target link.evidence
            ("link " ++ link.physicalIdentifier))
          { state with links := state.links.emplace link.id link }
  | replaced (current : LinkRecord) (found : state.links.find? link.id = some current)
      (newer : current.generation < link.generation) :
      LinkOutcome limits state link fun ambient =>
        commit limits
          (makeObservation ambient "link" link.source link.target
            (movedEvidence ambient link.evidence) ("link " ++ ambient.movedFrom.label))
          { state with links := state.links.assign link.id link }

theorem settled_upsertLink (limits : Limits) (state : State) (link : LinkRecord) :
    Settled state (LinkOutcome limits state link) fun ambient =>
      upsertLink limits ambient link state := by
  unfold upsertLink
  refine .guard fun _ => .guard fun _ => .guard fun _ => .guard fun _ => .guard fun _ =>
    .guard fun _ => ?_
  cases found : state.links.find? link.id with
  | none => exact .inr ⟨_, .inserted found, fun _ => rfl⟩
  | some current =>
      simp only
      exact .versioned fun newer => .inr ⟨_, .replaced current found newer, fun _ => rfl⟩

/-- The entry of a submitted device. -/
def ReportsDevice (device : DeviceRecord) : Observation → Prop :=
  Reports device.evidence ("device " ++ device.logicalName) device.id device.id

/-- The entry of a submitted link. -/
def ReportsLink (link : LinkRecord) : Observation → Prop :=
  Reports link.evidence ("link " ++ link.physicalIdentifier) link.source link.target

theorem logs_upsertDevice_iff {device : DeviceRecord}
    (changes : Changes limits state (.upsertDevice device)) :
    Logs limits state (.upsertDevice device) (ReportsDevice device) ↔
      state.devices.find? device.id = none ∨ DropsEntries limits state.observations := by
  obtain ⟨result, outcome, steps⟩ :=
    (settled_upsertDevice limits state device).of_changes changes
  cases outcome with
  | inserted fresh =>
      simp only [fresh, true_or, iff_true]
      exact logs_of_commit steps fun _ => ⟨rfl, rfl, rfl, rfl⟩
  | replaced current found newer =>
      simp only [found, reduceCtorEq, false_or]
      refine logs_moved_iff steps (fun ambient same => ?_) rfl
      have stored : state.devices.find? device.id = some device := by
        rw [← same, steps, commit_devices, ← FiniteMap.set_of_find?_eq_some found,
          FiniteMap.find?_set_self]
      obtain rfl := Option.some.inj (found.symm.trans stored)
      exact lt_irrefl _ newer

theorem logs_upsertLink_iff {link : LinkRecord}
    (changes : Changes limits state (.upsertLink link)) :
    Logs limits state (.upsertLink link) (ReportsLink link) ↔
      state.links.find? link.id = none ∨ DropsEntries limits state.observations := by
  obtain ⟨result, outcome, steps⟩ :=
    (settled_upsertLink limits state link).of_changes changes
  cases outcome with
  | inserted fresh =>
      simp only [fresh, true_or, iff_true]
      exact logs_of_commit steps fun _ => ⟨rfl, rfl, rfl, rfl⟩
  | replaced current found newer =>
      simp only [found, reduceCtorEq, false_or]
      refine logs_moved_iff steps (fun ambient same => ?_) rfl
      have stored : (step limits state ⟨.upsertLink link, ambient⟩).links.find? link.id =
          some (stamp state.topologyGen.next link) := by
        rw [steps, commit_links, FiniteMap.find?_mapValues,
          ← FiniteMap.set_of_find?_eq_some found, FiniteMap.find?_set_self]
        rfl
      rw [same] at stored
      obtain rfl := Option.some.inj (found.symm.trans stored)
      exact lt_irrefl _ newer

/-- An upsert that changes the registry logs what was submitted exactly if it inserts a
new identity, or the log drops the entry at once. -/
theorem upserts_logged_iff (limits : Limits) (state : State) :
    (∀ device : DeviceRecord, Changes limits state (.upsertDevice device) →
      (Logs limits state (.upsertDevice device) (ReportsDevice device) ↔
        state.devices.find? device.id = none ∨ DropsEntries limits state.observations)) ∧
    ∀ link : LinkRecord, Changes limits state (.upsertLink link) →
      (Logs limits state (.upsertLink link) (ReportsLink link) ↔
        state.links.find? link.id = none ∨ DropsEntries limits state.observations) := by
  constructor
  · intro device changes
    exact logs_upsertDevice_iff changes
  · intro link changes
    exact logs_upsertLink_iff changes

/-- The second incarnation of a worker replaces the device of the first. -/
theorem upserts_logged_republished :
    Logs {} Worker.published (.upsertDevice (Worker.sourceDevice ⟨2⟩))
        (ReportsDevice (Worker.sourceDevice ⟨2⟩)) ↔
      Worker.published.devices.find? (Worker.sourceDevice ⟨2⟩).id = none ∨
        DropsEntries {} Worker.published.observations :=
  (upserts_logged_iff {} Worker.published).1 (Worker.sourceDevice ⟨2⟩)
    ⟨{}, by decide +kernel⟩

/-- Its log entry is written from the strings that the move left behind. -/
theorem upsert_logged_moved :
    ¬∀ limits state, Reachable limits state →
      (∀ device, Logs limits state (.upsertDevice device) (ReportsDevice device)) ∧
        ∀ link, Logs limits state (.upsertLink link) (ReportsLink link) := by
  intro logged
  have logs := (logged {} Worker.published ⟨Worker.publication ⟨1⟩, rfl⟩).1
    (Worker.sourceDevice ⟨2⟩)
  have changes : Changes {} Worker.published (.upsertDevice (Worker.sourceDevice ⟨2⟩)) :=
    ⟨{}, by decide +kernel⟩
  rcases (logs_upsertDevice_iff changes).mp logs with fresh | ⟨bound, -⟩
  · revert fresh
    decide +kernel
  · exact absurd bound (by decide)

end NvlinkFabric.Registry

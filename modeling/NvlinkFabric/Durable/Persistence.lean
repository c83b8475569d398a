import NvlinkFabric.Durable.ArgumentOrder
import NvlinkFabric.Registry.Restore

/-!
# Saving and loading the durable state

A save writes a temporary file and renames it over the target.  The outcome of
each file operation is an argument; a successful rename replaces the target at
once, and a read returns the bytes that were written.

Neither the registry nor `save_durable_state` applies the bounds of the decoder,
so a save can succeed and leave a file that no load accepts.  Within the bounds a load
returns everything but what the argument order does to the timestamps.
-/

namespace NvlinkFabric.Durable

open Wire ByteReader Registry

/-- File contents by path. -/
abbrev Disk := Text → Option (List UInt8)

/-- How the file operations of a save end. -/
inductive SaveOutcome where
  | notOpened
  | writeFailed (written : List UInt8)
  | replaceFailed
  | replaced
  deriving DecidableEq

/-- How the file operations of a load end, once the file exists. -/
inductive LoadOutcome where
  | sizeUnknown
  | readFailed
  | complete
  deriving DecidableEq

/-- `atomic_replace` when it succeeds. -/
def atomicReplace (target tmp : Text) (disk : Disk) : Disk :=
  Function.update (Function.update disk tmp none) target (disk tmp)

/-- `save_durable_state`. -/
def saveDurableState (state : DurableState) (path : Text) (limits : Limits)
    (outcome : SaveOutcome) (disk : Disk) : Result Unit × Disk :=
  match serializeDurableState state with
  | .error error => (.error error, disk)
  | .ok serialized =>
      if serialized.bytes.length > limits.maxPersistedStateBytes then
        (err .resourceLimit "durable state exceeds size bound", disk)
      else
        let tmp : Text := path ++ ".tmp"
        let written := Function.update disk tmp (some serialized.bytes)
        match outcome with
        | .notOpened => (err .backendError "cannot open temp state file", disk)
        | .writeFailed partialBytes =>
            (err .backendError "failed writing temp state file",
              Function.update disk tmp (some partialBytes))
        | .replaceFailed =>
            (err .backendError "atomic replace of state file failed",
              Function.update written tmp none)
        | .replaced => (.ok (), atomicReplace path tmp written)

/-- `load_durable_state`. -/
def loadDurableState (order : EvaluationOrder) (path : Text) (limits : Limits)
    (outcome : LoadOutcome) (disk : Disk) : Result DurableState :=
  match disk path with
  | none => err .notFound "state file not found"
  | some bytes =>
      if outcome = .sizeUnknown then
        err .backendError "cannot read state file size"
      else if bytes.length > limits.maxPersistedStateBytes then
        err .resourceLimit "state file exceeds size bound"
      else if outcome = .readFailed then
        err .backendError "failed reading state file"
      else deserializeDurableState order { bytes := bytes }

variable {state : DurableState} {path : Text} {limits : Limits} {outcome : SaveOutcome}
variable {disk : Disk}

/-- A save succeeds exactly if the file is within the limits and every file
operation succeeds. -/
theorem save_ok_iff :
    (saveDurableState state path limits outcome disk).1 = .ok () ↔
      (serializedFile state).bytes.length ≤ limits.maxPersistedStateBytes ∧
        outcome = .replaced := by
  simp only [saveDurableState, serializeDurableState]
  split
  next large => simpa using fun small => absurd small (Nat.not_le.mpr large)
  next small =>
    cases outcome <;> simp [Nat.not_lt.mp small]

/-- After a successful save the target holds the encoded state. -/
theorem saved_file (ok : (saveDurableState state path limits outcome disk).1 = .ok ()) :
    (saveDurableState state path limits outcome disk).2 path =
      some (serializedFile state).bytes := by
  obtain ⟨small, rfl⟩ := save_ok_iff.mp ok
  simp [saveDurableState, serializeDurableState, Nat.not_lt.mpr small, atomicReplace]

/-- Loading right after a successful save decodes the encoded state. -/
theorem load_saved (ok : (saveDurableState state path limits outcome disk).1 = .ok ())
    (order : EvaluationOrder) :
    loadDurableState order path limits .complete
        (saveDurableState state path limits outcome disk).2 =
      deserializeDurableState order (serializedFile state) := by
  have small := (save_ok_iff.mp ok).1
  simp only [loadDurableState, saved_file ok, reduceCtorEq, if_false,
    gt_iff_lt, Nat.not_lt.mpr small]
  rfl

/-- The loaded state agrees with the saved one on everything that is encoded. -/
structure SameContent (loaded saved : DurableState) : Prop where
  topologyGeneration : loaded.topologyGeneration = saved.topologyGeneration
  savedAt : loaded.savedAt = saved.savedAt
  devices : loaded.devices = saved.devices
  links : loaded.links = saved.links

theorem sameContent_recovered_iff (state : DurableState) (order : EvaluationOrder) :
    SameContent (recoveredState order state) state ↔
      recoveredTimestamp order.savedAt state.savedAt = state.savedAt ∧
        ∀ link ∈ state.links,
          recoveredTimestamp order.lastObservation link.lastObservation =
            link.lastObservation := by
  have links : state.links.map (recoveredLink order.lastObservation) =
      state.links.map id ↔
      ∀ link ∈ state.links,
        recoveredTimestamp order.lastObservation link.lastObservation =
          link.lastObservation := by
    rw [List.map_inj_left]
    refine forall₂_congr fun link _ => ?_
    constructor
    · exact fun same => congrArg LinkRecord.lastObservation same
    · intro same
      rw [recoveredLink, same]
      rfl
  constructor
  · rintro ⟨-, savedAt, -, same⟩
    exact ⟨savedAt, links.mp (same.trans (List.map_id _).symm)⟩
  · rintro ⟨savedAt, observed⟩
    exact ⟨rfl, savedAt, rfl, (links.mpr observed).trans (List.map_id _)⟩

/-- A load returns what was saved exactly if it is within the bounds and its timestamps
survive the argument order. -/
theorem load_saved_iff (ok : (saveDurableState state path limits outcome disk).1 = .ok ())
    (order : EvaluationOrder) :
    (∃ loaded, loadDurableState order path limits .complete
        (saveDurableState state path limits outcome disk).2 = .ok loaded ∧
      SameContent loaded state) ↔
      Decodable state ∧ (order.savedAt = .leftToRight ∨ Uniform state.savedAt) ∧
        (order.lastObservation = .leftToRight ∨
          ∀ link ∈ state.links, Uniform link.lastObservation) := by
  have timestamps := sameContent_recovered_iff state order
  simp only [recoveredTimestamp_iff, forall_or_left] at timestamps
  rw [load_saved ok, ← timestamps]
  constructor
  · rintro ⟨loaded, accepted, same⟩
    have bounded := decodable_of_deserialize accepted
    rw [Decodable, same.devices, same.links] at bounded
    rw [deserialize_recovered order bounded] at accepted
    obtain rfl := Except.ok.inj accepted
    exact ⟨bounded, same⟩
  · rintro ⟨decodable, same⟩
    exact ⟨_, deserialize_recovered order decodable, same⟩

/-- The records of a registry are within the bounds of the decoder. -/
def Persistable (state : State) : Prop :=
  (∀ entry ∈ state.devices.entries, ∀ text ∈ entry.2.texts, text.length ≤ 4096) ∧
    (∀ entry ∈ state.links.entries, ∀ text ∈ entry.2.texts, text.length ≤ 4096) ∧
    state.devices.size ≤ 256 ∧ state.links.size ≤ 1024

instance (state : State) : Decidable (Persistable state) :=
  inferInstanceAs (Decidable (_ ∧ _ ∧ _ ∧ _))

theorem decodable_capture_iff (ambient : Ambient) (state : State) :
    Decodable (captureDurableState ambient state) ↔ Persistable state := by
  have devices := captured_devices_perm ambient state
  have links := captured_links_perm ambient state
  simp only [Decodable, Persistable, Short, devices.mem_iff, links.mem_iff,
    devices.length_eq, links.length_eq, FiniteMap.values, List.forall_mem_map,
    List.length_map, FiniteMap.size]

/-- After a successful save of a registry's state, a load returns it exactly if its
records are within the bounds of the decoder and each timestamp is read from left to
right or is uniform. -/
theorem saved_registry_loads_iff (order : EvaluationOrder) (limits : Limits)
    (state : State) (ambient : Ambient) (path : Text)
    (outcome : SaveOutcome) (disk : Disk)
    (ok : (saveDurableState (captureDurableState ambient state) path limits
      outcome disk).1 =
      .ok ()) :
    (∃ loaded, loadDurableState order path limits .complete
        (saveDurableState (captureDurableState ambient state) path limits
          outcome disk).2 =
          .ok loaded ∧
      SameContent loaded (captureDurableState ambient state)) ↔
      Persistable state ∧ (order.savedAt = .leftToRight ∨ Uniform ambient.now) ∧
        (order.lastObservation = .leftToRight ∨
          ∀ entry ∈ state.links.entries, Uniform entry.2.lastObservation) := by
  have links : (∀ link ∈ (captureDurableState ambient state).links,
      Uniform link.lastObservation) ↔
        ∀ entry ∈ state.links.entries, Uniform entry.2.lastObservation := by
    simp only [(captured_links_perm ambient state).mem_iff, FiniteMap.values,
      List.forall_mem_map]
  rw [load_saved_iff ok, decodable_capture_iff, links]
  rfl

/-- A link of the source, observed at the beginning of time, saved a second later. -/
theorem published_registry_loads :
    ∃ loaded, loadDurableState ⟨.leftToRight, .rightToLeft⟩ "state" {} .complete
        (saveDurableState
          (captureDurableState { now := { unixNs := 1000000000, valid := true } }
            Worker.published) "state" {} .replaced fun _ => none).2 = .ok loaded ∧
      SameContent loaded
        (captureDurableState { now := { unixNs := 1000000000, valid := true } }
          Worker.published) :=
  (saved_registry_loads_iff ⟨.leftToRight, .rightToLeft⟩ {} Worker.published
    { now := { unixNs := 1000000000, valid := true } } "state" .replaced (fun _ => none)
    (save_ok_iff.mpr ⟨by decide +kernel, rfl⟩)).mpr
      ⟨by decide +kernel, .inl rfl, .inr (by decide +kernel)⟩

/-- A device whose name is one byte longer than the decoder admits. -/
def longNamed : DeviceRecord :=
  { Worker.sourceDevice ⟨1⟩ with logicalName := List.replicate 4097 97 }

/-- A registry that accepted the long name. -/
def longNamedState : State := step {} .initial ⟨.upsertDevice longNamed, {}⟩

theorem saved_long_name_not_loaded :
    Reachable {} longNamedState ∧
      (saveDurableState (captureDurableState {} longNamedState) "state" {} .replaced
        fun _ => none).1 = .ok () ∧
      ∀ order, ¬∃ loaded, loadDurableState order "state" {} .complete
          (saveDurableState (captureDurableState {} longNamedState) "state" {} .replaced
            fun _ => none).2 = .ok loaded ∧
        SameContent loaded (captureDurableState {} longNamedState) := by
  have saved :
      (saveDurableState (captureDurableState {} longNamedState) "state" {} .replaced
      fun _ => none).1 = .ok () := save_ok_iff.mpr ⟨by decide +kernel, rfl⟩
  refine ⟨⟨[⟨.upsertDevice longNamed, {}⟩], rfl⟩, saved, fun order => ?_⟩
  rw [load_saved_iff saved, decodable_capture_iff]
  have long : ¬Persistable longNamedState := by decide +kernel
  exact fun loads => long loads.1

end NvlinkFabric.Durable

import NvlinkFabric.Durable.Persistence
import NvlinkFabric.Route.FailClosed
import NvlinkFabric.Route.UsableRoutes

/-!
# Crashes

A save is a sequence of operations on the file system: truncate the temporary
file, write it in pieces of any size, rename it over the target.  The process can
die after any of them, and each can fail.  The target changes at the rename only,
so a load finds the last state whose rename was reached, whole.

A process that restarts from the file knows every record of that state, and no
route regains authority before the links it uses were confirmed again.
-/

namespace NvlinkFabric.Durable

open Transition Registry

/-- One operation on the file system, once it succeeds. -/
inductive FileOperation where
  | truncate (file : Text)
  | append (file : Text) (bytes : List UInt8)
  | rename (target tmp : Text)
  | remove (file : Text)
  deriving DecidableEq

def FileOperation.perform (disk : Disk) : FileOperation → Disk
  | .truncate file => Function.update disk file (some [])
  | .append file bytes => Function.update disk file (some ((disk file).getD [] ++ bytes))
  | .rename target tmp => atomicReplace target tmp disk
  | .remove file => Function.update disk file none

/-- The disk after a sequence of operations. -/
abbrev performAll (disk : Disk) (operations : List FileOperation) : Disk :=
  Transition.run FileOperation.perform disk operations

/-- The pieces in which a stream writes its bytes. -/
def pieces : List Nat → List UInt8 → List (List UInt8)
  | [], bytes => [bytes]
  | size :: sizes, bytes => bytes.take size :: pieces sizes (bytes.drop size)

theorem flatten_pieces (sizes : List Nat) (bytes : List UInt8) :
    (pieces sizes bytes).flatten = bytes := by
  induction sizes generalizing bytes with
  | nil => simp [pieces]
  | cons size sizes ih => simp [pieces, ih]

/-- The name of the temporary file. -/
def tmpOf (path : Text) : Text := path ++ (".tmp" : Text)

theorem tmpOf_ne (path : Text) : tmpOf path ≠ path := by
  intro same
  have length := congrArg List.length same
  have longer : (".tmp" : Text).length = 4 := by decide
  rw [tmpOf, List.length_append, longer] at length
  omega

/-- The operations that write the temporary file. -/
def writeOperations (path : Text) (sizes : List Nat) (bytes : List UInt8) :
    List FileOperation :=
  .truncate (tmpOf path) :: (pieces sizes bytes).map (.append (tmpOf path))

/-- The operations of a save that succeeds. -/
def saveOperations (path : Text) (sizes : List Nat) (bytes : List UInt8) :
    List FileOperation :=
  writeOperations path sizes bytes ++ [.rename path (tmpOf path)]

/-- How a save ends.  A crash and a failed write come after some of its operations. -/
inductive SaveEnd where
  | crashed (reached : Nat)
  | writeFailed (reached : Nat)
  | replaceFailed
  | replaced
  deriving DecidableEq

/-- The operations that were performed. -/
def SaveEnd.performed (path : Text) (sizes : List Nat) (bytes : List UInt8) :
    SaveEnd → List FileOperation
  | .crashed reached => (saveOperations path sizes bytes).take reached
  | .writeFailed reached => (writeOperations path sizes bytes).take reached
  | .replaceFailed => writeOperations path sizes bytes ++ [.remove (tmpOf path)]
  | .replaced => saveOperations path sizes bytes

/-- The rename was reached. -/
def SaveEnd.renames (path : Text) (sizes : List Nat) (bytes : List UInt8) : SaveEnd → Bool
  | .crashed reached => (saveOperations path sizes bytes).length ≤ reached
  | .writeFailed _ | .replaceFailed => false
  | .replaced => true

section Files

variable {path file : Text} {sizes : List Nat} {bytes : List UInt8} {disk : Disk}

theorem performAll_concat (operations : List FileOperation) (last : FileOperation) :
    performAll disk (operations ++ [last]) =
      FileOperation.perform (performAll disk operations) last :=
  run_append _ _ _ _

/-- Writing piece by piece appends all bytes. -/
theorem performAll_append (written : List UInt8) (pieces : List (List UInt8)) :
    performAll (Function.update disk file (some written)) (pieces.map (.append file)) =
      Function.update disk file (some (written ++ pieces.flatten)) := by
  induction pieces generalizing written with
  | nil => simp [performAll]
  | cons piece pieces ih =>
      have first : FileOperation.perform (Function.update disk file (some written))
          (.append file piece) = Function.update disk file (some (written ++ piece)) := by
        simp [FileOperation.perform]
      rw [List.map_cons, performAll, run_cons, first, ← performAll, ih]
      simp

theorem performAll_truncate (pieces : List (List UInt8)) :
    performAll disk (.truncate file :: pieces.map (.append file)) =
      Function.update disk file (some pieces.flatten) :=
  performAll_append [] pieces

theorem performAll_write : performAll disk (writeOperations path sizes bytes) =
    Function.update disk (tmpOf path) (some bytes) := by
  rw [writeOperations, performAll_truncate, flatten_pieces]

/-- A write that is cut short leaves a part of the file. -/
theorem performAll_write_take (reached : Nat) :
    performAll disk ((writeOperations path sizes bytes).take (reached + 1)) =
      Function.update disk (tmpOf path)
        (some ((pieces sizes bytes).take reached).flatten) := by
  rw [writeOperations, List.take_succ_cons, ← List.map_take, performAll_truncate]

theorem performAll_save : performAll disk (saveOperations path sizes bytes) =
    atomicReplace path (tmpOf path) (Function.update disk (tmpOf path) (some bytes)) := by
  rw [saveOperations, performAll_concat, performAll_write]
  rfl

/-- However a save ends, it touches its target and its temporary file only; the target
holds all of its bytes if the rename was reached, and what it held before if not. -/
theorem performed_at (ending : SaveEnd) (notTmp : file ≠ tmpOf path) :
    performAll disk (ending.performed path sizes bytes) file =
      if file = path ∧ ending.renames path sizes bytes = true then some bytes
      else disk file := by
  have cut (reached : Nat) :
      performAll disk ((writeOperations path sizes bytes).take reached) file =
        disk file := by
    cases reached with
    | zero => rfl
    | succ reached => rw [performAll_write_take, Function.update_of_ne notTmp]
  have complete : performAll disk (saveOperations path sizes bytes) file =
      if file = path then some bytes else disk file := by
    rw [performAll_save, atomicReplace]
    by_cases target : file = path
    · subst target
      simp
    · simp [target, notTmp]
  cases ending with
  | replaced => simpa [SaveEnd.performed, SaveEnd.renames] using complete
  | replaceFailed =>
      rw [SaveEnd.performed, performAll_concat, performAll_write]
      simp [FileOperation.perform, SaveEnd.renames, notTmp]
  | writeFailed reached => simpa [SaveEnd.performed, SaveEnd.renames] using cut reached
  | crashed reached =>
      simp only [SaveEnd.performed, SaveEnd.renames, decide_eq_true_eq]
      by_cases whole : (saveOperations path sizes bytes).length ≤ reached
      · rw [List.take_of_length_le whole, complete]
        simp [whole]
      · -- The rename is the last operation.
        have early : reached ≤ (writeOperations path sizes bytes).length := by
          simp only [saveOperations, List.length_append, List.length_singleton] at whole
          omega
        rw [saveOperations, List.take_append_of_le_length early, cut]
        rw [if_neg fun both => whole both.2]

end Files

/-- The outcome that `save_durable_state` sees, unless the process dies. -/
def SaveEnd.outcome (sizes : List Nat) (bytes : List UInt8) : SaveEnd → Option SaveOutcome
  | .crashed _ => none
  | .writeFailed 0 => some .notOpened
  | .writeFailed (reached + 1) =>
      some (.writeFailed ((pieces sizes bytes).take reached).flatten)
  | .replaceFailed => some .replaceFailed
  | .replaced => some .replaced

/-- Operation by operation, a save does what `save_durable_state` does. -/
theorem save_eq_performed {state : DurableState} {path : Text} {limits : Limits}
    {sizes : List Nat} {ending : SaveEnd} {outcome : SaveOutcome} (disk : Disk)
    (small : (serializedFile state).bytes.length ≤ limits.maxPersistedStateBytes)
    (ends : ending.outcome sizes (serializedFile state).bytes = some outcome) :
    (saveDurableState state path limits outcome disk).2 =
      performAll disk (ending.performed path sizes (serializedFile state).bytes) := by
  have fits : ¬(serializedFile state).bytes.length > limits.maxPersistedStateBytes :=
    Nat.not_lt.mpr small
  simp only [saveDurableState, serializeDurableState, if_neg fits]
  cases ending with
  | crashed reached => cases ends
  | writeFailed reached =>
      cases reached with
      | zero =>
          cases ends
          rfl
      | succ reached =>
          cases ends
          exact (performAll_write_take reached).symm
  | replaceFailed =>
      cases ends
      rw [SaveEnd.performed, performAll_concat, performAll_write]
      rfl
  | replaced =>
      cases ends
      exact performAll_save.symm

/-! ## Processes -/

/-- A registry and the disk it is saved to.  `saved` is a ghost: what the last save
whose rename was reached had captured, and when. -/
structure Process where
  registry : State
  disk : Disk
  saved : Option (Ambient × State) := none

/-- What `load_durable_state` and `restore_durable_state` make of a disk. -/
def restart (order : EvaluationOrder) (limits : Limits) (path : Text) (ambient : Ambient)
    (disk : Disk) : Result State := do
  let durable ← loadDurableState order path limits .complete disk
  restoreDurableState limits ambient durable .initial

/-- What happens to a process: a call on its registry, a save that may be cut short, or
the start of a new process on the same disk, which reads it in an order of its own. -/
inductive Action where
  | call (call : Call)
  | save (ambient : Ambient) (sizes : List Nat) (ending : SaveEnd)
  | restart (order : EvaluationOrder) (ambient : Ambient)

def Process.step (limits : Limits) (path : Text) (process : Process) : Action → Process
  | .call call => { process with registry := Registry.step limits process.registry call }
  | .save ambient sizes ending =>
      let bytes := (serializedFile (captureDurableState ambient process.registry)).bytes
      if bytes.length > limits.maxPersistedStateBytes then process
      else
        { process with
          disk := performAll process.disk (ending.performed path sizes bytes)
          saved :=
            if ending.renames path sizes bytes then some (ambient, process.registry)
            else process.saved }
  | .restart order ambient =>
      { process with
        registry :=
          match Durable.restart order limits path ambient process.disk with
          | .ok restored => restored
          | .error _ => .initial }

/-- A new process on a disk, after some actions. -/
def Process.run (limits : Limits) (path : Text) (disk : Disk) (actions : List Action) :
    Process :=
  Transition.run (Process.step limits path) { registry := .initial, disk := disk } actions

/-- The file of the last save that was completed, or the one found at the beginning. -/
def expectedFile (path : Text) (disk : Disk) (process : Process) : Option (List UInt8) :=
  match process.saved with
  | none => disk path
  | some (ambient, state) =>
      some (serializedFile (captureDurableState ambient state)).bytes

/-- Registries are reachable, and the target file is whole. -/
structure Recoverable (limits : Limits) (path : Text) (disk : Disk) (process : Process) :
    Prop where
  reachable : Reachable limits process.registry
  saved : ∀ ambient state, process.saved = some (ambient, state) →
    Reachable limits state ∧
    (serializedFile (captureDurableState ambient state)).bytes.length ≤
      limits.maxPersistedStateBytes
  target : process.disk path = expectedFile path disk process
  others : ∀ file, file ≠ path → file ≠ tmpOf path → process.disk file = disk file

theorem Recoverable.step {limits : Limits} {path : Text} {disk : Disk} {process : Process}
    (recoverable : Recoverable limits path disk process) (action : Action) :
    Recoverable limits path disk (process.step limits path action) := by
  cases action with
  | call call =>
      exact ⟨recoverable.reachable.next call, recoverable.saved, recoverable.target,
        recoverable.others⟩
  | restart order ambient =>
      refine ⟨?_, recoverable.saved, recoverable.target, recoverable.others⟩
      simp only [Process.step]
      split
      next restored ok =>
        obtain ⟨durable, -, restoredOk⟩ := bind_ok.mp ok
        exact ⟨[⟨.restoreDurableState durable, ambient⟩], step_of_apply_ok restoredOk⟩
      next => exact Reachable.refl (Registry.step limits) State.initial
  | save ambient sizes ending =>
      simp only [Process.step]
      split
      next => exact recoverable
      next small =>
        have others (file : Text) (notTmp : file ≠ tmpOf path) :
            performAll process.disk
                (ending.performed path sizes
                  (serializedFile (captureDurableState ambient process.registry)).bytes)
                file =
              if file = path ∧
                  ending.renames path sizes
                    (serializedFile
                      (captureDurableState ambient process.registry)).bytes = true then
                some (serializedFile (captureDurableState ambient process.registry)).bytes
              else process.disk file := performed_at ending notTmp
        refine ⟨recoverable.reachable, ?_, ?_, ?_⟩
        · intro when state saved
          simp only at saved
          split at saved
          next =>
            obtain ⟨rfl, rfl⟩ := Prod.mk.inj (Option.some.inj saved)
            exact ⟨recoverable.reachable, Nat.not_lt.mp small⟩
          next => exact recoverable.saved when state saved
        · refine (others path (tmpOf_ne path).symm).trans ?_
          simp only [expectedFile, true_and]
          split
          next reached => rfl
          next notReached => exact recoverable.target
        · intro file notTarget notTmp
          refine (others file notTmp).trans ?_
          rw [if_neg fun both => notTarget both.1]
          exact recoverable.others file notTarget notTmp

theorem recoverable_run (limits : Limits) (path : Text) (disk : Disk)
    (actions : List Action) :
    Recoverable limits path disk (Process.run limits path disk actions) :=
  invariant_run (fun _ action recoverable => recoverable.step action)
    ⟨Reachable.refl _ _, nofun, rfl, fun _ _ _ => rfl⟩ actions

/-- Wherever processes died and whatever failed, a load decodes the file of the last state
whose rename was reached, or the one that was there at the beginning; no other file is
touched but the temporary one. -/
theorem saves_survive_crashes (limits : Limits) (path : Text) (disk : Disk)
    (actions : List Action) (order : EvaluationOrder) :
    loadDurableState order path limits .complete
        (Process.run limits path disk actions).disk =
      (match (Process.run limits path disk actions).saved with
        | none => loadDurableState order path limits .complete disk
        | some (ambient, state) =>
            deserializeDurableState order
              (serializedFile (captureDurableState ambient state))) ∧
      ∀ file, file ≠ path → file ≠ tmpOf path →
        (Process.run limits path disk actions).disk file = disk file := by
  have recoverable := recoverable_run limits path disk actions
  generalize Process.run limits path disk actions = process at recoverable ⊢
  refine ⟨?_, recoverable.others⟩
  have target := recoverable.target
  rw [expectedFile] at target
  rw [loadDurableState, target]
  cases saved : process.saved with
  | none => rfl
  | some capture =>
      have small := (recoverable.saved capture.1 capture.2 saved).2
      simp only [reduceCtorEq, if_false, gt_iff_lt, Nat.not_lt.mpr small]
      rfl

/-- What a restart makes of a saved link that was read in some argument order. -/
def restartedLink (order : ArgumentOrder) (generation : TopologyGeneration)
    (link : LinkRecord) : LinkRecord :=
  stamp generation
    (requireLinkRevalidation "revalidation required after durable-state restore"
      (recoveredLink order link))

theorem restartedLink_eq_iff (order : ArgumentOrder) (generation : TopologyGeneration)
    (link : LinkRecord) :
    restartedLink order generation link = restartedLink .leftToRight generation link ↔
      order = .leftToRight ∨ Uniform link.lastObservation := by
  rw [← recoveredTimestamp_iff]
  constructor
  · exact fun same => congrArg LinkRecord.lastObservation same
  · intro same
    rw [restartedLink, recoveredLink, same]
    rfl

/-- A process that starts on the file of a completed save has every record of the saved
registry and a newer generation, up to what the argument order does to the observation
times of links.  Whatever happens to it afterwards, no route is executable over a link
that was not confirmed since the restart. -/
theorem restart_fails_closed (ranking : Ranking) (order : EvaluationOrder)
    (limits : Limits) (path : Text) (disk : Disk) (actions : List Action)
    (ambient : Ambient) (state : State)
    (saved : (Process.run limits path disk actions).saved = some (ambient, state))
    (persistable : Persistable state) (unwrapped : Unwrapped state)
    (below : state.topologyGen ≠ .last) (later : Ambient) :
    ∃ restored,
      restart order limits path later (Process.run limits path disk actions).disk =
        .ok restored ∧
      (∀ id, restored.devices.find? id =
        (state.devices.find? id).map requireOwnedRevalidation) ∧
      (∀ id, restored.links.find? id =
        (state.links.find? id).map
          (restartedLink order.lastObservation restored.topologyGen)) ∧
      (∀ id link, state.links.find? id = some link →
        (restored.links.find? id =
            some (restartedLink .leftToRight restored.topologyGen link) ↔
          order.lastObservation = .leftToRight ∨ Uniform link.lastObservation)) ∧
      state.topologyGen < restored.topologyGen ∧
      ∀ calls when source target policy decision,
        decideRouteBy ranking limits when source target policy
            (Registry.run limits restored calls) = .ok decision →
          decision.executable = true →
            ∃ best,
              winner ranking limits policy (Registry.run limits restored calls) source
                target = some best ∧
              decision.selected = some best.path.id ∧
              ∀ id ∈ best.path.links, ConfirmedSince limits restored calls id := by
  have recoverable := recoverable_run limits path disk actions
  obtain ⟨reachable, small⟩ := recoverable.saved ambient state saved
  have tables := (consistent_of_reachable reachable).tables
  let durable := recoveredState order (captureDurableState ambient state)
  have loaded : loadDurableState order path limits .complete
      (Process.run limits path disk actions).disk = .ok durable := by
    have target := recoverable.target
    rw [expectedFile, saved] at target
    simp only [loadDurableState, target, reduceCtorEq, if_false, gt_iff_lt,
      Nat.not_lt.mpr small]
    exact deserialize_recovered order
      ((decodable_capture_iff ambient state).mpr persistable)
  obtain ⟨restored, ok⟩ : ∃ restored, restoreDurableState limits later durable .initial =
      .ok restored :=
    restore_observed_ok ambient tables unwrapped _
      (fun link => recoveredTimestamp order.lastObservation link.lastObservation)
        later .initial
  obtain ⟨deviceOf, linkOf⟩ := find?_of_restore ok
  have applied : apply limits ⟨.restoreDurableState durable, later⟩ .initial =
      .ok restored := ok
  have started := step_of_apply_ok applied
  have lost : losesAuthority limits .initial ⟨.restoreDurableState durable,
      later⟩ = true :=
    accepted_of_ok applied
  have links (id : LinkId) : restored.links.find? id = (state.links.find? id).map
      (restartedLink order.lastObservation restored.topologyGen) := by
    have recovered : durable.links.find? (·.id = id) =
        (state.links.find? id).map (recoveredLink order.lastObservation) := by
      rw [← find?_captured_link tables]
      exact List.find?_map ..
    rw [linkOf, recovered, Option.map_map]
    rfl
  refine ⟨restored, bind_ok.mpr ⟨_, loaded, ok⟩, ?_, links, ?_, ?_, ?_⟩
  · intro id
    have captured : durable.devices = (captureDurableState ambient state).devices := rfl
    rw [deviceOf, captured, find?_captured_device tables]
  · intro id link stored
    rw [links, stored, Option.map_some, Option.some.injEq, restartedLink_eq_iff]
  · obtain ⟨-, devices, links, observation, -, -, rfl⟩ := restoreDurableState_ok ok
    exact (lt_next_resumed below (by decide)).1
  · intro calls when source target policy decision decided executable
    have restoredReachable : Reachable limits restored := ⟨[_], started⟩
    have coherent := (consistent_of_reachable (restoredReachable.trans_run calls)).tables
    obtain ⟨best, front, chosen, usable⟩ := winner_of_executable decided executable
    refine ⟨best, front, chosen, fun id member => ?_⟩
    obtain ⟨-, -, quality⟩ := of_mem_competitors (Selection.front_mem front)
    rw [quality] at usable
    obtain ⟨link, stored, current⟩ :=
      permitted_link_current coherent (permits_iff.mpr usable) member
    refine run_link_confirmed (fun key old oldMember => ?_) stored current
    rw [← started] at oldMember
    exact step_link_lost lost oldMember

/-- The process dies right after the rename, and the next one reads the timestamps from
right to left. -/
theorem published_restart_fails_closed :
    ∃ restored, restart ⟨.rightToLeft, .rightToLeft⟩ {} "state" {}
        (Process.run {} "state" (fun _ => none)
          ((Worker.publication ⟨1⟩).map .call ++ [.save {} [7] (.crashed 4)])).disk =
          .ok restored ∧
      Worker.published.topologyGen < restored.topologyGen := by
  obtain ⟨restored, ok, -, -, -, newer, -⟩ := restart_fails_closed Double.ranking
    ⟨.rightToLeft, .rightToLeft⟩ {} "state" (fun _ => none)
    ((Worker.publication ⟨1⟩).map .call ++ [.save {} [7] (.crashed 4)]) {}
      Worker.published
    (by decide +kernel) (by decide +kernel) (by decide) (by decide) {}
  exact ⟨restored, ok, newer⟩

end NvlinkFabric.Durable

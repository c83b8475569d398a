import NvlinkFabric.Coordinator.Fencing

/-!
# What the death of one worker affects

A handler whose connection ends marks the dynamic evidence of the registry before
it leaves.  Every device and measurement records its owner, but the sweep does not
look at it: it affects the evidence of all workers.  The evidence of others is
unchanged only if it had lapsed already.
-/

namespace NvlinkFabric.Coordinator

open Wire Transition

variable {limits : Limits} {server : Server} {event : Event} {hello : Hello}

/-- The incarnation whose connection an event ends. -/
def closer (server : Server) : Event → Option Hello
  | .frame connection (.error _) _ =>
      match server.connections.find? connection with
      | some (.serving hello) => some hello
      | _ => none
  | _ => none

/-- A record is owned by an incarnation. -/
def OwnedBy (hello : Hello) (worker : Option WorkerId)
    (boot : Option WorkerBootId) : Prop :=
  worker = some hello.worker ∧ boot = some hello.boot

/-- A closure changes neither the health of a device of another owner nor the flags of
a measurement of another owner. -/
def ClosesLocally (limits : Limits) (server : Server) (event : Event) : Prop :=
  ∀ hello ∈ closer server event,
    (∀ id device, server.registry.devices.find? id = some device →
      ¬OwnedBy hello device.ownerWorker device.ownerBoot →
      ((step limits server event).registry.devices.find? id).map (·.health) =
        some device.health) ∧
    ∀ (index : Nat) (measurement : MeasurementRecord),
      server.registry.measurementHistory[index]? = some measurement →
      ¬OwnedBy hello measurement.ownerWorker measurement.ownerBoot →
      ((step limits server event).registry.measurementHistory[index]?).map
          (fun kept => (kept.stale, kept.revalidationRequired)) =
        some (measurement.stale, measurement.revalidationRequired)

/-- At a closure every worker-owned device and every measurement of another owner
has lapsed already. -/
def OthersLapsed (server : Server) (event : Event) : Prop :=
  ∀ hello ∈ closer server event,
    (∀ id device, server.registry.devices.find? id = some device →
      ¬OwnedBy hello device.ownerWorker device.ownerBoot →
      device.ownerWorker.isSome = true →
      device.health = .revalidationRequired) ∧
    ∀ measurement ∈ server.registry.measurementHistory,
      ¬OwnedBy hello measurement.ownerWorker measurement.ownerBoot →
      measurement.stale = true ∧ measurement.revalidationRequired = true

/-- A closure sweeps the whole registry. -/
theorem registry_step_close (limits : Limits)
    (closing : closer server event = some hello) :
    (step limits server event).registry.devices =
        server.registry.devices.mapValues Registry.requireWorkerRevalidation ∧
      (step limits server event).registry.measurementHistory =
        server.registry.measurementHistory.map Registry.lapseMeasurement := by
  unfold closer at closing
  split at closing
  next connection error ambient =>
    cases found : server.connections.find? connection with
    | none => simp [found] at closing
    | some phase =>
        cases phase with
        | serving greeting =>
            simp only [step, found, onFrame]
            exact ⟨rfl, rfl⟩
        | _ => simp [found] at closing
  · simp at closing

/-- Sweeping a device shows in its health unless nobody owns it or it had lapsed. -/
theorem health_requireWorkerRevalidation (device : DeviceRecord) :
    (Registry.requireWorkerRevalidation device).health = device.health ↔
      (device.ownerWorker.isSome = true → device.health = .revalidationRequired) := by
  unfold Registry.requireWorkerRevalidation
  cases device.ownerWorker.isSome with
  | false => simp
  | true => simp [eq_comm]

theorem closesLocally_iff (limits : Limits) (server : Server) (event : Event) :
    ClosesLocally limits server event ↔ OthersLapsed server event := by
  apply forall_congr'
  intro hello
  apply imp_congr_right
  intro closing
  obtain ⟨devices, measurements⟩ := registry_step_close limits closing
  rw [devices, measurements]
  apply and_congr
  · apply forall₂_congr
    intro id device
    apply forall₂_congr
    intro found other
    rw [FiniteMap.find?_mapValues, found, Option.map_some, Option.map_some,
      Option.some.injEq]
    exact health_requireWorkerRevalidation device
  · constructor
    · intro kept measurement member other
      obtain ⟨index, found⟩ := List.mem_iff_getElem?.mp member
      have flags := kept index measurement found other
      rw [List.getElem?_map, found, Option.map_some, Option.map_some, Option.some.injEq,
        Prod.mk.injEq] at flags
      exact ⟨flags.1.symm, flags.2.symm⟩
    · intro lapsed index measurement found other
      obtain ⟨stale, revalidation⟩ :=
        lapsed measurement (List.mem_of_getElem? found) other
      rw [List.getElem?_map, found, Option.map_some, Option.map_some, stale, revalidation]
      rfl

/-- In every run the closures affect only the evidence of the worker that
is gone exactly if at each of them the evidence of all others had lapsed already. -/
theorem closures_local_iff_others_lapsed (limits : Limits) (counter : UInt64)
    (events : List Event) :
    Along (step limits) (ClosesLocally limits) (construct counter) events ↔
      Along (step limits) OthersLapsed (construct counter) events :=
  ⟨Along.mono (step limits) fun server event =>
    (closesLocally_iff limits server event).mp,
    Along.mono (step limits) fun server event =>
      (closesLocally_iff limits server event).mpr⟩

/-- The second worker publishes a device while the first one is connected. -/
def twoWorkers : List Event :=
  handshake 1 { worker := ⟨1⟩, boot := ⟨1⟩, epoch := ⟨1⟩ } ++
    handshake 2 { worker := ⟨2⟩, boot := ⟨1⟩, epoch := ⟨1⟩ } ++
    [.frame 2 (.ok { type := .publishDevice,
                     payload := encDevice (Worker.sourceDevice ⟨1⟩) }) {}]

/-- The end of the first worker's connection. -/
def firstGone : Event :=
  .frame 1 (err .protocolError "connection closed during header") {}

/-- The device of the second worker requires revalidation once the first is gone. -/
theorem other_worker_swept :
    ¬∀ (limits : Limits) (counter : UInt64) (events : List Event),
      Along (step limits) (ClosesLocally limits) (construct counter) events := by
  intro localClosures
  have closure :=
    ((along_append _).mp (localClosures {} 0 (twoWorkers ++ [firstGone]))).2.1
  rw [closesLocally_iff] at closure
  have lapsed :=
    (closure { worker := ⟨1⟩, boot := ⟨1⟩, epoch := ⟨1⟩ } (by decide +kernel)).1
  have published :
      ((Transition.run (step {}) (construct 0) twoWorkers).registry.devices.find?
      Worker.sourceId).map (fun device => (device.ownerWorker, device.health)) =
        some (some ⟨2⟩, .present) := by decide +kernel
  obtain ⟨device, found, fields⟩ := Option.map_eq_some_iff.mp published
  obtain ⟨owner, health⟩ := Prod.mk.inj fields
  have other : ¬OwnedBy { worker := ⟨1⟩, boot := ⟨1⟩, epoch := ⟨1⟩ } device.ownerWorker
      device.ownerBoot := by
    rw [owner]
    intro owned
    exact absurd owned.1 (by decide)
  have swept := lapsed _ device found other (by rw [owner]; rfl)
  rw [health] at swept
  exact absurd swept (by decide)

end NvlinkFabric.Coordinator

import NvlinkFabric.Coordinator.Server
import NvlinkFabric.Registry.Refusals

/-!
# Malformed publications

`PayloadReader` marks a read that does not fit and returns zeros for it.  The
handler looks at the mark of a HELLO and of a ROUTE request, but not at that of a
publication, and never asks whether bytes are left over.  What a malformed payload
decodes to is therefore handed to the registry like any other record, and has no
effect only where the registry has no use for that record.
-/

namespace NvlinkFabric.Coordinator

open Wire ByteReader Registry

/-- A read did not fit, or bytes are left over. -/
def incomplete {α : Type} (reader : ByteReader α) (payload : List UInt8) : Bool :=
  let cursor := (reader.run { bytes := payload }).2
  cursor.bad || cursor.pos ≠ payload.length

/-- A publication whose payload is not the complete encoding of a record. -/
def malformed (frame : Frame) : Bool :=
  match frame.type with
  | .publishDevice => incomplete decDevice frame.payload
  | .publishLink => incomplete (decLink {}) frame.payload
  | .publishMeasurement => incomplete (decMeas {}) frame.payload
  | _ => false

/-- The registry is left as it was by exactly the publications it has no use for. -/
theorem step_publication_eq_iff {limits : Limits} {hello : Hello} {frame : Frame}
    {ambient : Ambient} {call : Call} {state : State}
    (published : publication hello frame ambient = some call) :
    Registry.step limits state call = state ↔ HasNoUseFor limits state call := by
  cases type : frame.type <;> simp only [publication, type,
    Option.some.injEq] at published
  case publishDevice =>
    rw [← published]
    exact step_upsertDevice_eq_iff _
  case publishLink =>
    rw [← published]
    exact step_upsertLink_eq_iff _
  case publishMeasurement =>
    rw [← published]
    exact step_publishMeasurement_eq_iff _
  all_goals simp at published

/-- A malformed publication leaves the registry as it was exactly when the registry
has no use for the record that the payload decodes to. -/
theorem malformed_ignored_iff (limits : Limits) (server : Server) (connection : Nat)
    (hello : Hello) (frame : Frame) (ambient : Ambient)
    (serving : server.connections.find? connection = some (.serving hello)) :
    (malformed frame = true →
      (step limits server (.frame connection (.ok frame) ambient)).registry =
        server.registry) ↔
    (malformed frame = true → ∀ call ∈ publication hello frame ambient,
      HasNoUseFor limits server.registry call) := by
  rw [registry_step_frame serving, served]
  cases published : publication hello frame ambient with
  | none => simp
  | some call => simp [step_publication_eq_iff published]

/-- The boot that publishes in the examples below. -/
def publishingHello : Hello := { worker := ⟨1⟩, boot := ⟨1⟩, epoch := ⟨1⟩ }

/-- The server once that boot is served on connection 1. -/
def publishingServer : Server := run {} .initial (handshake 1 publishingHello)

theorem publishingServer_serving :
    publishingServer.connections.find? 1 = some (.serving publishingHello) := by
  decide +kernel

/-- Without a payload a device has no identity and is refused, while a measurement is
stored. -/
theorem empty_publications :
    (step {} publishingServer (.frame 1 (.ok { type := .publishDevice }) {})).registry =
      publishingServer.registry ∧
    (step {} publishingServer
      (.frame 1 (.ok { type := .publishMeasurement }) {})).registry ≠
      publishingServer.registry := by
  constructor
  · apply (malformed_ignored_iff {} _ 1 _ { type := .publishDevice } {}
      publishingServer_serving).mpr _ (by decide +kernel)
    intro _ call published
    obtain rfl := Option.some.inj published
    exact .inl rfl
  · intro same
    have useless := (malformed_ignored_iff {} _ 1 _ { type := .publishMeasurement } {}
      publishingServer_serving).mp (fun _ => same) (by decide +kernel) _ rfl
    exact absurd useless.1 (by decide +kernel)

/-- A measurement without any payload is appended to the history. -/
theorem empty_measurement_stored :
    ¬∀ (limits : Limits) (server : Server) (connection : Nat) (hello : Hello)
      (frame : Frame) (ambient : Ambient),
      server.connections.find? connection = some (.serving hello) →
      malformed frame = true →
      (step limits server (.frame connection (.ok frame) ambient)).registry =
        server.registry := by
  intro ignored
  have unchanged := ignored {} publishingServer 1 publishingHello
    { type := .publishMeasurement } {} publishingServer_serving (by decide +kernel)
  exact absurd unchanged (by decide +kernel)

end NvlinkFabric.Coordinator

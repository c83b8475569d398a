import Mathlib.Order.Defs.LinearOrder

/-!
# Identities, generations, text and errors

Vocabulary shared by every component.  A `std::string` is a byte string, so
`Text` is a list of bytes; source literals enter through `Text.ofLiteral`.
Identity handles and generations wrap a 64-bit word and are indexed by a tag,
which keeps a device identity from being compared with a link identity.
-/

namespace NvlinkFabric

/-- The contents of a `std::string`. -/
abbrev Text := List UInt8

/-- Bytes of a string literal of the source. -/
def Text.ofLiteral (literal : String) : Text := literal.toUTF8.data.toList

instance : Coe String Text := ⟨Text.ofLiteral⟩

/-- `std::to_string` on an unsigned value. -/
def Text.ofNat (value : Nat) : Text := Text.ofLiteral (Nat.repr value)

/-- The identity tags of `identities.hpp`. -/
inductive Tag where
  | device | deviceGeneration | link | linkGeneration | path | topology
  | worker | workerBoot | coordinatorEpoch | observation | measurement
  | routeDecision | routeGeneration | policy
  deriving DecidableEq, Repr

/-- `Id<Tag>`: an opaque handle; the zero word is the nil identity. -/
structure Id (tag : Tag) where
  value : UInt64 := 0
  deriving DecidableEq, Repr

namespace Id

variable {tag : Tag}

/-- The default-constructed handle. -/
def nil : Id tag := {}

/-- `is_nil`; the conversion to `bool` is its negation. -/
def isNil (id : Id tag) : Bool := id.value == 0

instance : LT (Id tag) := ⟨fun left right => left.value < right.value⟩
instance : LE (Id tag) := ⟨fun left right => left.value ≤ right.value⟩
instance (left right : Id tag) : Decidable (left < right) :=
  inferInstanceAs (Decidable (left.value < right.value))
instance (left right : Id tag) : Decidable (left ≤ right) :=
  inferInstanceAs (Decidable (left.value ≤ right.value))

theorem lt_iff {left right : Id tag} :
    left < right ↔ left.value.toNat < right.value.toNat := UInt64.lt_iff_toNat_lt

theorem le_iff {left right : Id tag} :
    left ≤ right ↔ left.value.toNat ≤ right.value.toNat := UInt64.le_iff_toNat_le

theorem eq_iff {left right : Id tag} :
    left = right ↔ left.value.toNat = right.value.toNat := by
  cases left
  cases right
  rw [Id.mk.injEq, UInt64.toNat_inj]

/-- `Id::to_string`. -/
def toText (id : Id tag) : Text := Text.ofNat id.value.toNat

end Id

/-- `Generation<Tag>`: a counter whose zero value is invalid. -/
structure Generation (tag : Tag) where
  value : UInt64 := 0
  deriving DecidableEq, Repr

namespace Generation

variable {tag : Tag}

/-- `valid`. -/
def valid (generation : Generation tag) : Bool := generation.value != 0

/-- `next`: unchecked 64-bit increment. -/
def next (generation : Generation tag) : Generation tag := ⟨generation.value + 1⟩

instance : LT (Generation tag) := ⟨fun left right => left.value < right.value⟩
instance : LE (Generation tag) := ⟨fun left right => left.value ≤ right.value⟩
instance (left right : Generation tag) : Decidable (left < right) :=
  inferInstanceAs (Decidable (left.value < right.value))
instance (left right : Generation tag) : Decidable (left ≤ right) :=
  inferInstanceAs (Decidable (left.value ≤ right.value))

theorem lt_iff {left right : Generation tag} :
    left < right ↔ left.value.toNat < right.value.toNat := UInt64.lt_iff_toNat_lt

theorem le_iff {left right : Generation tag} :
    left ≤ right ↔ left.value.toNat ≤ right.value.toNat := UInt64.le_iff_toNat_le

theorem ext_toNat {left right : Generation tag}
    (equal : left.value.toNat = right.value.toNat) : left = right := by
  cases left
  cases right
  exact congrArg Generation.mk (UInt64.toNat_inj.mp equal)

instance : LinearOrder (Generation tag) where
  le_refl _ := le_iff.mpr (Nat.le_refl _)
  le_trans _ _ _ lower upper :=
    le_iff.mpr (Nat.le_trans (le_iff.mp lower) (le_iff.mp upper))
  le_antisymm _ _ below above :=
    ext_toNat (Nat.le_antisymm (le_iff.mp below) (le_iff.mp above))
  le_total left right := by
    rw [le_iff, le_iff]
    exact Nat.le_total _ _
  lt_iff_le_not_ge _ _ := by
    rw [lt_iff, le_iff, le_iff]
    exact Nat.lt_iff_le_and_not_ge
  toDecidableLE := inferInstance

theorem toNat_next (generation : Generation tag) :
    generation.next.value.toNat =
      (generation.value.toNat + 1) % 18446744073709551616 := by
  simp [next, UInt64.toNat_add]

/-- The largest generation. -/
def last : Generation tag := ⟨18446744073709551615⟩

/-- Only the largest generation wraps to the invalid one. -/
theorem next_value_eq_zero_iff {generation : Generation tag} :
    generation.next.value = 0 ↔ generation = last := by
  have bound := generation.value.toNat_lt
  have wrapped := toNat_next generation
  constructor
  · intro zero
    apply ext_toNat
    rw [zero] at wrapped
    change 0 = _ at wrapped
    change _ = 18446744073709551615
    omega
  · intro equal
    rw [equal]
    change (18446744073709551615 + 1 : UInt64) = 0
    decide

/-- The increment is strict unless it wraps to the invalid generation. -/
theorem toNat_next_of_ne_zero {generation : Generation tag}
    (noWrap : generation.next.value ≠ 0) :
    generation.next.value.toNat = generation.value.toNat + 1 := by
  have bound := generation.value.toNat_lt
  have wrapped := toNat_next generation
  have positive : generation.next.value.toNat ≠ 0 := by
    simpa [← UInt64.toNat_inj] using noWrap
  omega

theorem lt_next_of_ne_zero {generation : Generation tag}
    (noWrap : generation.next.value ≠ 0) : generation < generation.next := by
  rw [lt_iff, toNat_next_of_ne_zero noWrap]
  omega

end Generation

abbrev DeviceId := Id .device
abbrev DeviceGeneration := Generation .deviceGeneration
abbrev LinkId := Id .link
abbrev LinkGeneration := Generation .linkGeneration
abbrev PathId := Id .path
abbrev TopologyGeneration := Generation .topology
abbrev WorkerId := Id .worker
abbrev WorkerBootId := Id .workerBoot
abbrev CoordinatorEpoch := Generation .coordinatorEpoch
abbrev ObservationId := Id .observation
abbrev MeasurementId := Id .measurement
abbrev RouteDecisionId := Id .routeDecision
abbrev RouteGeneration := Generation .routeGeneration
abbrev PolicyId := Id .policy

/-- `Timestamp`: signed nanoseconds since the Unix epoch and a validity flag. -/
structure Timestamp where
  unixNs : Int64 := 0
  valid : Bool := false
  deriving DecidableEq

/-- `ErrorCode`. -/
inductive ErrorCode where
  | ok | notFound | unsupported | invalidArgument | invalidTopology
  | staleGeneration | staleBoot | staleEpoch | staleMeasurement
  | revalidationRequired | backendUnavailable | backendError | linkDown | noPath
  | insufficientEvidence | integrityFailure | protocolError | resourceLimit
  | cancelled
  deriving DecidableEq, Repr

/-- `Error`.  The inspection context is never filled by the modelled code. -/
structure Error where
  code : ErrorCode
  message : Text
  deriving DecidableEq

def errorCodeName : ErrorCode → Text
  | .ok => "OK"
  | .notFound => "NOT_FOUND"
  | .unsupported => "UNSUPPORTED"
  | .invalidArgument => "INVALID_ARGUMENT"
  | .invalidTopology => "INVALID_TOPOLOGY"
  | .staleGeneration => "STALE_GENERATION"
  | .staleBoot => "STALE_BOOT"
  | .staleEpoch => "STALE_EPOCH"
  | .staleMeasurement => "STALE_MEASUREMENT"
  | .revalidationRequired => "REVALIDATION_REQUIRED"
  | .backendUnavailable => "BACKEND_UNAVAILABLE"
  | .backendError => "BACKEND_ERROR"
  | .linkDown => "LINK_DOWN"
  | .noPath => "NO_PATH"
  | .insufficientEvidence => "INSUFFICIENT_EVIDENCE"
  | .integrityFailure => "INTEGRITY_FAILURE"
  | .protocolError => "PROTOCOL_ERROR"
  | .resourceLimit => "RESOURCE_LIMIT"
  | .cancelled => "CANCELLED"

/-- `Error::to_string`. -/
def Error.toText (error : Error) : Text :=
  errorCodeName error.code ++
    if error.message.isEmpty then [] else (": " : Text) ++ error.message

/-- `Result<T>`. -/
abbrev Result (α : Type) := Except Error α

/-- `Result::err(code, message)`. -/
def err {α : Type} (code : ErrorCode) (message : Text) : Result α :=
  .error ⟨code, message⟩

@[simp] theorem err_ne_ok {α : Type} {code : ErrorCode} {message : Text} {value : α} :
    (err code message : Result α) = .ok value ↔ False := by
  simp [err]

/-- Past a check that returns an error, the check did not apply. -/
theorem guarded_ok {α : Type} {condition : Prop} [Decidable condition] {code : ErrorCode}
    {message : Text} {rest : Result α} {value : α} :
    (if condition then err code message else rest) = .ok value ↔
      ¬condition ∧ rest = .ok value := by
  by_cases applies : condition
  · simp [applies]
  · simp [applies]

/-- A sequence succeeds if both of its parts do. -/
theorem bind_ok {α β : Type} {first : Result α} {rest : α → Result β} {value : β} :
    (first >>= rest) = .ok value ↔ ∃ middle, first = .ok middle ∧
      rest middle = .ok value := by
  cases first with
  | error error => simp [bind, Except.bind]
  | ok middle => simp [bind, Except.bind]

/-- Whatever goes wrong is reported under one code. -/
def FailsWith {α : Type} (code : ErrorCode) (result : Result α) : Prop :=
  ∀ error, result = .error error → error.code = code

namespace FailsWith

variable {α β : Type} {code : ErrorCode}

theorem ok (value : α) : FailsWith code (.ok value : Result α) := by
  intro error failed
  cases failed

/-- A check that reports the code. -/
theorem guard {condition : Prop} [Decidable condition] {message : Text} {rest : Result α}
    (passed : FailsWith code rest) :
    FailsWith code (if condition then err code message else rest) := by
  intro error failed
  split at failed
  · obtain rfl := Except.error.inj failed
    rfl
  · exact passed error failed

theorem bind {first : Result α} {rest : α → Result β} (head : FailsWith code first)
    (tail : ∀ value, FailsWith code (rest value)) : FailsWith code (first >>= rest) := by
  intro error failed
  cases first with
  | error early =>
      obtain rfl := Except.error.inj failed
      exact head _ rfl
  | ok value => exact tail value error failed

end FailsWith

end NvlinkFabric

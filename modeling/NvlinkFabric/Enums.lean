import NvlinkFabric.Basic

/-!
# Enumerations

An `enum class` with a fixed underlying type holds every value of that type,
not only its enumerators, and the decoders cast unchecked bytes.  Each
enumeration that a decoder can produce therefore has an `undeclared`
constructor for the codes without an enumerator; the side condition keeps the
representation of a code unique.  `toByte` and `ofByte` are the two directions
of `static_cast`.
-/

namespace NvlinkFabric

/-- `EvidenceClass`. Evidence classification; every record carries exactly one class. -/
inductive EvidenceClass where
  | real | synthetic | unsupported
  | undeclared (code : UInt8) (outside : 3 ≤ code.toNat)
  deriving DecidableEq

namespace EvidenceClass

/-- Underlying byte. -/
def toByte : EvidenceClass → UInt8
  | .real => 0
  | .synthetic => 1
  | .unsupported => 2
  | .undeclared code _ => code

/-- Unchecked cast from the underlying type. -/
def ofByte (code : UInt8) : EvidenceClass :=
  if outside : 3 ≤ code.toNat then .undeclared code outside
  else
    ([.real, .synthetic, .unsupported] : List EvidenceClass).getD
      code.toNat .real

@[simp] theorem ofByte_toByte (value : EvidenceClass) : ofByte value.toByte = value := by
  cases value with
  | undeclared code outside => simp [toByte, ofByte, outside]
  | _ => rfl

end EvidenceClass

def evidenceClassName : EvidenceClass → Text
  | .real => "REAL"
  | .synthetic => "SYNTHETIC"
  | .unsupported => "UNSUPPORTED"
  | .undeclared _ _ => "UNKNOWN"

/-- `InterconnectTechnology`. Interconnect technology. -/
inductive InterconnectTechnology where
  | unknown | none | nvlink | pcie | cxl | other
  | undeclared (code : UInt8) (outside : 6 ≤ code.toNat)
  deriving DecidableEq

namespace InterconnectTechnology

/-- Underlying byte. -/
def toByte : InterconnectTechnology → UInt8
  | .unknown => 0
  | .none => 1
  | .nvlink => 2
  | .pcie => 3
  | .cxl => 4
  | .other => 5
  | .undeclared code _ => code

/-- Unchecked cast from the underlying type. -/
def ofByte (code : UInt8) : InterconnectTechnology :=
  if outside : 6 ≤ code.toNat then .undeclared code outside
  else
    ([.unknown, .none, .nvlink, .pcie, .cxl, .other] : List InterconnectTechnology).getD
      code.toNat .unknown

@[simp] theorem ofByte_toByte (value : InterconnectTechnology) :
    ofByte value.toByte = value := by
  cases value with
  | undeclared code outside => simp [toByte, ofByte, outside]
  | _ => rfl

end InterconnectTechnology

/-- `DeviceHealthState`. Device health and availability. -/
inductive DeviceHealthState where
  | unknown | present | absent | degraded | revalidationRequired | incompatible
  | unreachable
  | undeclared (code : UInt8) (outside : 7 ≤ code.toNat)
  deriving DecidableEq

namespace DeviceHealthState

/-- Underlying byte. -/
def toByte : DeviceHealthState → UInt8
  | .unknown => 0
  | .present => 1
  | .absent => 2
  | .degraded => 3
  | .revalidationRequired => 4
  | .incompatible => 5
  | .unreachable => 6
  | .undeclared code _ => code

/-- Unchecked cast from the underlying type. -/
def ofByte (code : UInt8) : DeviceHealthState :=
  if outside : 7 ≤ code.toNat then .undeclared code outside
  else
    ([.unknown, .present, .absent, .degraded, .revalidationRequired, .incompatible,
     .unreachable] : List DeviceHealthState).getD
      code.toNat .unknown

@[simp] theorem ofByte_toByte (value : DeviceHealthState) :
    ofByte value.toByte = value := by
  cases value with
  | undeclared code outside => simp [toByte, ofByte, outside]
  | _ => rfl

end DeviceHealthState

def deviceHealthName : DeviceHealthState → Text
  | .unknown => "UNKNOWN"
  | .present => "PRESENT"
  | .absent => "ABSENT"
  | .degraded => "DEGRADED"
  | .revalidationRequired => "REVALIDATION_REQUIRED"
  | .incompatible => "INCOMPATIBLE"
  | .unreachable => "UNREACHABLE"
  | .undeclared _ _ => "UNKNOWN"

/-- `LinkOperationalState`. Link operational state. -/
inductive LinkOperationalState where
  | unknown | present | absent | supported | unsupported | up | down | degraded
  | revalidationRequired | stale | incompatible | unreachable
  | undeclared (code : UInt8) (outside : 12 ≤ code.toNat)
  deriving DecidableEq

namespace LinkOperationalState

/-- Underlying byte. -/
def toByte : LinkOperationalState → UInt8
  | .unknown => 0
  | .present => 1
  | .absent => 2
  | .supported => 3
  | .unsupported => 4
  | .up => 5
  | .down => 6
  | .degraded => 7
  | .revalidationRequired => 8
  | .stale => 9
  | .incompatible => 10
  | .unreachable => 11
  | .undeclared code _ => code

/-- Unchecked cast from the underlying type. -/
def ofByte (code : UInt8) : LinkOperationalState :=
  if outside : 12 ≤ code.toNat then .undeclared code outside
  else
    ([.unknown, .present, .absent, .supported, .unsupported, .up, .down, .degraded,
     .revalidationRequired, .stale, .incompatible, .unreachable] :
       List LinkOperationalState).getD
      code.toNat .unknown

@[simp] theorem ofByte_toByte (value : LinkOperationalState) :
    ofByte value.toByte = value := by
  cases value with
  | undeclared code outside => simp [toByte, ofByte, outside]
  | _ => rfl

end LinkOperationalState

def linkStateName : LinkOperationalState → Text
  | .unknown => "UNKNOWN"
  | .present => "PRESENT"
  | .absent => "ABSENT"
  | .supported => "SUPPORTED"
  | .unsupported => "UNSUPPORTED"
  | .up => "UP"
  | .down => "DOWN"
  | .degraded => "DEGRADED"
  | .revalidationRequired => "REVALIDATION_REQUIRED"
  | .stale => "STALE"
  | .incompatible => "INCOMPATIBLE"
  | .unreachable => "UNREACHABLE"
  | .undeclared _ _ => "UNKNOWN"

/-- `NodeKind`. Endpoints and intermediary fabric elements. -/
inductive NodeKind where
  | accelerator | switch | host | unknown
  | undeclared (code : UInt8) (outside : 4 ≤ code.toNat)
  deriving DecidableEq

namespace NodeKind

/-- Underlying byte. -/
def toByte : NodeKind → UInt8
  | .accelerator => 0
  | .switch => 1
  | .host => 2
  | .unknown => 3
  | .undeclared code _ => code

/-- Unchecked cast from the underlying type. -/
def ofByte (code : UInt8) : NodeKind :=
  if outside : 4 ≤ code.toNat then .undeclared code outside
  else
    ([.accelerator, .switch, .host, .unknown] : List NodeKind).getD
      code.toNat .accelerator

@[simp] theorem ofByte_toByte (value : NodeKind) : ofByte value.toByte = value := by
  cases value with
  | undeclared code outside => simp [toByte, ofByte, outside]
  | _ => rfl

end NodeKind

/-- `MeasurementSupport`. What a backend can measure. -/
inductive MeasurementSupport where
  | unknown | unsupported | syntheticOnly | real
  | undeclared (code : UInt8) (outside : 4 ≤ code.toNat)
  deriving DecidableEq

namespace MeasurementSupport

/-- Underlying byte. -/
def toByte : MeasurementSupport → UInt8
  | .unknown => 0
  | .unsupported => 1
  | .syntheticOnly => 2
  | .real => 3
  | .undeclared code _ => code

/-- Unchecked cast from the underlying type. -/
def ofByte (code : UInt8) : MeasurementSupport :=
  if outside : 4 ≤ code.toNat then .undeclared code outside
  else
    ([.unknown, .unsupported, .syntheticOnly, .real] : List MeasurementSupport).getD
      code.toNat .unknown

@[simp] theorem ofByte_toByte (value : MeasurementSupport) :
    ofByte value.toByte = value := by
  cases value with
  | undeclared code outside => simp [toByte, ofByte, outside]
  | _ => rfl

end MeasurementSupport

/-- `RouteDecisionOutcome`. Outcome of a route decision. -/
inductive RouteDecisionOutcome where
  | routeAllowed | routeAllowedDegraded | noRoute | staleTopology | revalidationRequired
  | unsupported | insufficientEvidence | policyRejected | endpointStale | linkStale
  | undeclared (code : UInt8) (outside : 10 ≤ code.toNat)
  deriving DecidableEq

namespace RouteDecisionOutcome

/-- Underlying byte. -/
def toByte : RouteDecisionOutcome → UInt8
  | .routeAllowed => 0
  | .routeAllowedDegraded => 1
  | .noRoute => 2
  | .staleTopology => 3
  | .revalidationRequired => 4
  | .unsupported => 5
  | .insufficientEvidence => 6
  | .policyRejected => 7
  | .endpointStale => 8
  | .linkStale => 9
  | .undeclared code _ => code

/-- Unchecked cast from the underlying type. -/
def ofByte (code : UInt8) : RouteDecisionOutcome :=
  if outside : 10 ≤ code.toNat then .undeclared code outside
  else
    ([.routeAllowed, .routeAllowedDegraded, .noRoute, .staleTopology,
     .revalidationRequired, .unsupported, .insufficientEvidence, .policyRejected,
     .endpointStale, .linkStale] : List RouteDecisionOutcome).getD
      code.toNat .routeAllowed

@[simp] theorem ofByte_toByte (value : RouteDecisionOutcome) :
    ofByte value.toByte = value := by
  cases value with
  | undeclared code outside => simp [toByte, ofByte, outside]
  | _ => rfl

end RouteDecisionOutcome

/-- `PathQualityOutcome`. Outcome of a path-quality computation. -/
inductive PathQualityOutcome where
  | healthy | degraded | contended | linkDown | noPath | insufficientEvidence
  | revalidationRequired | unsupported
  deriving DecidableEq

def pathQualityOutcomeName : PathQualityOutcome → Text
  | .healthy => "HEALTHY"
  | .degraded => "DEGRADED"
  | .contended => "CONTENDED"
  | .linkDown => "LINK_DOWN"
  | .noPath => "NO_PATH"
  | .insufficientEvidence => "INSUFFICIENT_EVIDENCE"
  | .revalidationRequired => "REVALIDATION_REQUIRED"
  | .unsupported => "UNSUPPORTED"

/-- `RouteRejectionReason`. Named reasons a candidate path is rejected. -/
inductive RouteRejectionReason where
  | none | endpointUnknown | endpointAbsent | endpointStaleGeneration | linkUnsupported
  | linkDown | linkDegradedBelowMinimum | linkStaleGeneration | topologyStale
  | insufficientEvidence | freshnessViolation | minCapabilityUnmet | technologyExcluded
  | policyExcluded | pathTooDeep | notDirect
  deriving DecidableEq

def rejectionReasonName : RouteRejectionReason → Text
  | .none => "NONE"
  | .endpointUnknown => "ENDPOINT_UNKNOWN"
  | .endpointAbsent => "ENDPOINT_ABSENT"
  | .endpointStaleGeneration => "ENDPOINT_STALE_GENERATION"
  | .linkUnsupported => "LINK_UNSUPPORTED"
  | .linkDown => "LINK_DOWN"
  | .linkDegradedBelowMinimum => "LINK_DEGRADED_BELOW_MINIMUM"
  | .linkStaleGeneration => "LINK_STALE_GENERATION"
  | .topologyStale => "TOPOLOGY_STALE"
  | .insufficientEvidence => "INSUFFICIENT_EVIDENCE"
  | .freshnessViolation => "FRESHNESS_VIOLATION"
  | .minCapabilityUnmet => "MIN_CAPABILITY_UNMET"
  | .technologyExcluded => "TECHNOLOGY_EXCLUDED"
  | .policyExcluded => "POLICY_EXCLUDED"
  | .pathTooDeep => "PATH_TOO_DEEP"
  | .notDirect => "NOT_DIRECT"

/-- `Provenance`: a bit set of the subsystems that produced a piece of evidence. -/
structure Provenance where
  bits : UInt32 := 0
  deriving DecidableEq

namespace Provenance

def none : Provenance := ⟨0⟩
def nvml : Provenance := ⟨(1 : UInt32) <<< 0⟩
def cudaRuntime : Provenance := ⟨(1 : UInt32) <<< 1⟩
def cudaDriver : Provenance := ⟨(1 : UInt32) <<< 2⟩
def persisted : Provenance := ⟨(1 : UInt32) <<< 5⟩
def derived : Provenance := ⟨(1 : UInt32) <<< 6⟩
def syntheticFixture : Provenance := ⟨(1 : UInt32) <<< 7⟩

instance : OrOp Provenance := ⟨fun left right => ⟨left.bits ||| right.bits⟩⟩

end Provenance

end NvlinkFabric

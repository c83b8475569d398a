import NvlinkFabric.Durable.RoundTrip

/-!
# The argument order of timestamps

The two arguments of `Timestamp(r.u64(), r.u8() != 0u)` may be evaluated in either
order.  Both orders take the same nine bytes, so a file is accepted under either and
every other field is right; only the timestamps tell the orders apart.  A timestamp
comes back under both exactly if its nine bytes are equal.
-/

namespace NvlinkFabric.Durable

open Wire ByteReader

/-- Timestamps of nine equal bytes, all zero or all one. -/
def Uniform (timestamp : Timestamp) : Prop :=
  timestamp = { unixNs := 0, valid := false } ∨
    timestamp = { unixNs := 0x0101010101010101, valid := true }

instance (timestamp : Timestamp) : Decidable (Uniform timestamp) :=
  inferInstanceAs (Decidable (_ ∨ _))

theorem timestamp_eq_iff {left right : Timestamp} :
    left = right ↔
      left.unixNs.toUInt64.toNat = right.unixNs.toUInt64.toNat ∧
      left.valid = right.valid := by
  constructor
  · rintro rfl
    exact ⟨rfl, rfl⟩
  · rintro ⟨words, valid⟩
    have unixNs : left.unixNs = right.unixNs :=
      congrArg UInt64.toInt64 (UInt64.toNat_inj.mp words)
    obtain ⟨_, _⟩ := left
    obtain ⟨_, _⟩ := right
    rw [Timestamp.mk.injEq]
    exact ⟨unixNs, valid⟩

/-- Rotating the nine bytes of a timestamp leaves only the uniform ones unchanged. -/
theorem recovered_rightToLeft_iff (timestamp : Timestamp) :
    recoveredTimestamp .rightToLeft timestamp = timestamp ↔ Uniform timestamp := by
  have bound := timestamp.unixNs.toUInt64.toNat_lt
  have lowest : (UInt8.ofNat timestamp.unixNs.toUInt64.toNat != 0) =
      decide (timestamp.unixNs.toUInt64.toNat % 256 ≠ 0) := by
    rw [bne, Bool.eq_iff_iff, Bool.not_eq_true', beq_eq_false_iff_ne, decide_eq_true_iff,
      ne_eq, ← UInt8.toNat_inj, UInt8.toNat_ofNat']
    rfl
  have zeros : (0 : Int64).toUInt64.toNat = 0 := rfl
  have ones : (0x0101010101010101 : Int64).toUInt64.toNat = 0x0101010101010101 := rfl
  simp only [Uniform, timestamp_eq_iff, recoveredTimestamp, UInt64.toUInt64_toInt64,
    UInt64.toNat_ofNat', lowest, zeros, ones]
  generalize timestamp.unixNs.toUInt64.toNat = word at bound ⊢
  cases timestamp.valid with
  | false =>
      simp only [Bool.false_eq_true, if_false, decide_eq_false_iff_not,
        and_true, and_false, or_false]
      rw [Nat.mod_eq_of_lt (by omega)]
      omega
  | true =>
      simp only [if_true, decide_eq_true_iff, Bool.true_eq_false, and_true,
        and_false, false_or]
      rw [Nat.mod_eq_of_lt (by omega)]
      omega

theorem recoveredTimestamp_iff (order : ArgumentOrder) (timestamp : Timestamp) :
    recoveredTimestamp order timestamp = timestamp ↔
      order = .leftToRight ∨ Uniform timestamp := by
  cases order with
  | leftToRight => simp [recoveredTimestamp]
  | rightToLeft => simp [recovered_rightToLeft_iff]

/-- Decoding the encoding of a state gives back its timestamps. -/
def TimestampsSurvive (order : EvaluationOrder) (state : DurableState) : Prop :=
  ∃ decoded,
    (serializeDurableState state >>= deserializeDurableState order) = .ok decoded ∧
    decoded.savedAt = state.savedAt ∧
      decoded.links.map LinkRecord.lastObservation =
        state.links.map LinkRecord.lastObservation

theorem timestampsSurvive_iff_recovered {order : EvaluationOrder} {state : DurableState}
    (decodable : Decodable state) :
    TimestampsSurvive order state ↔
      recoveredTimestamp order.savedAt state.savedAt = state.savedAt ∧
        ∀ link ∈ state.links,
          recoveredTimestamp order.lastObservation link.lastObservation =
            link.lastObservation := by
  have links : (recoveredState order state).links.map LinkRecord.lastObservation =
      state.links.map fun link =>
        recoveredTimestamp order.lastObservation link.lastObservation := by
    simp only [recoveredState, List.map_map]
    rfl
  rw [TimestampsSurvive, serialize_bind, deserialize_recovered order decodable]
  constructor
  · rintro ⟨decoded, accepted, savedAt, observed⟩
    obtain rfl := Except.ok.inj accepted
    rw [links, List.map_inj_left] at observed
    exact ⟨savedAt, observed⟩
  · rintro ⟨savedAt, observed⟩
    exact ⟨_, rfl, savedAt, links.trans (List.map_inj_left.mpr observed)⟩

/-- Within the bounds the timestamps of a state survive exactly if each of them is
read from left to right or is uniform. -/
theorem timestamps_survive_iff (order : EvaluationOrder) (state : DurableState)
    (decodable : Decodable state) :
    TimestampsSurvive order state ↔
      (order.savedAt = .leftToRight ∨ Uniform state.savedAt) ∧
        (order.lastObservation = .leftToRight ∨
          ∀ link ∈ state.links, Uniform link.lastObservation) := by
  simp only [timestampsSurvive_iff_recovered decodable, recoveredTimestamp_iff,
    forall_or_left]

/-- From right to left an ordinary timestamp comes back as another one. -/
theorem timestamps_lost :
    ¬∀ state, Decodable state → ∀ order, TimestampsSurvive order state := by
  intro survive
  let state : DurableState := { savedAt := { unixNs := 1, valid := true } }
  have decodable : Decodable state := by decide
  have survived := survive state decodable { savedAt := .rightToLeft }
  have same := ((timestampsSurvive_iff_recovered decodable).mp survived).1
  revert same
  decide

/-- One link, observed at a time that both orders read back. -/
theorem timestamps_survive_uniform :
    TimestampsSurvive ⟨.leftToRight, .rightToLeft⟩
        { savedAt := { unixNs := 1, valid := true }
          links :=
            [{ lastObservation := { unixNs := 0x0101010101010101, valid := true } }] } ↔
      (ArgumentOrder.leftToRight = .leftToRight ∨
        Uniform { unixNs := 1, valid := true }) ∧
        (ArgumentOrder.rightToLeft = .leftToRight ∨
          ∀ link ∈ ([{ lastObservation :=
              { unixNs := 0x0101010101010101, valid := true } }] : List LinkRecord),
            Uniform link.lastObservation) :=
  timestamps_survive_iff _ _ (by decide)

end NvlinkFabric.Durable

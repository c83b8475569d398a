import NvlinkFabric.Durable.Layout
import NvlinkFabric.Durable.RoundTrip

/-!
# Canonical files

An accepted file is a header, the bytes of its tokens and their checksum.  The
writer spells the state that was read like these tokens except for truth values,
of which the reader takes every nonzero byte for true.  A file is therefore what is
written for its state exactly if it holds no truth value but zero and one.
-/

namespace NvlinkFabric.Durable

open Wire ByteReader

/-- The file around a payload. -/
def framed (payload : List UInt8) : Serialized :=
  let body := putU32 kMagic ++ putU32 kVersion ++
    putU32 (UInt32.ofNat payload.length) ++ payload
  { formatVersion := kVersion, bytes := body ++ putU32 (crc32 body) }

theorem serializedFile_eq (state : DurableState) :
    serializedFile state = framed (writeDurable state) := rfl

theorem framed_inj {left right : List UInt8} (same : framed left = framed right) :
    left = right := by
  have bytes := congrArg Serialized.bytes same
  obtain ⟨body, -⟩ := List.append_inj' bytes (by rw [length_putU32, length_putU32])
  exact (List.append_inj body (by simp only [List.length_append, length_putU32])).2

/-- An accepted file is framed. -/
theorem FileChecks.eq_framed {order : EvaluationOrder} {serialized : Serialized}
    {state : DurableState} {size : Nat}
    (checks : FileChecks order serialized state size) :
    serialized = framed ((serialized.bytes.drop 12).take size) := by
  obtain ⟨version, bytes⟩ := serialized
  obtain ⟨rfl, magicWord, versionWord, sizeWord, length, checksum, -⟩ := checks
  simp only at magicWord versionWord sizeWord length checksum ⊢
  have word {chunk : List UInt8} (four : chunk.length = 4) {value : UInt32}
      (spelled : UInt32.ofNat (LittleEndian.decode chunk) = value) :
        chunk = putU32 value := by
    rw [← spelled, putU32_ofNat_decode four]
  have magic : bytes.take 4 = putU32 kMagic :=
    word (by rw [List.length_take]; omega) magicWord
  have format : (bytes.drop 4).take 4 = putU32 kVersion :=
    word (by rw [List.length_take, List.length_drop]; omega) versionWord
  have announced : (bytes.drop 8).take 4 = putU32 (UInt32.ofNat size) :=
    word (by rw [List.length_take, List.length_drop]; omega) (by rw [sizeWord])
  have trailer : bytes.drop (12 + size) = putU32 (crc32 (bytes.take (12 + size))) :=
    word (by rw [List.length_drop]; omega) (by rw [checksum, UInt32.ofNat_toNat])
  have payloadSize : ((bytes.drop 12).take size).length = size := by
    rw [List.length_take, List.length_drop]
    omega
  have body : bytes.take (12 + size) = putU32 kMagic ++ putU32 kVersion ++
      putU32 (UInt32.ofNat size) ++ (bytes.drop 12).take size := by
    rw [← magic, ← format, ← announced, ← List.take_add, ← List.take_add (i := 8),
      ← List.take_add (i := 12)]
  rw [framed, payloadSize, ← body, ← trailer, List.take_append_drop]

theorem spells_payloadTokens (order : EvaluationOrder) :
    Spells (payloadTokens order) := by
  have records := (spells_counted fun count =>
    (List.replicate count.toNat deviceLayout).flatten).append <|
      spells_counted fun count =>
      (List.replicate count.toNat (linkLayout order.lastObservation)).flatten
  have payload := (spells_walk [.number 8]).append <|
    (spells_walk (timestampLayout order.savedAt)).append records
  simpa only [payloadTokens, putU32, bind_assoc, pure_bind,
    List.cons_append] using payload

/-- No read of an accepted payload failed. -/
theorem good_of_readPayload {order : EvaluationOrder} {cursor last : Cursor}
    {state : DurableState} (ok : (readPayload order).run cursor = .ok (state, last)) :
    last.bad = false := by
  obtain ⟨generation, _, -, ok⟩ := run_bind_ok ok
  obtain ⟨savedAt, _, -, ok⟩ := run_bind_ok ok
  obtain ⟨deviceCount, _, -, ok⟩ := run_bind_ok ok
  obtain ⟨_, _, -, ok⟩ := run_bind_ok ok
  obtain ⟨devices, _, -, ok⟩ := run_bind_ok ok
  obtain ⟨linkCount, _, -, ok⟩ := run_bind_ok ok
  obtain ⟨_, middle, passed, ok⟩ := run_bind_ok ok
  obtain ⟨links, final, loop, done⟩ := run_bind_ok ok
  obtain ⟨good, rfl⟩ := run_refuse_ok passed
  simp only [Bool.or_eq_false_iff] at good
  obtain ⟨-, rfl⟩ := Prod.mk.inj (Except.ok.inj done)
  exact good_of_records good.1 loop

/-- An accepted file is framed around the bytes of its tokens. -/
theorem eq_framed_tokens {order : EvaluationOrder} {serialized : Serialized}
    {state : DurableState} (ok : deserializeDurableState order serialized = .ok state) :
    serialized = framed ((fileTokens order serialized).flatMap Token.bytes) := by
  obtain ⟨size, checks⟩ := fileChecks_of_deserialize ok
  obtain ⟨last, payload, ends⟩ := checks.payload
  obtain ⟨moved, -⟩ := tracks_readPayload order _ _ _ payload
  have crosses := spells_payloadTokens order ⟨serialized.bytes, 12, false⟩
    (moved ▸ good_of_readPayload payload)
  have consumed : ((fileTokens order serialized).flatMap Token.bytes).length = size := by
    have position := congrArg Cursor.pos crosses.moved
    rw [moved, ends] at position
    exact (Nat.add_left_cancel position).symm
  have slice := crosses.slice
  rw [show (((payloadTokens order).run ⟨serialized.bytes, 12, false⟩).1.flatMap
    Token.bytes).length = size from consumed] at slice
  have framing := checks.eq_framed
  rw [fileTokens, ← slice]
  exact framing

/-- Every truth value of the file is zero or one. -/
def CanonicalFile (serialized : Serialized) : Prop :=
  ∀ token ∈ fileTokens {} serialized, token.Meets Mark.Canonical

theorem serialize_deserialized_iff {serialized : Serialized} {state : DurableState}
    (ok : deserializeDurableState {} serialized = .ok state) :
    serializeDurableState state = .ok serialized ↔ CanonicalFile serialized := by
  obtain ⟨size, checks⟩ := fileChecks_of_deserialize ok
  obtain ⟨last, payload, -⟩ := checks.payload
  obtain ⟨-, bytes, spelling, written⟩ := tracks_readPayload {} _ _ _ payload
  have respelled : writeDurable state =
      (fileTokens {} serialized).flatMap (Token.respell Mark.canonical) := by
    rw [← written rfl, ← spelling.spelled, fileTokens]
  have canonical : CanonicalFile serialized ↔ writeDurable state =
      (fileTokens {} serialized).flatMap Token.bytes := by
    rw [respelled, respell_eq_iff]
    simp only [CanonicalFile, Mark.canonical_eq_iff]
  rw [canonical, serializeDurableState, Except.ok.injEq, serializedFile_eq]
  constructor
  · intro same
    exact framed_inj (same.trans (eq_framed_tokens ok))
  · intro same
    rw [same]
    exact (eq_framed_tokens ok).symm

/-- With arguments evaluated from left to right, an accepted file is what is written for
its state exactly if its truth values are canonical.  Two such files of one state are
equal. -/
theorem deserialize_canonical {serialized : Serialized} {state : DurableState}
    (ok : deserializeDurableState {} serialized = .ok state) :
    (serializeDurableState state = .ok serialized ↔ CanonicalFile serialized) ∧
      ∀ other, deserializeDurableState {} other = .ok state → CanonicalFile serialized →
        CanonicalFile other → other = serialized := by
  refine ⟨serialize_deserialized_iff ok, fun other otherOk canonical otherCanonical => ?_⟩
  have written := (serialize_deserialized_iff ok).mpr canonical
  have otherWritten := (serialize_deserialized_iff otherOk).mpr otherCanonical
  exact Except.ok.inj (otherWritten.symm.trans written)

/-- What is written for the devices and the link of the worker is canonical. -/
theorem serializedFile_canonical :
    CanonicalFile (serializedFile
      { topologyGeneration := ⟨4⟩
        savedAt := { valid := true }
        devices := [Worker.sourceDevice ⟨1⟩, Worker.targetDevice ⟨1⟩]
        links := [Worker.link ⟨1⟩ {}] }) :=
  (deserialize_canonical (deserialize_serialized (by decide +kernel))).1.mp rfl

/-- A file without records whose only truth value is two. -/
def truthTwo : Serialized :=
  framed (List.replicate 16 0 ++ [2] ++ List.replicate 8 0)

/-- A truth value of two is read as true and written as one. -/
theorem truthTwo_not_canonical :
    ¬∀ (serialized : Serialized) (state : DurableState),
      deserializeDurableState {} serialized = .ok state →
      serializeDurableState state = .ok serialized := by
  intro always
  have read : deserializeDurableState {} truthTwo =
      .ok { savedAt := { valid := true } } := by decide +kernel
  exact absurd (always _ _ read) (by decide +kernel)

end NvlinkFabric.Durable

import NvlinkFabric.Records
import NvlinkFabric.Lib.Layout
import NvlinkFabric.Wire.Frame

/-!
# Declared enumerators

`declared` says of a record that every enumeration in it holds one of its
enumerators.  On the side of the bytes, `Mark` tells apart the positions at which
a format holds a code or a truth value.  `Spelling` relates tokens to what is
written for them: the writer spells them alike, except that it knows only two
truth values, and a value is declared exactly if the codes it was read from are.
-/

namespace NvlinkFabric

open Wire ByteReader

def EvidenceClass.declared : EvidenceClass → Bool
  | .undeclared _ _ => false
  | _ => true

def InterconnectTechnology.declared : InterconnectTechnology → Bool
  | .undeclared _ _ => false
  | _ => true

def DeviceHealthState.declared : DeviceHealthState → Bool
  | .undeclared _ _ => false
  | _ => true

def LinkOperationalState.declared : LinkOperationalState → Bool
  | .undeclared _ _ => false
  | _ => true

def NodeKind.declared : NodeKind → Bool
  | .undeclared _ _ => false
  | _ => true

def MeasurementSupport.declared : MeasurementSupport → Bool
  | .undeclared _ _ => false
  | _ => true

def Capability.declared (capability : Capability) : Bool :=
  capability.interconnect.declared && capability.measurementSupport.declared

def DeviceRecord.declared (device : DeviceRecord) : Bool :=
  device.kind.declared && device.capability.declared && device.health.declared &&
    device.evidence.evidenceClass.declared

def LinkRecord.declared (link : LinkRecord) : Bool :=
  link.state.declared && link.technology.declared && link.capability.declared &&
    link.evidence.evidenceClass.declared

def DurableState.declared (state : DurableState) : Bool :=
  state.devices.all (·.declared) && state.links.all (·.declared)

def MeasurementRecord.declared (measurement : MeasurementRecord) : Bool :=
  measurement.evidence.evidenceClass.declared

/-- What a byte stands for where not every value of it is meant. -/
inductive Mark where
  | evidenceClass | technology | deviceHealth | linkState | nodeKind | measurementSupport
  | truth
  deriving DecidableEq

namespace Mark

/-- The enumerators have the codes below this one. -/
def codes : Mark → Nat
  | .evidenceClass => 3
  | .technology => 6
  | .deviceHealth => 7
  | .linkState => 12
  | .nodeKind => 4
  | .measurementSupport => 4
  | .truth => 256

/-- The byte is the code of an enumerator. -/
def Declares (mark : Mark) (byte : UInt8) : Prop := byte.toNat < mark.codes

instance (mark : Mark) (byte : UInt8) : Decidable (mark.Declares byte) :=
  inferInstanceAs (Decidable (_ < _))

/-- The byte that is written for what the byte is read as. -/
def canonical (mark : Mark) (byte : UInt8) : UInt8 :=
  if mark = .truth ∧ byte ≠ 0 then 1 else byte

/-- A truth value is one of the two that are written. -/
def Canonical (mark : Mark) (byte : UInt8) : Prop := mark = .truth → byte = 0 ∨ byte = 1

theorem canonical_eq_iff (mark : Mark) (byte : UInt8) :
    mark.canonical byte = byte ↔ mark.Canonical byte := by
  unfold canonical Canonical
  split
  next written =>
    simp only [written.1, written.2, forall_const, false_or]
    exact eq_comm
  next kept =>
    simp only [not_and, not_not] at kept
    exact ⟨fun _ isTruth => .inl (kept isTruth), fun _ => rfl⟩

end Mark

/-- How the bytes under a mark are read as an enumeration. -/
structure Coded {α : Type} (mark : Mark) (ofByte : UInt8 → α) (toByte : α → UInt8)
    (declared : α → Bool) : Prop where
  notTruth : mark ≠ .truth
  toByte_ofByte : ∀ code, toByte (ofByte code) = code
  declared_ofByte : ∀ code, declared (ofByte code) = true ↔ mark.Declares code

theorem forall_byte {property : UInt8 → Prop}
    (each : ∀ index : Fin 256, property (UInt8.ofFin index)) (byte : UInt8) :
    property byte :=
  each byte.toFin

theorem EvidenceClass.coded : Coded .evidenceClass ofByte toByte declared :=
  ⟨by decide, forall_byte (by decide +kernel), forall_byte (by decide +kernel)⟩

theorem InterconnectTechnology.coded : Coded .technology ofByte toByte declared :=
  ⟨by decide, forall_byte (by decide +kernel), forall_byte (by decide +kernel)⟩

theorem DeviceHealthState.coded : Coded .deviceHealth ofByte toByte declared :=
  ⟨by decide, forall_byte (by decide +kernel), forall_byte (by decide +kernel)⟩

theorem LinkOperationalState.coded : Coded .linkState ofByte toByte declared :=
  ⟨by decide, forall_byte (by decide +kernel), forall_byte (by decide +kernel)⟩

theorem NodeKind.coded : Coded .nodeKind ofByte toByte declared :=
  ⟨by decide, forall_byte (by decide +kernel), forall_byte (by decide +kernel)⟩

theorem MeasurementSupport.coded : Coded .measurementSupport ofByte toByte declared :=
  ⟨by decide, forall_byte (by decide +kernel), forall_byte (by decide +kernel)⟩

/-- Up to truth values the tokens are spelled by the bytes, and `declared` tells whether
the codes among them are. -/
structure Spelling (tokens : List (Token Mark)) (bytes : List UInt8) (declared : Bool) :
    Prop where
  spelled : tokens.flatMap (Token.respell Mark.canonical) = bytes
  declared_iff : declared = true ↔ ∀ token ∈ tokens, token.Meets Mark.Declares

namespace Spelling

variable {tokens more : List (Token Mark)} {bytes rest : List UInt8}
  {declared others : Bool}

theorem nil : Spelling [] [] true := ⟨rfl, by simp⟩

theorem append (head : Spelling tokens bytes declared)
    (tail : Spelling more rest others) :
    Spelling (tokens ++ more) (bytes ++ rest) (declared && others) := by
  constructor
  · rw [List.flatMap_append, head.spelled, tail.spelled]
  · rw [List.forall_mem_append, ← head.declared_iff, ← tail.declared_iff,
      Bool.and_eq_true]

theorem congr (spelling : Spelling tokens bytes declared) (sameBytes : bytes = rest)
    (sameFlag : declared = others) : Spelling tokens rest others :=
  sameBytes ▸ sameFlag ▸ spelling

theorem plain (bytes : List UInt8) : Spelling [.plain bytes] bytes true :=
  ⟨by simp [Token.respell], by simp [Token.Meets]⟩

theorem truth (byte : UInt8) :
    Spelling [.marked .truth byte] (putBool (byte != 0)) true := by
  have bound : Mark.truth.Declares byte := byte.toNat_lt
  refine ⟨?_, by simp [Token.Meets, bound]⟩
  by_cases zero : byte = 0
  · simp [zero, Token.respell, Mark.canonical, putBool, putU8, LittleEndian.encode]
  · simp [zero, Token.respell, Mark.canonical, putBool, putU8, LittleEndian.encode]

/-- Tokens of records, one group for each.  The bytes need not be known to be those of
the writer. -/
theorem flatten {α : Type} {encode : α → List UInt8} {declared : α → Bool} {exact : Prop}
    {values : List α} {groups : List (List (Token Mark))}
    (each : List.Forall₂ (fun value tokens => ∃ bytes,
      Spelling tokens bytes (declared value) ∧
      (exact → bytes = encode value)) values groups) :
    ∃ bytes, Spelling groups.flatten bytes (values.all declared) ∧
      (exact → bytes = values.flatMap encode) := by
  induction each with
  | nil => exact ⟨[], .nil, fun _ => rfl⟩
  | cons first _ ih =>
      obtain ⟨bytes, spelling, same⟩ := first
      obtain ⟨rest, others, sameRest⟩ := ih
      refine ⟨bytes ++ rest, (spelling.append others).congr rfl List.all_cons.symm, ?_⟩
      intro isExact
      rw [same isExact, sameRest isExact, List.flatMap_cons]

end Spelling

section Leaves

variable {α β : Type} {encode : α → List UInt8} {declared : α → Bool}

/-- The writer spells the value like the tokens, and the value is declared exactly if
they are. -/
def Matches (encode : α → List UInt8) (declared : α → Bool) (value : α)
    (tokens : List (Token Mark)) : Prop :=
  Spelling tokens (encode value) (declared value)

theorem follows_word : Follows u64 (walk [.number 8]) (Matches putU64 fun _ => true) := by
  intro cursor
  obtain ⟨moved, read⟩ := follows_u64 cursor
  exact ⟨moved, read ▸ .plain _⟩

theorem follows_half : Follows u32 (walk [.number 4]) (Matches putU32 fun _ => true) := by
  intro cursor
  obtain ⟨moved, read⟩ := follows_u32 cursor
  exact ⟨moved, read ▸ .plain _⟩

theorem follows_string (limit : Option Nat) :
    Follows (text limit) (walk [.text limit])
      (Matches (fun content => LittleEndian.encode 2 content.length ++ content)
        fun _ => true) := by
  intro cursor
  obtain ⟨moved, read⟩ := follows_text limit cursor
  exact ⟨moved, read ▸ .plain _⟩

theorem follows_truth :
    Follows flag (walk [.marked .truth]) (Matches putBool fun _ => true) := by
  intro cursor
  obtain ⟨moved, byte, value, read⟩ := follows_flag Mark.truth cursor
  refine ⟨moved, ?_⟩
  rw [read, ← value]
  exact .truth byte

theorem follows_code {mark : Mark} {ofByte : UInt8 → α} {toByte : α → UInt8}
    (coded : Coded mark ofByte toByte declared) :
    Follows (ofByte <$> u8) (walk [.marked mark])
      (Matches (fun value => putU8 (toByte value)) declared) := by
  refine (follows_u8 mark).map ?_
  rintro code tokens rfl
  constructor
  · simp [Token.respell, Mark.canonical, coded.notTruth, coded.toByte_ofByte, putU8,
      LittleEndian.encode]
  · simp [Token.Meets, coded.declared_ofByte]

/-- A value that wraps what was read. -/
theorem follows_wrapped {reader : ByteReader α} {layout : List (Slot Mark)} {wrap : α → β}
    (unwrap : β → α) (inverse : ∀ value, unwrap (wrap value) = value)
    (follows : Follows reader (walk layout) (Matches encode fun _ => true)) :
    Follows (wrap <$> reader) (walk layout)
      (Matches (fun value => encode (unwrap value)) fun _ => true) := by
  refine follows.map fun value tokens read => ?_
  rwa [Matches, inverse]

theorem follows_presence {reader : ByteReader α} {width : Nat}
    (follows : Follows reader (walk [.number width]) (Matches encode fun _ => true)) :
    Follows (optional reader) (walk [.optional .truth width])
      (Matches (encodeOptional encode) fun _ => true) := by
  intro cursor
  obtain ⟨moved, read⟩ := follows_optional Mark.truth follows cursor
  refine ⟨moved, ?_⟩
  rcases read with ⟨absent, read⟩ | ⟨value, byte, more, present, nonzero, spelled, read⟩
  · rw [absent, read]
    exact .truth 0
  · rw [present, read]
    refine ((Spelling.truth byte).append spelled).congr ?_ rfl
    simp [nonzero, putBool, putU8, LittleEndian.encode, encodeOptional]

end Leaves

end NvlinkFabric

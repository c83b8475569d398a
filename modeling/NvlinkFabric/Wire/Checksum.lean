import NvlinkFabric.Lib.Crc

/-!
# The checksum of both formats

Frames and durable files end in the same little-endian CRC-32 of everything
before it.  `Checksummed` is the part of both decoders that looks at the
checksum; two checksummed strings never differ in one window of four bytes.
-/

namespace NvlinkFabric

/-- The reversed polynomial of CRC-32. -/
def crcPolynomial : BitVec 32 := 0xEDB88320#32

/-- `crc32`.  The mask of the source is all ones exactly when the low bit of the
register is set. -/
def crc32 (data : List UInt8) : UInt32 :=
  ⟨~~~Crc.register crcPolynomial 0xFFFFFFFF#32 data⟩

/-- The last four bytes are the checksum of the others. -/
def Checksummed (bytes : List UInt8) : Prop :=
  ∃ message checksum : List UInt8, bytes = message ++ checksum ∧ checksum.length = 4 ∧
    LittleEndian.decode checksum = (crc32 message).toNat

/-- Two strings of one length differ, and only within four consecutive bytes. -/
def DiffersInWindow (left right : List UInt8) : Prop :=
  left.length = right.length ∧ left ≠ right ∧
    ∃ start, ∀ index, index < start ∨ start + 4 ≤ index → left[index]? = right[index]?

/-- Overwriting one byte by another value is such a difference. -/
theorem differsInWindow_set {bytes : List UInt8} {index : Nat} {byte : UInt8}
    (changed : bytes[index]? ≠ some byte) (inside : index < bytes.length) :
    DiffersInWindow bytes (bytes.set index byte) := by
  refine ⟨by simp, fun same => changed ?_, index, fun other outside => ?_⟩
  · rw [same]
    simp [inside]
  · rw [List.getElem?_set_ne (by omega)]

theorem checksummed_append (message : List UInt8) :
    Checksummed (message ++ LittleEndian.encode 4 (crc32 message).toNat) :=
  ⟨message, _, rfl, LittleEndian.length_encode _ _,
    LittleEndian.decode_encode (crc32 message).toNat_lt⟩

/-- All checksummed strings leave the same register. -/
theorem Checksummed.residue {bytes : List UInt8} (checksummed : Checksummed bytes) :
    Crc.register crcPolynomial 0xFFFFFFFF#32 bytes =
      (Crc.shiftBit crcPolynomial)^[32] (BitVec.allOnes 32) := by
  obtain ⟨message, checksum, rfl, length, stored⟩ := checksummed
  have inverted : BitVec.ofNat 32 (LittleEndian.decode checksum) =
      ~~~Crc.register crcPolynomial 0xFFFFFFFF#32 message := by
    rw [stored]
    exact BitVec.ofNat_toNat ..
  rw [Crc.register_residue crcPolynomial (by omega) inverted, length]

/-- The bytes before, inside and after the window. -/
theorem DiffersInWindow.split {left right : List UInt8}
    (differs : DiffersInWindow left right) :
    ∃ before middle changed after, left = before ++ middle ++ after ∧
      right = before ++ changed ++ after ∧ middle.length = changed.length ∧
      middle.length ≤ 4 ∧ middle ≠ changed := by
  obtain ⟨length, different, start, same⟩ := differs
  have before : left.take start = right.take start := by
    apply List.ext_getElem?
    intro index
    simp only [List.getElem?_take]
    split
    next inside => exact same index (.inl inside)
    · rfl
  have after : left.drop (start + 4) = right.drop (start + 4) := by
    apply List.ext_getElem?
    intro index
    simp only [List.getElem?_drop]
    exact same _ (.inr (by omega))
  have parts (bytes : List UInt8) : bytes =
      bytes.take start ++ (bytes.drop start).take 4 ++ bytes.drop (start + 4) := by
    rw [List.append_assoc, ← List.drop_drop, List.take_append_drop, List.take_append_drop]
  refine ⟨_, _, _, _, parts left, by rw [before, after]; exact parts right, ?_, ?_, ?_⟩
  · simp [length]
  · simp
  · intro middle
    apply different
    rw [parts left, parts right, before, middle, after]

/-- A checksummed string stays checksummed under no change within a window. -/
theorem Checksummed.not_differsInWindow {left right : List UInt8}
    (leftChecked : Checksummed left) (rightChecked : Checksummed right) :
    ¬DiffersInWindow left right := by
  intro differs
  have equal := leftChecked.residue.trans rightChecked.residue.symm
  obtain ⟨before, middle, changed, after, rfl, rfl, length, short, different⟩ :=
    differs.split
  exact Crc.register_window_ne crcPolynomial (by decide) length (by omega)
    different _ equal

end NvlinkFabric

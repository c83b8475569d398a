import NvlinkFabric.Lib.LittleEndian
import Mathlib.Logic.Function.Iterate

/-!
# Reflected cyclic redundancy checks

The register shifts right once per message bit and folds the polynomial in when
a one leaves it.  A shift is linear over exclusive or, and injective as soon as
the polynomial has its top coefficient.  Feeding at most a register's width of
bytes therefore acts like one exclusive or with their little-endian number
followed by shifts (`register_eq`), which gives both facts of this module: no
change within such a window goes unnoticed, and a message followed by its own
inverted checksum always leaves the same residue.
-/

namespace Crc

variable {width : Nat} (poly : BitVec width)

/-- Shift one bit out of the register. -/
def shiftBit (register : BitVec width) : BitVec width :=
  (register >>> 1) ^^^ (if register.getLsbD 0 then poly else BitVec.ofNat width 0)

/-- Feed one byte, lowest bit first. -/
def feed (register : BitVec width) (byte : UInt8) : BitVec width :=
  (shiftBit poly)^[8] (register ^^^ BitVec.ofNat width byte.toNat)

/-- The register after a message. -/
def register (start : BitVec width) (message : List UInt8) : BitVec width :=
  message.foldl (feed poly) start

theorem register_append (start : BitVec width) (first second : List UInt8) :
    register poly start (first ++ second) =
      register poly (register poly start first) second :=
  List.foldl_append

theorem shiftBit_xor (left right : BitVec width) :
    shiftBit poly (left ^^^ right) = shiftBit poly left ^^^ shiftBit poly right := by
  simp only [shiftBit, BitVec.ushiftRight_xor_distrib, BitVec.getLsbD_xor]
  cases left.getLsbD 0 <;> cases right.getLsbD 0
  · simp
  · simp only [Bool.false_bne, if_true, Bool.false_eq_true, if_false, BitVec.xor_zero]
    ac_rfl
  · simp only [Bool.bne_false, if_true, Bool.false_eq_true, if_false, BitVec.xor_zero]
    ac_rfl
  · calc left >>> 1 ^^^ right >>> 1 ^^^ BitVec.ofNat width 0
        = left >>> 1 ^^^ right >>> 1 ^^^ (poly ^^^ poly) := by rw [BitVec.xor_self]
      _ = left >>> 1 ^^^ poly ^^^ (right >>> 1 ^^^ poly) := by ac_rfl

theorem shiftBits_xor (count : Nat) (left right : BitVec width) :
    (shiftBit poly)^[count] (left ^^^ right) =
      (shiftBit poly)^[count] left ^^^ (shiftBit poly)^[count] right := by
  induction count generalizing left right with
  | zero => rfl
  | succ count ih => simp only [Function.iterate_succ_apply, shiftBit_xor, ih]

/-- Shifting undoes a left shift that lost nothing. -/
theorem shiftBits_shiftLeft {value count : Nat} (fits : value * 2 ^ count < 2 ^ width) :
    (shiftBit poly)^[count] (BitVec.ofNat width (value * 2 ^ count)) =
      BitVec.ofNat width value := by
  induction count with
  | zero => simp
  | succ count ih =>
      have half : value * 2 ^ (count + 1) = value * 2 ^ count * 2 := by ring
      have step : shiftBit poly (BitVec.ofNat width (value * 2 ^ (count + 1))) =
          BitVec.ofNat width (value * 2 ^ count) := by
        have even : (BitVec.ofNat width (value * 2 ^ (count + 1))).getLsbD 0 = false := by
          simp [BitVec.getLsbD_ofNat, half]
        simp only [shiftBit, even, Bool.false_eq_true, if_false]
        apply BitVec.eq_of_toNat_eq
        have fitsHalf : value * 2 ^ count < 2 ^ width := by omega
        rw [BitVec.xor_zero, BitVec.toNat_ushiftRight, BitVec.toNat_ofNat,
          BitVec.toNat_ofNat, Nat.mod_eq_of_lt fits, Nat.mod_eq_of_lt fitsHalf, half,
          Nat.shiftRight_one]
        omega
      rw [Function.iterate_succ_apply, step]
      exact ih (by omega)

section Injective

variable {poly} (top : poly.getLsbD (width - 1) = true)

include top

/-- The top coefficient tells whether the polynomial was folded in. -/
theorem eq_zero_of_shiftBit_eq_zero {register : BitVec width}
    (zero : shiftBit poly register = BitVec.ofNat width 0) :
    register = BitVec.ofNat width 0 := by
  have positive : 0 < width := by
    by_contra empty
    simp [BitVec.getLsbD_of_ge poly (width - 1) (by omega)] at top
  have even : register.getLsbD 0 = false := by
    by_contra notEven
    have odd : register.getLsbD 0 = true := by simpa using notEven
    have topBit := congrArg (BitVec.getLsbD · (width - 1)) zero
    have shiftedOut : register.getLsbD (1 + (width - 1)) = false :=
      BitVec.getLsbD_of_ge register _ (by omega)
    simp only [shiftBit, odd, if_true, BitVec.getLsbD_xor, BitVec.getLsbD_ushiftRight,
      shiftedOut, top, BitVec.getLsbD_zero] at topBit
    simp at topBit
  simp only [shiftBit, even, Bool.false_eq_true, if_false, BitVec.xor_zero] at zero
  apply BitVec.eq_of_getLsbD_eq
  intro index bound
  cases index with
  | zero => simpa using even
  | succ index =>
      have bit := congrArg (BitVec.getLsbD · index) zero
      simpa [Nat.add_comm] using bit

theorem shiftBit_injective : Function.Injective (shiftBit poly) := by
  intro left right equal
  have difference : shiftBit poly (left ^^^ right) = BitVec.ofNat width 0 := by
    rw [shiftBit_xor, equal, BitVec.xor_self]
  exact BitVec.xor_eq_zero_iff.mp (eq_zero_of_shiftBit_eq_zero top difference)

theorem feed_injective (byte : UInt8) : Function.Injective (feed poly · byte) := by
  intro left right equal
  exact BitVec.xor_left_inj _ |>.mp ((shiftBit_injective top).iterate 8 equal)

theorem register_injective (message : List UInt8) :
    Function.Injective (register poly · message) := by
  induction message with
  | nil => exact Function.injective_id
  | cons byte message ih => exact ih.comp (feed_injective top byte)

end Injective

/-- A low byte and a number above it do not overlap. -/
theorem ofNat_byte_add (byte : UInt8) (rest : Nat) :
    BitVec.ofNat width (byte.toNat + 256 * rest) =
      BitVec.ofNat width byte.toNat ^^^ BitVec.ofNat width (rest * 2 ^ 8) := by
  rw [← BitVec.ofNat_xor]
  congr 1
  have bound : byte.toNat < 2 ^ 8 := byte.toNat_lt
  have sum : byte.toNat + 256 * rest = 2 ^ 8 * rest + byte.toNat := by omega
  apply Nat.eq_of_testBit_eq
  intro index
  rw [sum, Nat.testBit_two_pow_mul_add rest bound, Nat.testBit_xor,
    Nat.testBit_mul_two_pow]
  split
  next low => simp [Nat.not_le.mpr low]
  next high =>
    rw [Nat.testBit_lt_two_pow (bound.trans_le (Nat.pow_le_pow_right (by decide)
      (Nat.not_lt.mp high)))]
    simp [Nat.not_lt.mp high]

/-- Bytes that fit the register act like one exclusive or with their number. -/
theorem register_eq {message : List UInt8} (fits : 8 * message.length ≤ width)
    (start : BitVec width) :
    register poly start message =
      (shiftBit poly)^[8 * message.length]
        (start ^^^ BitVec.ofNat width (LittleEndian.decode message)) := by
  induction message generalizing start with
  | nil => simp [register, LittleEndian.decode]
  | cons byte message ih =>
      rw [List.length_cons] at fits
      have small : LittleEndian.decode message * 2 ^ 8 < 2 ^ width := by
        have bound := LittleEndian.decode_lt message
        calc LittleEndian.decode message * 2 ^ 8
            < 256 ^ message.length * 2 ^ 8 := by omega
          _ = 2 ^ (8 * (message.length + 1)) := by
              rw [Nat.mul_add, Nat.pow_add, Nat.pow_mul]
          _ ≤ 2 ^ width := Nat.pow_le_pow_right (by decide) fits
      calc register poly start (byte :: message)
          = (shiftBit poly)^[8 * message.length]
              (feed poly start byte ^^^ BitVec.ofNat width
                (LittleEndian.decode message)) :=
            ih (by omega) _
        _ = (shiftBit poly)^[8 * message.length] ((shiftBit poly)^[8]
              (start ^^^ BitVec.ofNat width byte.toNat ^^^
                BitVec.ofNat width (LittleEndian.decode message * 2 ^ 8))) := by
            rw [shiftBits_xor poly 8, shiftBits_shiftLeft poly small, feed]
        _ = (shiftBit poly)^[8 * (byte :: message).length] (start ^^^
              BitVec.ofNat width (LittleEndian.decode (byte :: message))) := by
            rw [← Function.iterate_add_apply, BitVec.xor_assoc, ← ofNat_byte_add,
              LittleEndian.decode, List.length_cons, Nat.mul_add]

/-- Two messages that differ only within a window of the register's width leave
different registers. -/
theorem register_window_ne (top : poly.getLsbD (width - 1) = true)
    {before left right after : List UInt8} (length : left.length = right.length)
    (fits : 8 * left.length ≤ width) (different : left ≠ right) (start : BitVec width) :
    register poly start (before ++ left ++ after) ≠
      register poly start (before ++ right ++ after) := by
  intro equal
  simp only [register_append] at equal
  have middle := register_injective top after equal
  have fitsRight : 8 * right.length ≤ width := length ▸ fits
  rw [register_eq poly fits (register poly start before),
    register_eq poly fitsRight (register poly start before), length] at middle
  have numbers := BitVec.xor_right_inj _ |>.mp
    ((shiftBit_injective top).iterate _ middle)
  have inRange (message : List UInt8) (short : 8 * message.length ≤ width) :
      LittleEndian.decode message < 2 ^ width := by
    calc LittleEndian.decode message < 256 ^ message.length :=
      LittleEndian.decode_lt message
      _ = 2 ^ (8 * message.length) := by rw [Nat.pow_mul]
      _ ≤ 2 ^ width := Nat.pow_le_pow_right (by decide) short
  have values := congrArg BitVec.toNat numbers
  rw [BitVec.toNat_ofNat, BitVec.toNat_ofNat, Nat.mod_eq_of_lt (inRange left fits),
    Nat.mod_eq_of_lt (inRange right fitsRight)] at values
  exact different (LittleEndian.decode_inj length values)

/-- A message followed by its inverted register leaves a residue that does not
depend on the message. -/
theorem register_residue {message checksum : List UInt8}
    (fits : 8 * checksum.length ≤ width) {start : BitVec width}
    (stored : BitVec.ofNat width (LittleEndian.decode checksum) =
      ~~~register poly start message) :
    register poly start (message ++ checksum) =
      (shiftBit poly)^[8 * checksum.length] (BitVec.allOnes width) := by
  have ones : register poly start message ^^^ ~~~register poly start message =
      BitVec.allOnes width := by
    rw [← BitVec.not_xor_right, BitVec.xor_self, BitVec.not_zero]
  rw [register_append, register_eq poly fits, stored, ones]

end Crc

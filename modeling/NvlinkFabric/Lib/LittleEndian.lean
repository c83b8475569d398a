import Mathlib.Algebra.Order.Ring.Nat
import Mathlib.Tactic.Ring

/-!
# Little-endian numbers

A number is written as a fixed count of bytes, lowest first; higher bits are
dropped.  Reading is total on byte lists and inverts writing in both directions
once the count is fixed.
-/

namespace LittleEndian

/-- The lowest `count` bytes of a number. -/
def encode : Nat → Nat → List UInt8
  | 0, _ => []
  | count + 1, value => UInt8.ofNat value :: encode count (value / 256)

/-- The number a list of bytes spells. -/
def decode : List UInt8 → Nat
  | [] => 0
  | byte :: bytes => byte.toNat + 256 * decode bytes

@[simp] theorem length_encode (count value : Nat) :
    (encode count value).length = count := by
  induction count generalizing value with
  | zero => rfl
  | succ count ih => simp [encode, ih]

/-- Only the bits that fit are written. -/
theorem encode_mod (count value : Nat) :
    encode count (value % 256 ^ count) = encode count value := by
  induction count generalizing value with
  | zero => rfl
  | succ count ih =>
      rw [encode, encode, pow_succ', Nat.mod_mul, Nat.add_mul_div_left _ _ (by decide),
        Nat.div_eq_of_lt (Nat.mod_lt _ (by decide)), Nat.zero_add, ih]
      congr 1
      apply UInt8.toNat_inj.mp
      rw [UInt8.toNat_ofNat', UInt8.toNat_ofNat']
      omega

theorem decode_encode {count value : Nat} (fits : value < 256 ^ count) :
    decode (encode count value) = value := by
  induction count generalizing value with
  | zero =>
      simp only [pow_zero, Nat.lt_one_iff] at fits
      simp [encode, decode, fits]
  | succ count ih =>
      have rest : value / 256 < 256 ^ count := by
        rw [Nat.div_lt_iff_lt_mul (by decide)]
        rwa [pow_succ] at fits
      rw [encode, decode, ih rest, UInt8.toNat_ofNat']
      omega

theorem decode_lt (bytes : List UInt8) : decode bytes < 256 ^ bytes.length := by
  induction bytes with
  | nil => simp [decode]
  | cons byte bytes ih =>
      have bound := byte.toNat_lt
      rw [decode, List.length_cons, pow_succ]
      omega

theorem decode_append (low high : List UInt8) :
    decode (low ++ high) = decode low + 256 ^ low.length * decode high := by
  induction low with
  | nil => simp [decode]
  | cons byte low ih =>
      rw [List.cons_append, decode, decode, ih, List.length_cons, pow_succ]
      ring

theorem encode_decode (bytes : List UInt8) :
    encode bytes.length (decode bytes) = bytes := by
  induction bytes with
  | nil => rfl
  | cons byte bytes ih =>
      have bound := byte.toNat_lt
      have rest : (byte.toNat + 256 * decode bytes) / 256 = decode bytes := by omega
      have first : UInt8.ofNat (byte.toNat + 256 * decode bytes) = byte := by
        apply UInt8.toNat_inj.mp
        rw [UInt8.toNat_ofNat']
        omega
      rw [List.length_cons, decode, encode, rest, first, ih]

/-- Two numbers written one after the other are one number. -/
theorem encode_append {count low : Nat} (fits : low < 256 ^ count) (rest high : Nat) :
    encode count low ++ encode rest high =
      encode (count + rest) (low + 256 ^ count * high) := by
  induction count generalizing low with
  | zero =>
      simp only [pow_zero, Nat.lt_one_iff] at fits
      simp [encode, fits]
  | succ count ih =>
      have upper : low / 256 < 256 ^ count := by
        rw [Nat.div_lt_iff_lt_mul (by decide)]
        rwa [pow_succ] at fits
      have shifted : (low + 256 ^ (count + 1) * high) / 256 =
          low / 256 + 256 ^ count * high := by
        rw [pow_succ', mul_assoc, Nat.add_mul_div_left _ _ (by decide)]
      have first : UInt8.ofNat (low + 256 ^ (count + 1) * high) = UInt8.ofNat low := by
        apply UInt8.toNat_inj.mp
        rw [UInt8.toNat_ofNat', UInt8.toNat_ofNat', pow_succ', mul_assoc]
        omega
      rw [show count + 1 + rest = count + rest + 1 by omega, encode, encode,
        List.cons_append, ih upper, shifted, first]

/-- Byte lists of one length that spell the same number are equal. -/
theorem decode_inj {left right : List UInt8} (length : left.length = right.length)
    (equal : decode left = decode right) : left = right := by
  rw [← encode_decode left, length, equal, encode_decode]

end LittleEndian

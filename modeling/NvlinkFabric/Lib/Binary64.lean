import Mathlib

/-!
# Binary64 numbers

Lean's `Float` computes in IEEE 754 binary64.  Rationals are rounded to it, and the
comparisons of numbers are read through a key in a linear order: the class, the
exponent and the mantissa, with both signs of zero in one place.  Only a NaN has no
place among the others.
-/

namespace Binary64

open Float.Model

/-- An integer before rounding. -/
def whole : ℤ → UnpackedFloat
  | .ofNat 0 => .zero .positive
  | .ofNat (value + 1) => .finite .positive (value + 1) 0 value.succ_pos
  | .negSucc value => .finite .negative (value + 1) 0 value.succ_pos

/-- The number nearest to a rational, ties to even. -/
def nearest (value : ℚ) : Float :=
  .ofModel (.pack (.div .binary64 (whole value.num) (whole value.den)))

example : nearest (1 / 10) = 0.1 := by decide +kernel

/-- Where an unpacked number stands among the others. -/
def unpackedPlace : UnpackedFloat → ℤ ×ₗ ℤ ×ₗ ℤ
  | .infinity .positive => toLex (2, toLex (0, 0))
  | .infinity .negative => toLex (-2, toLex (0, 0))
  | .notANumber | .zero _ => toLex (0, toLex (0, 0))
  | .finite .positive mantissa exponent _ => toLex (1, toLex (exponent, (mantissa : ℤ)))
  | .finite .negative mantissa exponent _ =>
      toLex (-1, toLex (-exponent, -(mantissa : ℤ)))

/-- Where a number stands among the others. -/
def place (number : Float) : ℤ ×ₗ ℤ ×ₗ ℤ :=
  unpackedPlace number.toModel.unpack

theorem unpacked_lt_iff {left right : UnpackedFloat} (leftNumber : left.isNaN = false)
    (rightNumber : right.isNaN = false) :
    left.lt right = true ↔ unpackedPlace left < unpackedPlace right := by
  rcases left with leftSign | _ | leftSign | ⟨leftSign, leftMantissa, leftExponent, _⟩ <;>
    rcases right with rightSign | _ | rightSign | ⟨rightSign, rightMantissa,
        rightExponent, _⟩
  all_goals try cases leftSign
  all_goals try cases rightSign
  -- Only two numbers of one sign need more than their classes.
  all_goals simp only [UnpackedFloat.isNaN, reduceCtorEq] at leftNumber rightNumber
  case finite.finite.positive.positive =>
    simp [UnpackedFloat.lt, UnpackedFloat.compare, unpackedPlace, Prod.Lex.toLex_lt_toLex,
      Ordering.then_eq_lt, compare_lt_iff_lt]
  case finite.finite.negative.negative =>
    simp [UnpackedFloat.lt, UnpackedFloat.compare, unpackedPlace, Prod.Lex.toLex_lt_toLex,
      Ordering.swap_then, Ordering.then_eq_lt, compare_gt_iff_gt]
  all_goals
    simp [UnpackedFloat.lt, UnpackedFloat.compare, unpackedPlace, Prod.Lex.toLex_lt_toLex]
  all_goals decide

theorem unpacked_beq_iff {left right : UnpackedFloat} (leftNumber : left.isNaN = false)
    (rightNumber : right.isNaN = false) :
    left.beq right = true ↔ unpackedPlace left = unpackedPlace right := by
  rcases left with leftSign | _ | leftSign | ⟨leftSign, leftMantissa, leftExponent, _⟩ <;>
    rcases right with rightSign | _ | rightSign | ⟨rightSign, rightMantissa,
        rightExponent, _⟩
  all_goals try cases leftSign
  all_goals try cases rightSign
  all_goals simp only [UnpackedFloat.isNaN, reduceCtorEq] at leftNumber rightNumber
  all_goals
    simp [UnpackedFloat.beq, UnpackedFloat.compare, unpackedPlace, Ordering.swap_then,
      Ordering.then_eq_eq]
  all_goals decide

variable {left right : Float}

/-- What is not a NaN is ordered by its place. -/
theorem lt_iff (leftNumber : left.isNaN = false) (rightNumber : right.isNaN = false) :
    left < right ↔ place left < place right := by
  rw [place, place, ← unpacked_lt_iff leftNumber rightNumber]
  exact decide_eq_true_iff

theorem beq_iff (leftNumber : left.isNaN = false) (rightNumber : right.isNaN = false) :
    (left == right) = true ↔ place left = place right := by
  rw [place, place, ← unpacked_beq_iff leftNumber rightNumber]
  exact Iff.rfl

end Binary64

import Interception.Proofs.Number.Exact
import Mathlib.Data.Rat.Floor
import Mathlib.Tactic.Linarith

/-!
# Integer parts

The integer part of an exact value is taken toward zero. It lies in the range of a
width just when the value lies strictly between the two integers around the range,
so a fraction beyond the last integer of a range still falls into it.
-/

set_option autoImplicit false

namespace Interception

def towardZero (exact : Rat) : Int :=
  if exact < 0 then ⌈exact⌉ else ⌊exact⌋

theorem towardZero_mkRat (numerator : Int) {denominator : Nat} (positive : 0 < denominator) :
    towardZero (mkRat numerator denominator) = numerator.tdiv denominator := by
  have denominatorPositive : (0 : Rat) < denominator := Nat.cast_pos.mpr positive
  rw [towardZero, Rat.mkRat_eq_div]
  by_cases negative : numerator < 0
  · have below : (numerator : Rat) / denominator < 0 :=
      div_neg_of_neg_of_pos (Int.cast_lt_zero.mpr negative) denominatorPositive
    rw [if_pos below, Rat.ceil_intCast_div_natCast,
      ← Int.tdiv_eq_ediv_of_nonneg (Int.neg_nonneg_of_nonpos negative.le), Int.neg_tdiv,
      Int.neg_neg]
  · have nonneg : ¬ (numerator : Rat) / denominator < 0 :=
      not_lt.mpr (div_nonneg (Int.cast_nonneg (not_lt.mp negative)) denominatorPositive.le)
    rw [if_neg nonneg, Rat.floor_intCast_div_natCast,
      Int.tdiv_eq_ediv_of_nonneg (not_lt.mp negative)]

@[simp] theorem towardZero_intCast (integer : Int) : towardZero integer = integer := by
  simp [towardZero]

namespace Width

theorem least_nonpos (width : Width) : width.least ≤ 0 :=
  width.holds_zero.1

theorem greatest_nonneg (width : Width) : 0 ≤ width.greatest :=
  width.holds_zero.2

/-- The end of the range on the other side of zero plays no part. -/
theorem holds_towardZero_iff (width : Width) (exact : Rat) :
    width.Holds (towardZero exact) ↔
      (width.least : Rat) - 1 < exact ∧ exact < width.greatest + 1 := by
  have least : (width.least : Rat) ≤ 0 := Int.cast_nonpos.mpr width.least_nonpos
  have greatest : (0 : Rat) ≤ width.greatest := Int.cast_nonneg width.greatest_nonneg
  rw [Holds, towardZero]
  split
  · rename_i negative
    rw [Int.le_ceil_iff]
    refine and_congr_right fun _ => iff_of_true ?_ ?_
    · have notPositive : ⌈exact⌉ ≤ 0 := Int.ceil_le.mpr (by exact_mod_cast negative.le)
      exact notPositive.trans width.greatest_nonneg
    · linarith
  · rename_i nonneg
    rw [not_lt] at nonneg
    rw [← Int.lt_add_one_iff (a := ⌊exact⌋), Int.floor_lt, Int.cast_add, Int.cast_one]
    refine and_congr_left fun _ => iff_of_true ?_ ?_
    · exact width.least_nonpos.trans (Int.floor_nonneg.mpr nonneg)
    · linarith

end Width

namespace Binary

variable {precision : Precision}

theorem truncate?_eq_towardZero (number : Binary precision) :
    number.truncate? = number.toRat?.map towardZero := by
  rw [truncate?, toRat?, Option.map_map]
  refine congrArg (number.units?.map ·) (funext fun units => ?_)
  have denominator : ((2 ^ precision.scale : Nat) : Int) = 2 ^ precision.scale := by
    push_cast
    rfl
  rw [Function.comp_apply, towardZero_mkRat units (Nat.two_pow_pos _), denominator]

/-- All but infinities and what is not a number have an exact value. -/
theorem toRat?_eq_none_iff {number : Binary precision} :
    number.toRat? = none ↔ number = .nan ∨ ∃ negative, number = .infinity negative := by
  rw [toRat?, Option.map_eq_none_iff]
  cases number with
  | nan => simp [units?]
  | signed negative rank bounded =>
      by_cases infinite : rank = precision.top
      · subst infinite
        simp [units?, infinity]
      · simp [units?, infinity, infinite]

end Binary

end Interception

import Interception.Proofs.Number.Rank
import Mathlib.Algebra.Order.Field.Basic
import Mathlib.Algebra.Order.Field.Power
import Mathlib.Data.Rat.Cast.Order

/-!
# Values of interchange words

An interchange word has a sign, an exponent and a fraction, and the standard gives
it a value by these fields. The number of a word has that value.
-/

set_option autoImplicit false

namespace Interception

namespace Precision

variable (precision : Precision)

/-- What is subtracted from the exponent field. -/
def bias : Nat :=
  2 ^ (precision.exponentBits - 1) - 1

def signField (word : Nat) : Nat :=
  word / 2 ^ (precision.exponentBits + precision.fractionBits) % 2

def exponentField (word : Nat) : Nat :=
  word / 2 ^ precision.fractionBits % 2 ^ precision.exponentBits

def fractionField (word : Nat) : Nat :=
  word % 2 ^ precision.fractionBits

/-- The significand in units of its last bit. It has a leading bit unless the
exponent field is the least one. -/
def significand (word : Nat) : Nat :=
  if precision.exponentField word = 0 then precision.fractionField word
  else 2 ^ precision.fractionBits + precision.fractionField word

/-- The least exponent field has the exponent of the one after it. -/
def exponent (word : Nat) : Int :=
  max (precision.exponentField word : Int) 1 - precision.bias

/-- The value that the fields of a word stand for. The largest exponent field is that
of infinities and of what is not a number. -/
def wordValue? (word : Nat) : Option Rat :=
  if precision.exponentField word = 2 ^ precision.exponentBits - 1 then none
  else some ((-1) ^ precision.signField word * precision.significand word *
    2 ^ (precision.exponent word - precision.fractionBits))

theorem fractionField_lt (word : Nat) :
    precision.fractionField word < 2 ^ precision.fractionBits :=
  Nat.mod_lt _ (Nat.two_pow_pos _)

theorem exponentField_lt (word : Nat) :
    precision.exponentField word < 2 ^ precision.exponentBits :=
  Nat.mod_lt _ (Nat.two_pow_pos _)

/-- Without its sign, a word is its exponent field above its fraction field. -/
theorem rank_eq_fields (word : Nat) :
    word % 2 ^ (precision.exponentBits + precision.fractionBits) =
      precision.exponentField word * 2 ^ precision.fractionBits +
        precision.fractionField word := by
  rw [Nat.add_comm precision.exponentBits, Nat.pow_add, Nat.mod_mul, Nat.add_comm,
    Nat.mul_comm]
  rfl

theorem rank_lt_top_iff (word : Nat) :
    word % 2 ^ (precision.exponentBits + precision.fractionBits) < precision.top ↔
      precision.exponentField word ≠ 2 ^ precision.exponentBits - 1 := by
  have fraction := precision.fractionField_lt word
  have exponent := precision.exponentField_lt word
  rw [rank_eq_fields, top]
  constructor
  · intro below equal
    rw [equal] at below
    omega
  · intro different
    have smaller : precision.exponentField word + 1 ≤ 2 ^ precision.exponentBits - 1 := by
      omega
    calc precision.exponentField word * 2 ^ precision.fractionBits + precision.fractionField word
        < (precision.exponentField word + 1) * 2 ^ precision.fractionBits := by
          rw [Nat.succ_mul]
          omega
      _ ≤ (2 ^ precision.exponentBits - 1) * 2 ^ precision.fractionBits :=
          Nat.mul_le_mul_right _ smaller

theorem size_eq_significand (word : Nat) :
    precision.size (word % 2 ^ (precision.exponentBits + precision.fractionBits)) =
      precision.significand word * 2 ^ (precision.exponentField word - 1) := by
  have fraction := precision.fractionField_lt word
  rw [rank_eq_fields, significand]
  split
  · rename_i least
    have small : precision.fractionField word < 2 ^ (precision.fractionBits + 1) := by
      rw [Nat.pow_succ]
      omega
    rw [least, Nat.zero_mul, Nat.zero_add, precision.size_of_lt small, Nat.pow_zero, Nat.mul_one]
  · rename_i positive
    have above : precision.exponentField word = precision.exponentField word - 1 + 1 := by
      omega
    rw [above, precision.size_of_binade _ fraction, Nat.add_sub_cancel]

theorem scale_eq_bias : precision.scale + 1 = precision.bias + precision.fractionBits := by
  cases precision <;> rfl

/-- The unit of the significand in least units. -/
theorem two_zpow_exponent (word : Nat) :
    (2 : Rat) ^ (precision.exponent word - precision.fractionBits) =
      2 ^ (precision.exponentField word - 1) / 2 ^ precision.scale := by
  have scale := precision.scale_eq_bias
  have shift : precision.exponent word - precision.fractionBits =
      ((precision.exponentField word - 1 : Nat) : Int) - (precision.scale : Nat) := by
    rw [exponent]
    omega
  rw [shift, zpow_sub₀ two_ne_zero, zpow_natCast, zpow_natCast]

end Precision

namespace Binary

variable {precision : Precision}

/-- The number of a word has the value of the word. -/
theorem toRat?_ofWord (word : Nat) :
    (ofWord word : Binary precision).toRat? = precision.wordValue? word := by
  have below := precision.rank_lt_top_iff word
  rw [Precision.wordValue?]
  split
  · rename_i largest
    rw [ofWord]
    split
    · rename_i bounded
      have infinite : word % 2 ^ (precision.exponentBits + precision.fractionBits) =
          precision.top := by
        by_contra different
        exact below.mp (lt_of_le_of_ne bounded different) largest
      simp [toRat?, units?, infinite]
    · rfl
  · rename_i moderate
    have finite := below.mpr moderate
    rw [ofWord, dif_pos finite.le, toRat?, units?, if_neg finite.ne, Option.map_some,
      precision.size_eq_significand, Rat.mkRat_eq_div, precision.two_zpow_exponent]
    rcases Nat.mod_two_eq_zero_or_one
      (word / 2 ^ (precision.exponentBits + precision.fractionBits)) with sign | sign
    · simp [Precision.signField, sign, mul_div_assoc]
    · simp [Precision.signField, sign, mul_div_assoc, neg_div]

end Binary

end Interception

import Interception.Number.Binary
import Mathlib.Order.Monotone.Basic
import Mathlib.Tactic.Ring

/-!
# Ranks and magnitudes

Ranks count the magnitudes of a format without a gap: sizes grow strictly with the
rank, every short significand with an exponent is the size of some rank, and
rounding a size gives its rank back.
-/

set_option autoImplicit false

namespace Interception

/-- A whole number is its own rounding, however the quotient is extended. -/
theorem roundHalfEven_mul (whole : Nat) {denominator : Nat} (positive : 0 < denominator) :
    roundHalfEven (whole * denominator) denominator = whole := by
  simp [roundHalfEven, Nat.mul_div_cancel _ positive, positive]

namespace Precision

variable (precision : Precision)

/-! ## Sizes -/

theorem size_of_lt {rank : Nat} (small : rank < 2 ^ (precision.fractionBits + 1)) :
    precision.size rank = rank := by
  have lowest : rank / 2 ^ precision.fractionBits - 1 = 0 := by
    have : rank / 2 ^ precision.fractionBits < 2 := by
      rw [Nat.div_lt_iff_lt_mul (Nat.two_pow_pos _)]
      rwa [Nat.pow_succ, Nat.mul_comm] at small
    omega
  simp [size, lowest]

/-- Above the lowest binade, a rank is the binade and a fraction without its
leading bit. -/
theorem size_of_binade (binade : Nat) {fraction : Nat}
    (short : fraction < 2 ^ precision.fractionBits) :
    precision.size ((binade + 1) * 2 ^ precision.fractionBits + fraction) =
      (2 ^ precision.fractionBits + fraction) * 2 ^ binade := by
  have field : ((binade + 1) * 2 ^ precision.fractionBits + fraction) /
      2 ^ precision.fractionBits - 1 = binade := by
    rw [Nat.add_comm, Nat.add_mul_div_right _ _ (Nat.two_pow_pos _), Nat.div_eq_of_lt short]
    omega
  have significand : (binade + 1) * 2 ^ precision.fractionBits + fraction -
      binade * 2 ^ precision.fractionBits = 2 ^ precision.fractionBits + fraction := by
    rw [Nat.succ_mul]
    omega
  simp only [size, field, significand]

/-- Every rank is below the second binade or has a binade and a fraction. -/
theorem rank_cases (rank : Nat) :
    rank < 2 ^ (precision.fractionBits + 1) ∨
      ∃ binade fraction, fraction < 2 ^ precision.fractionBits ∧
        rank = (binade + 1) * 2 ^ precision.fractionBits + fraction := by
  by_cases small : rank < 2 ^ (precision.fractionBits + 1)
  · exact .inl small
  · refine .inr ⟨rank / 2 ^ precision.fractionBits - 1, rank % 2 ^ precision.fractionBits,
      Nat.mod_lt _ (Nat.two_pow_pos _), ?_⟩
    have upper : 1 ≤ rank / 2 ^ precision.fractionBits := by
      rw [Nat.le_div_iff_mul_le (Nat.two_pow_pos _)]
      rw [Nat.pow_succ] at small
      omega
    rw [Nat.sub_add_cancel upper, Nat.div_add_mod']

@[simp] theorem size_zero : precision.size 0 = 0 := by
  simp [size]

theorem size_strictMono : StrictMono precision.size := by
  refine strictMono_nat_of_lt_succ fun rank => ?_
  rcases precision.rank_cases rank with small | ⟨binade, fraction, short, rfl⟩
  · rw [precision.size_of_lt small]
    by_cases next : rank + 1 < 2 ^ (precision.fractionBits + 1)
    · rw [precision.size_of_lt next]
      omega
    · have last : rank + 1 = (1 + 1) * 2 ^ precision.fractionBits + 0 := by
        rw [Nat.pow_succ] at small next
        omega
      rw [last, precision.size_of_binade 1 (Nat.two_pow_pos _)]
      omega
  · rw [precision.size_of_binade binade short]
    by_cases next : fraction + 1 < 2 ^ precision.fractionBits
    · rw [Nat.add_assoc, precision.size_of_binade binade next]
      exact Nat.mul_lt_mul_of_pos_right (by omega) (Nat.two_pow_pos _)
    · have last : (binade + 1) * 2 ^ precision.fractionBits + fraction + 1 =
          (binade + 1 + 1) * 2 ^ precision.fractionBits + 0 := by
        rw [Nat.succ_mul (binade + 1)]
        omega
      rw [last, precision.size_of_binade (binade + 1) (Nat.two_pow_pos _), Nat.pow_succ,
        Nat.add_zero, ← Nat.mul_assoc, Nat.mul_right_comm]
      exact Nat.mul_lt_mul_of_pos_right (by omega) (Nat.two_pow_pos _)

theorem size_lt_size_iff {left right : Nat} :
    precision.size left < precision.size right ↔ left < right :=
  precision.size_strictMono.lt_iff_lt

theorem size_injective : Function.Injective precision.size :=
  precision.size_strictMono.injective

@[simp] theorem size_eq_zero_iff {rank : Nat} : precision.size rank = 0 ↔ rank = 0 :=
  precision.size_injective.eq_iff' precision.size_zero

/-- A significand that fits, at any exponent, is the size of a rank. -/
theorem exists_size_eq (exponent : Nat) {significand : Nat}
    (fits : significand < 2 ^ (precision.fractionBits + 1)) :
    ∃ rank, precision.size rank = significand * 2 ^ exponent := by
  induction exponent generalizing significand with
  | zero => exact ⟨significand, by simp [precision.size_of_lt fits]⟩
  | succ exponent ih =>
      by_cases short : significand < 2 ^ precision.fractionBits
      · obtain ⟨rank, same⟩ := @ih (2 * significand) (by rw [Nat.pow_succ]; omega)
        exact ⟨rank, by rw [same, Nat.pow_succ]; ring⟩
      · refine ⟨(exponent + 1 + 1) * 2 ^ precision.fractionBits +
          (significand - 2 ^ precision.fractionBits), ?_⟩
        rw [Nat.pow_succ] at fits
        rw [precision.size_of_binade (exponent + 1) (by omega)]
        congr 1
        omega

/-! ## Rounding a size -/

/-- The binade in which rounding looks for a size is the binade of its rank. -/
theorem log2_size (rank : Nat) :
    Nat.log2 (precision.size rank) - precision.fractionBits =
      rank / 2 ^ precision.fractionBits - 1 := by
  rcases precision.rank_cases rank with small | ⟨binade, fraction, short, rfl⟩
  · rw [precision.size_of_lt small]
    have field : rank / 2 ^ precision.fractionBits < 2 := by
      rw [Nat.div_lt_iff_lt_mul (Nat.two_pow_pos _)]
      rwa [Nat.pow_succ, Nat.mul_comm] at small
    have log : Nat.log2 rank < precision.fractionBits + 1 := by
      by_cases none : rank = 0
      · simp [none]
      · exact (Nat.log2_lt none).mpr small
    omega
  · have log : Nat.log2 ((2 ^ precision.fractionBits + fraction) * 2 ^ binade) =
        precision.fractionBits + binade := by
      have leading := Nat.two_pow_pos precision.fractionBits
      rw [Nat.log2_eq_iff (Nat.mul_ne_zero (by omega) (Nat.two_pow_pos _).ne')]
      constructor
      · rw [Nat.pow_add]
        exact Nat.mul_le_mul_right _ (by omega)
      · rw [Nat.add_right_comm, Nat.pow_add, Nat.pow_succ]
        exact Nat.mul_lt_mul_of_pos_right (by omega) (Nat.two_pow_pos _)
    rw [precision.size_of_binade binade short, log, Nat.add_comm ((binade + 1) * _),
      Nat.add_mul_div_right _ _ (Nat.two_pow_pos _), Nat.div_eq_of_lt short]
    omega

/-- Rounding what is already a size keeps its rank, up to infinity. -/
theorem nearest_of_size {numerator denominator rank : Nat} (positive : 0 < denominator)
    (whole : numerator = precision.size rank * denominator) :
    precision.nearest numerator denominator = min precision.top rank := by
  subst whole
  have below : (rank / 2 ^ precision.fractionBits - 1) * 2 ^ precision.fractionBits ≤ rank :=
    le_trans (Nat.mul_le_mul_right _ (Nat.sub_le _ _)) (Nat.div_mul_le_self _ _)
  have rounded :
      roundHalfEven (precision.size rank * denominator)
          (denominator * 2 ^ (rank / 2 ^ precision.fractionBits - 1)) =
        rank - (rank / 2 ^ precision.fractionBits - 1) * 2 ^ precision.fractionBits := by
    have split : precision.size rank * denominator =
        (rank - (rank / 2 ^ precision.fractionBits - 1) * 2 ^ precision.fractionBits) *
          (denominator * 2 ^ (rank / 2 ^ precision.fractionBits - 1)) := by
      simp only [size]
      ring
    rw [split, roundHalfEven_mul _ (Nat.mul_pos positive (Nat.two_pow_pos _))]
  simp only [nearest, Nat.mul_div_cancel _ positive, log2_size, rounded]
  congr 1
  omega

end Precision

end Interception

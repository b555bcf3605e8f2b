import Interception.Number.Integer
import Interception.Proofs.Number.Rank

/-!
# Exact conversions

Integers that fit a significand and numbers of the narrower format are held
exactly by the wider one. The sign of zero is the only part of a finite number
that its exact value does not determine.
-/

set_option autoImplicit false

namespace Interception

theorem Precision.size_top (precision : Precision) :
    precision.size precision.top =
      2 ^ precision.fractionBits * 2 ^ (2 ^ precision.exponentBits - 2) := by
  have rank : precision.top =
      (2 ^ precision.exponentBits - 2 + 1) * 2 ^ precision.fractionBits + 0 := by
    cases precision <;> rfl
  rw [rank, precision.size_of_binade _ (Nat.two_pow_pos _), Nat.add_zero]

theorem Precision.scale_pos (precision : Precision) : (0 : Int) < 2 ^ precision.scale :=
  Int.pow_pos (by decide)

namespace Binary

variable {precision : Precision}

def withPositiveZero : Binary precision → Binary precision
  | .nan => .nan
  | .signed negative rank bounded => .signed (negative && rank != 0) rank bounded

/-! ## Exact values -/

theorem units?_signed {negative : Bool} {rank : Nat} (finite : rank < precision.top) :
    (signed negative rank finite.le : Binary precision).units? =
      some (if negative then -(precision.size rank : Int) else precision.size rank) := by
  simp [units?, finite.ne]

/-- The exact value determines a finite number up to the sign of zero. -/
theorem withPositiveZero_eq_of_units? {left right : Binary precision} {units : Int}
    (leftUnits : left.units? = some units) (rightUnits : right.units? = some units) :
    left.withPositiveZero = right.withPositiveZero := by
  cases left with
  | nan => simp [units?] at leftUnits
  | signed leftNegative leftRank leftBounded =>
      cases right with
      | nan => simp [units?] at rightUnits
      | signed rightNegative rightRank rightBounded =>
          have leftFinite : leftRank < precision.top := by
            refine lt_of_le_of_ne leftBounded fun infinite => ?_
            simp [units?, infinite] at leftUnits
          have rightFinite : rightRank < precision.top := by
            refine lt_of_le_of_ne rightBounded fun infinite => ?_
            simp [units?, infinite] at rightUnits
          rw [units?_signed leftFinite, Option.some.injEq] at leftUnits
          rw [units?_signed rightFinite, Option.some.injEq] at rightUnits
          have sameSize : precision.size leftRank = precision.size rightRank := by
            split at leftUnits <;> split at rightUnits <;> omega
          have sameRank : leftRank = rightRank := precision.size_injective sameSize
          subst sameRank
          by_cases zero : leftRank = 0
          · simp [withPositiveZero, zero]
          · have positive : precision.size leftRank ≠ 0 :=
              mt precision.size_eq_zero_iff.mp zero
            have sameSign : leftNegative = rightNegative := by
              cases leftNegative <;> cases rightNegative <;>
                simp only [reduceIte, Bool.false_eq_true] at leftUnits rightUnits <;>
                first | rfl | omega
            rw [sameSign]

theorem toInt?_eq_some_iff {number : Binary precision} {integer : Int} :
    number.toInt? = some integer ↔ number.units? = some (integer * 2 ^ precision.scale) := by
  simp only [toInt?, Option.bind_eq_some_iff]
  constructor
  · rintro ⟨units, known, whole⟩
    split at whole
    · rename_i divides
      cases whole
      rw [known, Int.ediv_mul_cancel (Int.dvd_of_emod_eq_zero divides)]
    · cases whole
  · intro known
    refine ⟨_, known, ?_⟩
    rw [if_pos (Int.mul_emod_left _ _), Int.mul_ediv_cancel _ precision.scale_pos.ne']

theorem truncate?_eq_of_toInt? {number : Binary precision} {integer : Int}
    (whole : number.toInt? = some integer) : number.truncate? = some integer := by
  rw [truncate?, toInt?_eq_some_iff.mp whole, Option.map_some,
    Int.mul_tdiv_cancel _ precision.scale_pos.ne']

theorem units?_withPositiveZero (number : Binary precision) :
    number.withPositiveZero.units? = number.units? := by
  cases number with
  | nan => rfl
  | signed negative rank bounded =>
      by_cases zero : rank = 0
      · subst zero
        cases negative <;> simp [withPositiveZero, units?]
      · have kept : (negative && rank != 0) = negative := by simp [zero]
        rw [withPositiveZero, kept]

theorem withPositiveZero_eq_self {number : Binary precision} (nonzero : number.toInt? ≠ some 0) :
    number.withPositiveZero = number := by
  cases number with
  | nan => rfl
  | signed negative rank bounded =>
      have rankNonzero : rank ≠ 0 := by
        rintro rfl
        refine nonzero (toInt?_eq_some_iff.mpr ?_)
        have finite : 0 < precision.top := by cases precision <;> decide
        rw [units?_signed finite, precision.size_zero]
        simp
      simp [withPositiveZero, rankNonzero]

/-! ## Exact rounding -/

theorem ofQuotient_eq_signed {negative : Bool} {numerator denominator rank : Nat}
    (positive : 0 < denominator) (bounded : rank ≤ precision.top)
    (whole : numerator = precision.size rank * denominator) :
    (ofQuotient negative numerator denominator : Binary precision) =
      .signed negative rank bounded := by
  have nearest : precision.nearest numerator denominator = rank := by
    rw [precision.nearest_of_size positive whole, Nat.min_eq_right bounded]
  simp [ofQuotient, nearest]

/-- A significand that fits, at an exponent below the largest, is the size of a
finite rank. -/
theorem exists_finite_size_eq {significand exponent : Nat}
    (fits : significand < 2 ^ (precision.fractionBits + 1))
    (moderate : exponent + 3 ≤ 2 ^ precision.exponentBits) :
    ∃ rank, rank < precision.top ∧ precision.size rank = significand * 2 ^ exponent := by
  obtain ⟨rank, same⟩ := precision.exists_size_eq exponent fits
  refine ⟨rank, ?_, same⟩
  rw [← precision.size_lt_size_iff, same, precision.size_top]
  calc significand * 2 ^ exponent
      < 2 ^ (precision.fractionBits + 1) * 2 ^ exponent :=
        Nat.mul_lt_mul_of_pos_right fits (Nat.two_pow_pos _)
    _ = 2 ^ precision.fractionBits * 2 ^ (exponent + 1) := by ring
    _ ≤ 2 ^ precision.fractionBits * 2 ^ (2 ^ precision.exponentBits - 2) :=
        Nat.mul_le_mul_left _ (Nat.pow_le_pow_right (by decide) (by omega))

/-- An integer that fits a significand is held exactly, and zero is positive. -/
theorem ofInt_exact {integer : Int} (fits : integer.natAbs < 2 ^ (precision.fractionBits + 1)) :
    (ofInt integer : Binary precision).toInt? = some integer ∧
      (ofInt integer : Binary precision).withPositiveZero = ofInt integer := by
  have moderate : precision.scale + 3 ≤ 2 ^ precision.exponentBits := by
    cases precision <;> decide
  obtain ⟨rank, finite, same⟩ := exists_finite_size_eq fits moderate
  have held : (ofInt integer : Binary precision) =
      .signed (decide (integer < 0)) rank finite.le :=
    ofQuotient_eq_signed Nat.one_pos finite.le (by rw [same, Nat.mul_one])
  rw [held]
  constructor
  · rw [toInt?_eq_some_iff, units?_signed finite, same]
    congr 1
    push_cast
    by_cases negative : integer < 0
    · rw [if_pos (by simpa using negative), abs_of_neg negative]
      ring
    · rw [if_neg (by simpa using negative), abs_of_nonneg (not_lt.mp negative)]
  · have zeroOfRank : rank = 0 → ¬ integer < 0 := by
      rintro rfl
      rw [precision.size_zero] at same
      have : integer.natAbs = 0 :=
        (Nat.mul_eq_zero.mp same.symm).resolve_right (Nat.two_pow_pos _).ne'
      omega
    by_cases zero : rank = 0
    · simp [withPositiveZero, zero, zeroOfRank zero]
    · simp [withPositiveZero, zero]

/-! ## Between the formats -/

private theorem scale_double : Precision.double.scale = 925 + Precision.single.scale := rfl

theorem convert_single_finite {rank : Nat} (finite : rank < Precision.single.top) :
    ∃ wide, ∃ wideFinite : wide < Precision.double.top,
      Precision.double.size wide = Precision.single.size rank * 2 ^ 925 ∧
      ∀ negative, (signed negative rank finite.le : Binary32).convert =
        (signed negative wide wideFinite.le : Binary64) := by
  have significand : ∃ short exponent, short < 2 ^ (Precision.double.fractionBits + 1) ∧
      exponent + 3 ≤ 2 ^ Precision.double.exponentBits ∧
      Precision.single.size rank * 2 ^ 925 = short * 2 ^ exponent := by
    rcases Precision.single.rank_cases rank with small | ⟨binade, fraction, short, rfl⟩
    · refine ⟨rank, 925, lt_trans small (by decide), by decide, ?_⟩
      rw [Precision.single.size_of_lt small]
    · refine ⟨2 ^ Precision.single.fractionBits + fraction, binade + 925, ?_, ?_, ?_⟩
      · simp only [Precision.fractionBits] at short ⊢
        omega
      · simp only [Precision.top, Precision.fractionBits, Precision.exponentBits] at finite ⊢
        omega
      · rw [Precision.single.size_of_binade binade short, Nat.pow_add, Nat.mul_assoc]
  obtain ⟨short, exponent, fits, moderate, split⟩ := significand
  obtain ⟨wide, wideFinite, same⟩ := exists_finite_size_eq fits moderate
  refine ⟨wide, wideFinite, same.trans split.symm, fun negative => ?_⟩
  rw [convert, if_neg finite.ne]
  refine ofQuotient_eq_signed (Nat.two_pow_pos _) wideFinite.le ?_
  rw [same, ← split, Nat.mul_assoc, ← Nat.pow_add, scale_double]

private theorem tdiv_shifted (negative : Bool) (magnitude gap scale : Nat) :
    (if negative then -((magnitude * 2 ^ gap : Nat) : Int)
      else (magnitude * 2 ^ gap : Nat)).tdiv (2 ^ (gap + scale)) =
        (if negative then -(magnitude : Int) else magnitude).tdiv (2 ^ scale) := by
  have shifted : (if negative then -((magnitude * 2 ^ gap : Nat) : Int)
      else (magnitude * 2 ^ gap : Nat)) =
        (if negative then -(magnitude : Int) else magnitude) * 2 ^ gap := by
    cases negative <;> simp
  rw [shifted, Nat.add_comm, Int.pow_add]
  exact Int.mul_tdiv_mul_of_pos_left _ _ (Int.pow_pos (by decide))

/-- Widening keeps the integer part. -/
theorem truncate?_convert (number : Binary32) :
    (number.convert : Binary64).truncate? = number.truncate? := by
  cases number with
  | nan => simp [convert, truncate?, units?]
  | signed negative rank bounded =>
      by_cases infinite : rank = Precision.single.top
      · subst infinite
        simp [convert, truncate?, units?]
      · have finite : rank < Precision.single.top := lt_of_le_of_ne bounded infinite
        obtain ⟨wide, wideFinite, same, widened⟩ := convert_single_finite finite
        rw [widened, truncate?, truncate?, units?_signed wideFinite, units?_signed finite, same,
          scale_double]
        simp only [Option.map_some, tdiv_shifted]

@[simp] theorem convert_convert (number : Binary32) :
    (number.convert : Binary64).convert = number := by
  cases number with
  | nan => rfl
  | signed negative rank bounded =>
      by_cases infinite : rank = Precision.single.top
      · subst infinite
        rfl
      · have finite : rank < Precision.single.top := lt_of_le_of_ne bounded infinite
        obtain ⟨wide, wideFinite, same, widened⟩ := convert_single_finite finite
        rw [widened, convert, if_neg wideFinite.ne]
        refine ofQuotient_eq_signed (Nat.two_pow_pos _) bounded ?_
        rw [same, Nat.mul_assoc, ← Nat.pow_add, scale_double]

theorem convert_withPositiveZero (number : Binary32) :
    (number.withPositiveZero.convert : Binary64) = number.convert.withPositiveZero := by
  cases number with
  | nan => rfl
  | signed negative rank bounded =>
      by_cases infinite : rank = Precision.single.top
      · subst infinite
        cases negative <;> rfl
      · have finite : rank < Precision.single.top := lt_of_le_of_ne bounded infinite
        obtain ⟨wide, wideFinite, same, widened⟩ := convert_single_finite finite
        have zeroIff : wide = 0 ↔ rank = 0 := by
          rw [← Precision.double.size_eq_zero_iff, same, Nat.mul_eq_zero,
            Precision.size_eq_zero_iff]
          exact or_iff_left (pow_ne_zero _ two_ne_zero)
        rw [widened, withPositiveZero, widened, withPositiveZero]
        congr 2
        simp [bne, beq_eq_decide, zeroIff]

end Binary

end Interception

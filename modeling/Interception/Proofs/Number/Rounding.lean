import Interception.Proofs.Number.Exact
import Interception.Proofs.Number.Midpoints

/-!
# Rounding to nearest

IEEE 754 prescribes the number of a format for every exact value: the nearest one, of
two that are equally near the one with the even significand, and an infinity from half
a step beyond the largest finite number. Conversion of integers and of numbers of
another format keeps to this.
-/

set_option autoImplicit false

namespace Interception

namespace Binary

variable {precision : Precision}

def isNegative : Binary precision → Bool
  | .nan => false
  | .signed negative _ _ => negative

/-- Without its sign, the word of a number is its rank. -/
def HasEvenSignificand : Binary precision → Prop
  | .nan => False
  | .signed _ rank _ => precision.significand rank % 2 = 0

/-- No finite number of the format is nearer to an exact value, and where another one is
as near, the significand is even. -/
def IsNearest (number : Binary precision) (exact : Rat) : Prop :=
  ∃ value, number.toRat? = some value ∧
    ∀ (other : Binary precision) (otherValue : Rat), other.toRat? = some otherValue →
      |exact - value| ≤ |exact - otherValue| ∧
        (|exact - value| = |exact - otherValue| →
          otherValue = value ∨ number.HasEvenSignificand)

/-- The number of a format that IEEE 754 prescribes for an exact value when it rounds to
nearest, ties to even. -/
structure Rounds (number : Binary precision) (exact : Rat) : Prop where
  sign : exact ≠ 0 → number.isNegative = decide (exact < 0)
  overflow : precision.overflow ≤ |exact| → number = .infinity (decide (exact < 0))
  nearest : |exact| < precision.overflow → number.IsNearest exact

/-- The factor that a sign stands for. -/
def sign (negative : Bool) : Rat :=
  if negative then -1 else 1

@[simp] theorem sign_true : sign true = -1 := rfl

@[simp] theorem sign_false : sign false = 1 := rfl

@[simp] theorem abs_sign_mul (negative : Bool) (value : Rat) :
    |sign negative * value| = |value| := by
  cases negative <;> simp

/-! ## Finite numbers -/

theorem toRat?_signed {rank : Nat} (finite : rank < precision.top) (negative : Bool) :
    (signed negative rank finite.le : Binary precision).toRat? =
      some (sign negative * precision.magnitude rank) := by
  rw [toRat?, units?_signed finite, Option.map_some, Rat.mkRat_eq_div, Precision.magnitude]
  cases negative <;> simp [neg_div]

theorem toRat?_eq_some_iff {number : Binary precision} {value : Rat} :
    number.toRat? = some value ↔
      ∃ negative rank, ∃ finite : rank < precision.top,
        number = .signed negative rank finite.le ∧
          value = sign negative * precision.magnitude rank := by
  constructor
  · intro known
    cases number with
    | nan => simp [toRat?, units?] at known
    | signed negative rank bounded =>
        by_cases infinite : rank = precision.top
        · simp [toRat?, units?, infinite] at known
        · have finite := lt_of_le_of_ne bounded infinite
          rw [toRat?_signed finite] at known
          exact ⟨negative, rank, finite, rfl, (Option.some.inj known).symm⟩
  · rintro ⟨negative, rank, finite, rfl, rfl⟩
    exact toRat?_signed finite negative

theorem hasEvenSignificand_signed {negative : Bool} {rank : Nat} (bounded : rank ≤ precision.top) :
    (signed negative rank bounded).HasEvenSignificand ↔ rank % 2 = 0 := by
  have even := precision.two_pow_fractionBits_even
  have fraction : rank % 2 ^ precision.fractionBits % 2 = rank % 2 :=
    Nat.mod_mod_of_dvd _ (Nat.dvd_of_mod_eq_zero even)
  rw [HasEvenSignificand, Precision.significand, Precision.fractionField]
  split <;> omega

/-- Seen from one side of zero, the numbers on the other side are at least as far away as
zero. -/
theorem distance_of_signs {negative otherNegative : Bool} (different : otherNegative ≠ negative)
    {exact other : Rat} (exactNonneg : 0 ≤ exact) (otherNonneg : 0 ≤ other) :
    |sign negative * exact - sign otherNegative * other| = exact + other := by
  cases negative <;> cases otherNegative <;> simp only [sign_true, sign_false, ne_eq, reduceCtorEq,
    not_true_eq_false, one_mul, neg_mul, sub_neg_eq_add] at different ⊢
  · exact abs_of_nonneg (by linarith)
  · rw [abs_of_nonpos (by linarith)]
    ring

theorem abs_sign_mul_sub (negative : Bool) (left right : Rat) :
    |sign negative * left - sign negative * right| = |left - right| := by
  rw [← mul_sub, abs_sign_mul]

/-! ## Rounded quotients -/

theorem sign_mul_neg_iff {negative : Bool} {quantity : Rat} (positive : 0 < quantity) :
    decide (sign negative * quantity < 0) = negative := by
  cases negative <;> simp [positive, positive.le]

theorem ofQuotient_isNearest (negative : Bool) (numerator : Nat) {denominator : Nat}
    (positive : 0 < denominator)
    (finite : precision.nearest numerator denominator < precision.top) :
    (ofQuotient negative numerator denominator : Binary precision).IsNearest
      (sign negative * precision.quantity numerator denominator) := by
  refine ⟨_, toRat?_signed finite negative, ?_⟩
  intro other otherValue known
  obtain ⟨otherNegative, rank, otherFinite, rfl, rfl⟩ := toRat?_eq_some_iff.mp known
  rw [abs_sign_mul_sub]
  by_cases same : otherNegative = negative
  · subst same
    rw [abs_sign_mul_sub]
    obtain ⟨nearer, tie⟩ := precision.nearest_distance numerator positive finite rank
    refine ⟨nearer, fun equal => (tie equal).imp ?_ ?_⟩
    · rintro rfl
      rfl
    · exact (hasEvenSignificand_signed _).mpr
  -- On the other side of zero nothing is nearer than zero itself.
  · obtain ⟨nearer, tie⟩ := precision.nearest_distance numerator positive finite 0
    have exactNonneg := precision.quantity_nonneg numerator denominator
    have otherNonneg := precision.magnitude_nonneg rank
    rw [precision.magnitude_zero, sub_zero, abs_of_nonneg exactNonneg] at nearer tie
    rw [distance_of_signs same exactNonneg otherNonneg]
    refine ⟨by linarith, fun equal => ?_⟩
    have zero : precision.magnitude rank = 0 := by linarith
    rw [zero, add_zero] at equal
    refine (tie equal).imp (fun nearestZero => ?_) (hasEvenSignificand_signed _).mpr
    rw [zero, ← nearestZero, precision.magnitude_zero, mul_zero, mul_zero]

theorem ofQuotient_rounds (negative : Bool) (numerator : Nat) {denominator : Nat}
    (positive : 0 < denominator) :
    (ofQuotient negative numerator denominator : Binary precision).Rounds
      (sign negative * precision.quantity numerator denominator) := by
  have nonneg := precision.quantity_nonneg numerator denominator
  have magnitude : |sign negative * precision.quantity numerator denominator| =
      precision.quantity numerator denominator := by
    rw [abs_sign_mul, abs_of_nonneg nonneg]
  constructor
  · intro nonzero
    have present : 0 < precision.quantity numerator denominator :=
      lt_of_le_of_ne nonneg fun zero => nonzero (by rw [← zero, mul_zero])
    rw [sign_mul_neg_iff present]
    rfl
  · intro beyond
    rw [magnitude] at beyond
    have infinite := (precision.overflow_le_quantity_iff numerator positive).mp beyond
    rw [sign_mul_neg_iff (precision.overflow_pos.trans_le beyond)]
    simp [ofQuotient, infinity, infinite]
  · intro within
    rw [magnitude] at within
    refine ofQuotient_isNearest negative numerator positive ?_
    refine lt_of_le_of_ne (precision.nearest_le_top _ _) fun infinite => ?_
    exact not_le.mpr within ((precision.overflow_le_quantity_iff numerator positive).mpr infinite)

theorem rounds_self {number : Binary precision} {value : Rat}
    (known : number.toRat? = some value) : number.Rounds value := by
  obtain ⟨negative, rank, finite, rfl, rfl⟩ := toRat?_eq_some_iff.mp known
  have held : (ofQuotient negative (precision.size rank) 1 : Binary precision) =
      .signed negative rank finite.le :=
    ofQuotient_eq_signed Nat.one_pos finite.le (Nat.mul_one _).symm
  rw [← held, ← precision.quantity_size]
  exact ofQuotient_rounds negative _ Nat.one_pos

theorem ofInt_rounds (integer : Int) : (ofInt integer : Binary precision).Rounds integer := by
  have exact : (integer : Rat) = sign (decide (integer < 0)) *
      precision.quantity (integer.natAbs * 2 ^ precision.scale) 1 := by
    rw [precision.quantity_scaled, Nat.cast_natAbs]
    by_cases negative : integer < 0
    · rw [decide_eq_true negative, abs_of_neg negative]
      simp
    · rw [decide_eq_false negative, abs_of_nonneg (not_lt.mp negative)]
      simp
  rw [ofInt, exact]
  exact ofQuotient_rounds _ _ Nat.one_pos

theorem convert_rounds {source target : Precision} {number : Binary source} {value : Rat}
    (known : number.toRat? = some value) : (number.convert : Binary target).Rounds value := by
  obtain ⟨negative, rank, finite, rfl, rfl⟩ := toRat?_eq_some_iff.mp known
  rw [convert, if_neg finite.ne, ← target.quantity_rescaled]
  exact ofQuotient_rounds negative _ (Nat.two_pow_pos source.scale)

/-! ## What a rounding is near to -/

theorem Rounds.finite {number : Binary precision} {exact : Rat} (rounds : number.Rounds exact)
    (within : |exact| < precision.overflow) : ∃ value, number.toRat? = some value := by
  obtain ⟨value, known, -⟩ := rounds.nearest within
  exact ⟨value, known⟩

theorem Rounds.isNearest {number : Binary precision} {exact value : Rat}
    (rounds : number.Rounds exact) (known : number.toRat? = some value) :
    number.IsNearest exact := by
  refine rounds.nearest (not_le.mp fun beyond => ?_)
  rw [rounds.overflow beyond, infinity] at known
  simp [toRat?, units?] at known

theorem IsNearest.eq_of_value {number other : Binary precision} {exact value : Rat}
    (nearest : number.IsNearest exact) (known : number.toRat? = some value)
    (held : other.toRat? = some exact) : value = exact := by
  obtain ⟨found, foundKnown, least⟩ := nearest
  obtain rfl : found = value := Option.some.inj (foundKnown.symm.trans known)
  have near := (least other exact held).1
  rw [sub_self, abs_zero] at near
  have := abs_eq_zero.mp (le_antisymm near (abs_nonneg _))
  linarith

end Binary

end Interception

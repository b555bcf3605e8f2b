import Interception.Proofs.Conversion.Integral
import Interception.Proofs.Number.TwiceRounded

/-!
# Coercion to floating types

A numeric value is coerced to a double by one rounding of its exact value. A single is
rounded from that double. Only longs can be rounded on both ways, and the second rounding
does harm only where the first one ends halfway between two singles.
-/

set_option autoImplicit false

namespace Interception

namespace Binary

variable {precision : Precision}

theorem toRat?_widened (number : Binary32) :
    (number.convert : Binary64).toRat? = number.toRat? := by
  cases number with
  | nan => simp [convert, toRat?, units?]
  | signed negative rank bounded =>
      by_cases infinite : rank = Precision.single.top
      · subst infinite
        simp [convert, toRat?, units?]
      · have finite : rank < Precision.single.top := lt_of_le_of_ne bounded infinite
        obtain ⟨wide, wideFinite, same, widened⟩ := convert_single_finite finite
        have scale : Precision.double.scale = 925 + Precision.single.scale := rfl
        have magnitude : Precision.double.magnitude wide = Precision.single.magnitude rank := by
          simp only [Precision.magnitude, same, scale, Nat.cast_mul, Nat.cast_pow, Nat.cast_two,
            pow_add]
          field_simp
        rw [widened, toRat?_signed wideFinite, toRat?_signed finite, magnitude]

theorem isNegative_convert {source target : Precision} (number : Binary source) :
    (number.convert : Binary target).isNegative = number.isNegative := by
  cases number with
  | nan => rfl
  | signed negative rank bounded =>
      rw [convert]
      split <;> rfl

/-- A format has all integers up to the first one that needs a longer significand. -/
theorem integer_held {integer : Int} (fits : integer.natAbs ≤ 2 ^ (precision.fractionBits + 1)) :
    ∃ number : Binary precision, number.toRat? = some (integer : Rat) := by
  have moderate : precision.scale + 1 + 3 ≤ 2 ^ precision.exponentBits := by
    cases precision <;> decide
  obtain ⟨rank, finite, same⟩ : ∃ rank, rank < precision.top ∧
      precision.size rank = integer.natAbs * 2 ^ precision.scale := by
    rcases Nat.lt_or_eq_of_le fits with short | full
    · exact exists_finite_size_eq short (by omega)
    · obtain ⟨rank, finite, same⟩ := exists_finite_size_eq
        (Nat.pow_lt_pow_right (by decide) (Nat.lt_succ_self precision.fractionBits)) moderate
      refine ⟨rank, finite, same.trans ?_⟩
      rw [full, Nat.pow_succ, Nat.pow_succ]
      ring
  refine exists_value_iff.mpr ⟨rank, finite, ?_⟩
  rw [Precision.magnitude, same, Nat.cast_mul, Nat.cast_pow, Nat.cast_two, Nat.cast_natAbs,
    Int.cast_abs]
  exact mul_div_cancel_right₀ _ (by positivity)

end Binary

theorem SizedInt.abs_toInt_le {width : Width} (integer : SizedInt width) :
    |(integer.toInt : Rat)| ≤ 2 ^ 63 := by
  obtain ⟨low, high⟩ := integer.inRange
  have bound : |integer.toInt| ≤ 2 ^ 63 := by
    rw [abs_le]
    cases width <;> simp only [Width.least, Width.greatest, Width.bits] at low high <;> omega
  exact_mod_cast bound

theorem Precision.overflow_large (precision : Precision) : 2 ^ 64 < precision.overflow := by
  cases precision <;> decide +kernel

namespace Native.Value

theorem coerce_float {value : Value} {exact : Rat} (precision : Precision)
    (known : value.toRat? = some exact) :
    value.coerce (.float precision) = value.narrow (.float precision) := by
  cases value with
  | integer width value => rfl
  | float precision value => rfl
  | _ => cases known

theorem coerce_double_outcome {value : Value} {exact : Rat} {double : Binary64}
    (known : value.toRat? = some exact) (widened : value.toDouble? = some double) :
    (value.coerce (.float .double)).outcome = .ok (.float .double double) := by
  rw [coerce_float .double known, narrow_ok_iff, narrow?, widened, Option.map_some]

theorem coerce_single_outcome {value : Value} {exact : Rat} {double : Binary64}
    (known : value.toRat? = some exact) (widened : value.toDouble? = some double) :
    (value.coerce (.float .single)).outcome = .ok (.float .single double.convert) := by
  rw [coerce_float .single known, narrow_ok_iff, narrow?, widened, Option.map_some]

/-- The double of a numeric value is rounded from its exact value, and it has that value
unless the value is a long beyond the significand. -/
theorem toDouble?_rounds {value : Value} {exact : Rat} (known : value.toRat? = some exact) :
    ∃ double middle, value.toDouble? = some double ∧ double.Rounds exact ∧
      double.toRat? = some middle ∧
      (value.kind ≠ .long ∨ |exact| ≤ 2 ^ 53 → middle = exact) ∧
      (middle = exact ∨ |exact| ≤ 2 ^ 63) := by
  cases value with
  | integer width integer =>
      obtain rfl : (integer.toInt : Rat) = exact := Option.some.inj known
      have rounds : (Binary.ofInt integer.toInt : Binary64).Rounds integer.toInt :=
        Binary.ofInt_rounds _
      have within : |(integer.toInt : Rat)| < Precision.double.overflow :=
        integer.abs_toInt_le.trans_lt
          (lt_trans (by norm_num) Precision.double.overflow_large)
      obtain ⟨middle, reached⟩ := rounds.finite within
      refine ⟨_, middle, rfl, rounds, reached, ?_, .inr integer.abs_toInt_le⟩
      intro small
      have fits : integer.toInt.natAbs ≤ 2 ^ (Precision.double.fractionBits + 1) := by
        rw [← Int.ofNat_le, ← Int.abs_eq_natAbs]
        rcases small with narrow | bounded
        · obtain ⟨low, high⟩ := integer.inRange
          rw [abs_le]
          cases width <;> simp only [kind, ne_eq, not_true_eq_false, Width.least, Width.greatest,
            Width.bits, Precision.fractionBits] at narrow low high ⊢ <;> omega
        · exact_mod_cast bounded
      obtain ⟨number, held⟩ := Binary.integer_held fits
      exact (rounds.isNearest reached).eq_of_value reached held
  | float precision number =>
      cases precision with
      | single =>
          exact ⟨number.convert, exact, rfl, Binary.convert_rounds known,
            (Binary.toRat?_widened number).trans known, fun _ => rfl, .inl rfl⟩
      | double =>
          exact ⟨number, exact, rfl, Binary.rounds_self known, known, fun _ => rfl, .inl rfl⟩
  | _ => cases known

/-- A numeric value is coerced to a double by one rounding of its exact value, and to a
single by a second one. Only a long beyond the significand of a double is changed by the
first, and the outcome is not the rounding of the exact value just where the double lies
halfway between two singles and the value is nearer to the one that is not chosen. -/
theorem coerce_float_rounds (value : Value) (exact : Rat) (known : value.toRat? = some exact) :
    ∃ (double : Binary64) (middle : Rat) (single : Binary32),
      (value.coerce (.float .double)).outcome = .ok (.float .double double) ∧
      double.Rounds exact ∧ double.toRat? = some middle ∧
      (value.coerce (.float .single)).outcome = .ok (.float .single single) ∧
      single.Rounds middle ∧
      (value.kind ≠ .long ∨ |exact| ≤ 2 ^ 53 → middle = exact) ∧
      (single.Rounds exact ↔
        ∀ near (other : Binary32) otherValue, single.toRat? = some near →
          other.toRat? = some otherValue → |middle - near| = |middle - otherValue| →
            |exact - near| ≤ |exact - otherValue|) := by
  obtain ⟨double, middle, widened, rounds, reached, short, bounded⟩ := toDouble?_rounds known
  have second : (double.convert : Binary32).Rounds middle := Binary.convert_rounds reached
  refine ⟨double, middle, double.convert, coerce_double_outcome known widened, rounds, reached,
    coerce_single_outcome known widened, second, short, ?_, ?_⟩
  · intro direct near other otherValue found held _
    obtain ⟨value, same, least⟩ := direct.isNearest found
    obtain rfl : near = value := Option.some.inj (found.symm.trans same)
    exact (least other otherValue held).1
  · intro kept
    rcases bounded with same | small
    · exact same ▸ second
    · have zeroHeld : (Binary.zero : Binary64).toRat? = some 0 := by decide +kernel
      obtain ⟨value, same, least⟩ := rounds.isNearest reached
      obtain rfl : middle = value := Option.some.inj (reached.symm.trans same)
      have close := (least .zero 0 zeroHeld).1
      have within : |middle| < Precision.single.overflow := by
        have large := Precision.single.overflow_large
        have apart := abs_sub_abs_le_abs_sub middle exact
        rw [abs_sub_comm middle] at apart
        rw [sub_zero] at close
        linarith
      obtain ⟨near, found⟩ := second.finite within
      constructor
      · intro nonzero
        rw [Binary.isNegative_convert, rounds.sign nonzero]
      · intro beyond
        have := Precision.single.overflow_large
        linarith
      · intro _
        exact Binary.isNearest_twice (rounds.isNearest reached) reached
          (second.isNearest found) found (kept near · · found)

/-- The long one above the midpoint of two singles. -/
def aboveMidpoint : Value :=
  .integer .long ⟨9007199791611905, by decide⟩

/-- The first rounding of this long ends at the midpoint, and the second one takes the even
single instead of the nearer one. -/
theorem long_misses_nearest_single :
    aboveMidpoint.toRat? = some 9007199791611905 ∧
    (aboveMidpoint.coerce (.float .single)).outcome =
      .ok (.float .single (.ofWord 0x5A000000)) ∧
    ¬ (Binary.ofWord 0x5A000000 : Binary32).Rounds 9007199791611905 ∧
    (Binary.ofWord 0x5A000001 : Binary32).Rounds 9007199791611905 := by
  have known : aboveMidpoint.toRat? = some 9007199791611905 := by decide +kernel
  have even : (Binary.ofWord 0x5A000000 : Binary32).toRat? = some (2 ^ 53) := by decide +kernel
  have odd : (Binary.ofWord 0x5A000001 : Binary32).toRat? = some (2 ^ 53 + 2 ^ 30) := by
    decide +kernel
  refine ⟨known, ?coerced, ?missed, ?nearer⟩
  case coerced =>
    have twice : ((Binary.ofInt 9007199791611905 : Binary64).convert : Binary32) =
        .ofWord 0x5A000000 := by decide +kernel
    rw [coerce_single_outcome known rfl, twice]
  case missed =>
    intro rounds
    obtain ⟨value, same, least⟩ := rounds.isNearest even
    obtain rfl : 2 ^ 53 = value := Option.some.inj (even.symm.trans same)
    have near := (least _ _ odd).1
    norm_num at near
  case nearer =>
    have once : (Binary.ofInt 9007199791611905 : Binary32) = .ofWord 0x5A000001 := by
      decide +kernel
    exact once ▸ Binary.ofInt_rounds 9007199791611905

/-- The long above a midpoint, and the double from which on singles are infinite. -/
theorem coerce_float_rounds_midpoints :
    aboveMidpoint.toRat? = some 9007199791611905 ∧
    (∃ single : Binary32,
      (aboveMidpoint.coerce (.float .double)).outcome =
        .ok (.float .double (.ofWord 0x4340000010000000)) ∧
      (Binary.ofWord 0x4340000010000000 : Binary64).Rounds 9007199791611905 ∧
      (aboveMidpoint.coerce (.float .single)).outcome = .ok (.float .single single) ∧
      single.Rounds 9007199791611904) ∧
    (ofDoubleWord 0x47EFFFFFF0000000).toRat? = some Precision.single.overflow ∧
    ∃ single : Binary32,
      ((ofDoubleWord 0x47EFFFFFF0000000).coerce (.float .single)).outcome =
        .ok (.float .single single) ∧
      single = .infinity false := by
  have known : aboveMidpoint.toRat? = some 9007199791611905 := by decide +kernel
  have limit : (ofDoubleWord 0x47EFFFFFF0000000).toRat? = some Precision.single.overflow := by
    decide +kernel
  refine ⟨known, ?beyond, limit, ?infinite⟩
  case beyond =>
    obtain ⟨double, middle, single, widened, rounds, reached, narrowed, second, -⟩ :=
      coerce_float_rounds aboveMidpoint _ known
    have same := widened.symm.trans (coerce_double_outcome known rfl)
    injection same with same
    injection same with _ same
    have held : (Binary.ofInt 9007199791611905 : Binary64) = .ofWord 0x4340000010000000 := by
      decide +kernel
    obtain rfl := same.trans held
    have halfway : (Binary.ofWord 0x4340000010000000 : Binary64).toRat? =
        some 9007199791611904 := by decide +kernel
    obtain rfl : 9007199791611904 = middle := Option.some.inj (halfway.symm.trans reached)
    exact ⟨single, widened, rounds, narrowed, second⟩
  case infinite =>
    obtain ⟨_, middle, single, -, -, -, narrowed, second, short, -⟩ :=
      coerce_float_rounds _ _ limit
    obtain rfl := short (.inl (by decide))
    have positive := Precision.single.overflow_pos
    refine ⟨single, narrowed, ?_⟩
    rw [second.overflow (le_abs_self _), decide_eq_false positive.not_gt]

end Native.Value

end Interception

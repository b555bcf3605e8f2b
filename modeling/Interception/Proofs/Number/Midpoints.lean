import Interception.Proofs.Number.Interchange
import Mathlib.Algebra.Order.Ring.Abs
import Mathlib.Tactic.FieldSimp
import Mathlib.Tactic.Linarith

/-!
# Midpoints

Rounding a quotient of least units finds a rank that has the quotient between its
midpoints to all other ranks. At a midpoint the rank is even, and infinity begins at
the midpoint that follows the last finite rank. No rank is therefore nearer.
-/

set_option autoImplicit false

namespace Interception

/-- Rounding moves a quotient by at most half a unit, and by half a unit only to an even
integer. -/
theorem roundHalfEven_within (numerator : Nat) {denominator : Nat} (positive : 0 < denominator) :
    (2 * (roundHalfEven numerator denominator * denominator) ≤ 2 * numerator + denominator ∧
      2 * numerator ≤ 2 * (roundHalfEven numerator denominator * denominator) + denominator) ∧
    (2 * (roundHalfEven numerator denominator * denominator) = 2 * numerator + denominator ∨
      2 * numerator = 2 * (roundHalfEven numerator denominator * denominator) + denominator →
      roundHalfEven numerator denominator % 2 = 0) := by
  have split := Nat.div_add_mod numerator denominator
  have remainder := Nat.mod_lt numerator positive
  rw [Nat.mul_comm] at split
  simp only [roundHalfEven]
  split_ifs with lower upper
  · omega
  · rw [Nat.add_one_mul (numerator / denominator)]
    omega
  · rcases Nat.mod_two_eq_zero_or_one (numerator / denominator) with even | odd
    · rw [even, Nat.add_zero]
      omega
    · rw [odd, Nat.add_one_mul (numerator / denominator)]
      omega

/-! ## Two sides of a midpoint -/

theorem nearer_lower_iff {lower upper exact : Rat} (less : lower < upper) :
    |exact - lower| ≤ |exact - upper| ↔ 2 * exact ≤ lower + upper := by
  rw [← sq_le_sq]
  constructor <;> intro <;> nlinarith

theorem nearer_upper_iff {lower upper exact : Rat} (less : lower < upper) :
    |exact - upper| ≤ |exact - lower| ↔ lower + upper ≤ 2 * exact := by
  rw [← sq_le_sq]
  constructor <;> intro <;> nlinarith

theorem equally_near_iff {lower upper exact : Rat} (less : lower < upper) :
    |exact - lower| = |exact - upper| ↔ 2 * exact = lower + upper := by
  rw [le_antisymm_iff, nearer_lower_iff less, nearer_upper_iff less, ← le_antisymm_iff]

namespace Precision

variable (precision : Precision)

/-! ## The grid of a binade -/

theorem two_pow_fractionBits_even : 2 ^ precision.fractionBits % 2 = 0 := by
  cases precision <;> rfl

theorem top_even : precision.top % 2 = 0 := by
  cases precision <;> rfl

/-- From the start of a binade to the start of the next one sizes are multiples of the
step of the binade. -/
theorem size_of_steps {binade steps : Nat}
    (low : binade = 0 ∨ 2 ^ precision.fractionBits ≤ steps)
    (high : steps ≤ 2 ^ (precision.fractionBits + 1)) :
    precision.size (binade * 2 ^ precision.fractionBits + steps) = steps * 2 ^ binade := by
  have double := Nat.pow_succ 2 precision.fractionBits
  by_cases small : steps < 2 ^ precision.fractionBits
  · obtain rfl : binade = 0 := low.resolve_right (by omega)
    rw [Nat.zero_mul, Nat.zero_add, precision.size_of_lt (by omega), Nat.pow_zero, Nat.mul_one]
  by_cases inside : steps < 2 ^ (precision.fractionBits + 1)
  · have rank : binade * 2 ^ precision.fractionBits + steps =
        (binade + 1) * 2 ^ precision.fractionBits + (steps - 2 ^ precision.fractionBits) := by
      rw [Nat.succ_mul]
      omega
    rw [rank, precision.size_of_binade binade (by omega)]
    congr 1
    omega
  · obtain rfl : steps = 2 ^ (precision.fractionBits + 1) := by omega
    have rank : binade * 2 ^ precision.fractionBits + 2 ^ (precision.fractionBits + 1) =
        (binade + 1 + 1) * 2 ^ precision.fractionBits + 0 := by
      rw [Nat.succ_mul, Nat.succ_mul]
      omega
    rw [rank, precision.size_of_binade (binade + 1) (Nat.two_pow_pos _), Nat.pow_succ,
      Nat.pow_succ]
    ring

theorem rank_steps (rank : Nat) :
    ∃ binade steps, (binade = 0 ∨ 2 ^ precision.fractionBits ≤ steps) ∧
      steps < 2 ^ (precision.fractionBits + 1) ∧
      rank = binade * 2 ^ precision.fractionBits + steps := by
  rcases precision.rank_cases rank with small | ⟨binade, fraction, short, rfl⟩
  · exact ⟨0, rank, .inl rfl, small, by omega⟩
  · refine ⟨binade, 2 ^ precision.fractionBits + fraction, .inr (Nat.le_add_right _ _), ?_, ?_⟩
    · rw [Nat.pow_succ]
      omega
    · rw [Nat.succ_mul, Nat.add_assoc]

theorem size_succ_of_steps {binade steps : Nat}
    (low : binade = 0 ∨ 2 ^ precision.fractionBits ≤ steps)
    (high : steps ≤ 2 ^ (precision.fractionBits + 1)) :
    (steps + 1) * 2 ^ binade ≤
      precision.size (binade * 2 ^ precision.fractionBits + steps + 1) := by
  by_cases inside : steps < 2 ^ (precision.fractionBits + 1)
  · rw [Nat.add_assoc, precision.size_of_steps (by omega) inside]
  -- The start of the next binade is followed by a step of the coarser grid.
  · obtain rfl : steps = 2 ^ (precision.fractionBits + 1) := by omega
    have next : binade * 2 ^ precision.fractionBits + 2 ^ (precision.fractionBits + 1) + 1 =
        (binade + 1) * 2 ^ precision.fractionBits + (2 ^ precision.fractionBits + 1) := by
      rw [Nat.succ_mul, Nat.pow_succ]
      omega
    have long : 1 ≤ 2 ^ precision.fractionBits := Nat.one_le_two_pow
    rw [next, precision.size_of_steps (by omega) (by rw [Nat.pow_succ]; omega), Nat.pow_succ,
      Nat.pow_succ 2 binade]
    calc (2 ^ precision.fractionBits * 2 + 1) * 2 ^ binade
        ≤ (2 ^ precision.fractionBits * 2 + 2) * 2 ^ binade :=
          Nat.mul_le_mul_right _ (by omega)
      _ = (2 ^ precision.fractionBits + 1) * (2 ^ binade * 2) := by ring

/-! ## The binade of a quotient -/

/-- The binade on whose grid a quotient is rounded. -/
def binade (numerator denominator : Nat) : Nat :=
  Nat.log2 (numerator / denominator) - precision.fractionBits

/-- The step of that grid, as a numerator. -/
def step (numerator denominator : Nat) : Nat :=
  denominator * 2 ^ precision.binade numerator denominator

/-- The steps that a quotient is rounded to. -/
def steps (numerator denominator : Nat) : Nat :=
  roundHalfEven numerator (precision.step numerator denominator)

/-- The rank that a quotient is rounded to where ranks go on beyond infinity. -/
def reached (numerator denominator : Nat) : Nat :=
  precision.binade numerator denominator * 2 ^ precision.fractionBits +
    precision.steps numerator denominator

theorem nearest_eq_min (numerator denominator : Nat) :
    precision.nearest numerator denominator =
      min precision.top (precision.reached numerator denominator) :=
  rfl

variable (numerator : Nat) {denominator : Nat}

theorem step_pos (positive : 0 < denominator) : 0 < precision.step numerator denominator :=
  Nat.mul_pos positive (Nat.two_pow_pos _)

theorem mul_step (count denominator : Nat) :
    count * 2 ^ precision.binade numerator denominator * denominator =
      count * precision.step numerator denominator := by
  rw [step, Nat.mul_assoc, Nat.mul_comm denominator]

theorem binade_low (denominator : Nat) :
    precision.binade numerator denominator = 0 ∨
      2 ^ precision.fractionBits * precision.step numerator denominator ≤ numerator := by
  by_cases lowest : precision.binade numerator denominator = 0
  · exact .inl lowest
  · have log : precision.fractionBits + precision.binade numerator denominator =
        Nat.log2 (numerator / denominator) := by
      rw [binade] at lowest ⊢
      omega
    have nonzero : numerator / denominator ≠ 0 := by
      intro zero
      rw [zero, Nat.log2_zero] at log
      omega
    refine .inr ?_
    calc 2 ^ precision.fractionBits * precision.step numerator denominator
        = denominator *
            2 ^ (precision.fractionBits + precision.binade numerator denominator) := by
          rw [step, Nat.pow_add]; ring
      _ ≤ denominator * (numerator / denominator) :=
          Nat.mul_le_mul_left _ (log ▸ Nat.log2_self_le nonzero)
      _ ≤ numerator := Nat.mul_div_le numerator denominator

theorem binade_high (positive : 0 < denominator) :
    numerator < 2 ^ (precision.fractionBits + 1) * precision.step numerator denominator := by
  have below : numerator / denominator <
      2 ^ (precision.fractionBits + 1 + precision.binade numerator denominator) := by
    refine lt_of_lt_of_le Nat.lt_log2_self (Nat.pow_le_pow_right (by decide) ?_)
    rw [binade]
    omega
  calc numerator
      < 2 ^ (precision.fractionBits + 1 + precision.binade numerator denominator) *
          denominator := (Nat.div_lt_iff_lt_mul positive).mp below
    _ = 2 ^ (precision.fractionBits + 1) * precision.step numerator denominator := by
        rw [step, Nat.pow_add _ (precision.fractionBits + 1)]; ring

/-- Rounding does not leave the binade, but may reach the start of the next one. -/
theorem steps_low (positive : 0 < denominator) :
    precision.binade numerator denominator = 0 ∨
      2 ^ precision.fractionBits ≤ precision.steps numerator denominator := by
  refine (precision.binade_low numerator denominator).imp_right fun low => ?_
  have grid : 0 < precision.step numerator denominator := precision.step_pos numerator positive
  obtain ⟨⟨-, below⟩, -⟩ := roundHalfEven_within numerator grid
  by_contra short
  have far := Nat.mul_le_mul_right (precision.step numerator denominator)
    (Nat.lt_of_not_le short)
  rw [Nat.succ_mul, steps] at far
  omega

theorem steps_high (positive : 0 < denominator) :
    precision.steps numerator denominator ≤ 2 ^ (precision.fractionBits + 1) := by
  have high := precision.binade_high numerator positive
  have grid : 0 < precision.step numerator denominator := precision.step_pos numerator positive
  obtain ⟨⟨above, -⟩, -⟩ := roundHalfEven_within numerator grid
  by_contra long
  have far := Nat.mul_le_mul_right (precision.step numerator denominator)
    (Nat.lt_of_not_le long)
  rw [Nat.succ_mul, steps] at far
  omega

/-! ## Midpoints -/

theorem size_reached (positive : 0 < denominator) :
    precision.size (precision.reached numerator denominator) * denominator =
      precision.steps numerator denominator * precision.step numerator denominator := by
  rw [reached, precision.size_of_steps (precision.steps_low numerator positive)
    (precision.steps_high numerator positive), mul_step]

theorem reached_even_iff (denominator : Nat) :
    precision.reached numerator denominator % 2 = 0 ↔
      precision.steps numerator denominator % 2 = 0 := by
  have even := precision.two_pow_fractionBits_even
  have multiple : precision.binade numerator denominator * 2 ^ precision.fractionBits % 2 = 0 := by
    rw [Nat.mul_mod, even, Nat.mul_zero, Nat.zero_mod]
  rw [reached]
  omega

/-- A quotient is not below the midpoints of its rank and smaller ones. -/
theorem reached_above {lower : Nat} (positive : 0 < denominator)
    (smaller : lower < precision.reached numerator denominator) :
    (precision.size lower + precision.size (precision.reached numerator denominator)) *
        denominator ≤ 2 * numerator ∧
      ((precision.size lower + precision.size (precision.reached numerator denominator)) *
          denominator = 2 * numerator →
        precision.reached numerator denominator % 2 = 0) := by
  have grid : 0 < precision.step numerator denominator := precision.step_pos numerator positive
  have size := precision.size_reached numerator positive
  rw [Nat.add_mul, reached_even_iff]
  by_cases start : precision.binade numerator denominator ≠ 0 ∧
      precision.steps numerator denominator = 2 ^ precision.fractionBits
  -- At the start of a binade the smaller ranks lie on a finer grid.
  · obtain ⟨above, first⟩ := start
    have low := (precision.binade_low numerator denominator).resolve_left above
    have less := Nat.mul_lt_mul_of_pos_right (precision.size_lt_size_iff.mpr smaller) positive
    rw [first] at size
    omega
  · have low : precision.binade numerator denominator = 0 ∨
        2 ^ precision.fractionBits ≤ precision.steps numerator denominator - 1 := by
      have := precision.steps_low numerator positive
      omega
    have present : 0 < precision.steps numerator denominator := by
      have long := Nat.two_pow_pos precision.fractionBits
      rcases low with lowest | further
      · rw [reached, lowest] at smaller
        omega
      · omega
    have before : lower ≤ precision.binade numerator denominator * 2 ^ precision.fractionBits +
        (precision.steps numerator denominator - 1) := by
      rw [reached] at smaller
      omega
    have less := precision.size_strictMono.monotone before
    rw [precision.size_of_steps low
      ((Nat.sub_le _ _).trans (precision.steps_high numerator positive))] at less
    have scaled := Nat.mul_le_mul_right denominator less
    rw [mul_step] at scaled
    have onGrid : (precision.steps numerator denominator - 1) *
          precision.step numerator denominator + precision.step numerator denominator =
        precision.steps numerator denominator * precision.step numerator denominator := by
      rw [← Nat.succ_mul, Nat.succ_eq_add_one, Nat.sub_add_cancel present]
    obtain ⟨⟨above, -⟩, tie⟩ := roundHalfEven_within numerator grid
    rw [← steps] at above tie
    omega

theorem reached_below {upper : Nat} (positive : 0 < denominator)
    (larger : precision.reached numerator denominator < upper) :
    2 * numerator ≤ (precision.size (precision.reached numerator denominator) +
        precision.size upper) * denominator ∧
      (2 * numerator = (precision.size (precision.reached numerator denominator) +
          precision.size upper) * denominator →
        precision.reached numerator denominator % 2 = 0) := by
  have grid : 0 < precision.step numerator denominator := precision.step_pos numerator positive
  have size := precision.size_reached numerator positive
  have next := precision.size_succ_of_steps (precision.steps_low numerator positive)
    (precision.steps_high numerator positive)
  have scaled := Nat.mul_le_mul_right denominator
    (next.trans (precision.size_strictMono.monotone larger))
  rw [mul_step, Nat.succ_mul] at scaled
  obtain ⟨⟨-, below⟩, tie⟩ := roundHalfEven_within numerator grid
  rw [← steps] at below tie
  rw [Nat.add_mul, reached_even_iff]
  omega

theorem nearest_above {lower : Nat} (positive : 0 < denominator)
    (smaller : lower < precision.nearest numerator denominator) :
    (precision.size lower + precision.size (precision.nearest numerator denominator)) *
        denominator ≤ 2 * numerator ∧
      ((precision.size lower + precision.size (precision.nearest numerator denominator)) *
          denominator = 2 * numerator →
        precision.nearest numerator denominator % 2 = 0) := by
  rw [nearest_eq_min] at smaller ⊢
  obtain ⟨above, tie⟩ := precision.reached_above numerator positive
    (lt_of_lt_of_le smaller (Nat.min_le_right _ _))
  rcases Nat.le_total precision.top (precision.reached numerator denominator) with beyond | within
  -- Rounding stops at infinity, which has an even rank.
  · rw [Nat.min_eq_left beyond]
    have less := precision.size_strictMono.monotone beyond
    exact ⟨(Nat.mul_le_mul_right _ (Nat.add_le_add_left less _)).trans above,
      fun _ => precision.top_even⟩
  · rw [Nat.min_eq_right within]
    exact ⟨above, tie⟩

theorem nearest_below {upper : Nat} (positive : 0 < denominator)
    (finite : precision.nearest numerator denominator < precision.top)
    (larger : precision.nearest numerator denominator < upper) :
    2 * numerator ≤ (precision.size (precision.nearest numerator denominator) +
        precision.size upper) * denominator ∧
      (2 * numerator = (precision.size (precision.nearest numerator denominator) +
          precision.size upper) * denominator →
        precision.nearest numerator denominator % 2 = 0) := by
  have reached : precision.nearest numerator denominator =
      precision.reached numerator denominator := by
    rw [nearest_eq_min] at finite ⊢
    omega
  rw [reached] at larger ⊢
  exact precision.reached_below numerator positive larger

/-- Infinity begins at the midpoint between the last finite rank and its own. -/
theorem nearest_eq_top_iff (positive : 0 < denominator) :
    precision.nearest numerator denominator = precision.top ↔
      (precision.size (precision.top - 1) + precision.size precision.top) * denominator ≤
        2 * numerator := by
  have last : precision.top - 1 < precision.top ∧ (precision.top - 1) % 2 = 1 := by
    cases precision <;> decide
  constructor
  · intro infinite
    have above := (precision.nearest_above numerator positive (infinite.symm ▸ last.1)).1
    rwa [infinite] at above
  · intro beyond
    by_contra finite
    have less : precision.nearest numerator denominator < precision.top :=
      lt_of_le_of_ne (precision.nearest_le_top _ _) finite
    obtain ⟨below, tie⟩ := precision.nearest_below numerator positive less less
    have previous : precision.nearest numerator denominator ≤ precision.top - 1 := by omega
    have sizes := precision.size_strictMono.monotone previous
    have scaled := Nat.mul_le_mul_right denominator
      (Nat.add_le_add_right sizes (precision.size precision.top))
    have even := tie (le_antisymm below (scaled.trans beyond))
    have same : precision.size (precision.nearest numerator denominator) =
        precision.size (precision.top - 1) := by
      have equal := le_antisymm scaled (beyond.trans below)
      have := Nat.eq_of_mul_eq_mul_right positive equal
      omega
    rw [precision.size_injective same] at even
    omega

/-! ## Distances -/

/-- The value of a quotient of least units. -/
def quantity (numerator denominator : Nat) : Rat :=
  numerator / (denominator * 2 ^ precision.scale)

/-- The value of a rank without its sign. -/
def magnitude (rank : Nat) : Rat :=
  precision.size rank / 2 ^ precision.scale

theorem magnitude_strictMono : StrictMono precision.magnitude := by
  intro left right less
  have sizes : (precision.size left : Rat) < precision.size right :=
    Nat.cast_lt.mpr (precision.size_lt_size_iff.mpr less)
  exact div_lt_div_of_pos_right sizes (by positivity)

theorem magnitude_nonneg (rank : Nat) : 0 ≤ precision.magnitude rank := by
  rw [magnitude]
  positivity

@[simp] theorem magnitude_zero : precision.magnitude 0 = 0 := by
  simp [magnitude]

theorem quantity_nonneg (denominator : Nat) : 0 ≤ precision.quantity numerator denominator := by
  rw [quantity]
  positivity

theorem quantity_size (rank : Nat) :
    precision.quantity (precision.size rank) 1 = precision.magnitude rank := by
  rw [quantity, magnitude, Nat.cast_one, one_mul]

theorem quantity_scaled (whole : Nat) :
    precision.quantity (whole * 2 ^ precision.scale) 1 = whole := by
  rw [quantity, Nat.cast_mul, Nat.cast_pow, Nat.cast_two, Nat.cast_one, one_mul]
  exact mul_div_cancel_right₀ _ (by positivity)

theorem quantity_rescaled (source : Precision) (rank : Nat) :
    precision.quantity (source.size rank * 2 ^ precision.scale) (2 ^ source.scale) =
      source.magnitude rank := by
  rw [quantity, magnitude, Nat.cast_mul, Nat.cast_pow, Nat.cast_pow, Nat.cast_two]
  exact mul_div_mul_right _ _ (by positivity)

theorem two_mul_quantity (denominator : Nat) :
    2 * precision.quantity numerator denominator =
      ((2 * numerator : Nat) : Rat) / (denominator * 2 ^ precision.scale) := by
  rw [quantity, Nat.cast_mul, Nat.cast_two, mul_div_assoc]

theorem magnitude_add (left right : Nat) (positive : 0 < denominator) :
    precision.magnitude left + precision.magnitude right =
      (((precision.size left + precision.size right) * denominator : Nat) : Rat) /
        (denominator * 2 ^ precision.scale) := by
  have nonzero : (denominator : Rat) ≠ 0 := Nat.cast_ne_zero.mpr positive.ne'
  rw [magnitude, magnitude, ← add_div, Nat.cast_mul, Nat.cast_add, mul_comm,
    mul_div_mul_left _ _ nonzero]

/-- No rank is nearer to a quotient than the one it is rounded to, and another one is as
near only to an even one. -/
theorem nearest_distance (positive : 0 < denominator)
    (finite : precision.nearest numerator denominator < precision.top) (rank : Nat) :
    let exact := precision.quantity numerator denominator
    let nearest := precision.nearest numerator denominator
    |exact - precision.magnitude nearest| ≤ |exact - precision.magnitude rank| ∧
      (|exact - precision.magnitude nearest| = |exact - precision.magnitude rank| →
        rank = nearest ∨ nearest % 2 = 0) := by
  intro exact nearest
  have grid : (0 : Rat) < denominator * 2 ^ precision.scale := by positivity
  rcases lt_trichotomy rank nearest with smaller | same | larger
  · obtain ⟨above, tie⟩ := precision.nearest_above numerator positive smaller
    have less := precision.magnitude_strictMono smaller
    rw [nearer_upper_iff less, eq_comm, equally_near_iff less, eq_comm,
      precision.magnitude_add _ _ positive, two_mul_quantity, div_le_div_iff_of_pos_right grid,
      div_left_inj' grid.ne', Nat.cast_le, Nat.cast_inj]
    exact ⟨above, fun halfway => .inr (tie halfway)⟩
  · rw [same]
    exact ⟨le_rfl, fun _ => .inl rfl⟩
  · obtain ⟨below, tie⟩ := precision.nearest_below numerator positive finite larger
    have more := precision.magnitude_strictMono larger
    rw [nearer_lower_iff more, equally_near_iff more, precision.magnitude_add _ _ positive,
      two_mul_quantity, div_le_div_iff_of_pos_right grid, div_left_inj' grid.ne', Nat.cast_le,
      Nat.cast_inj]
    exact ⟨below, fun halfway => .inr (tie halfway)⟩

/-- Half a step beyond the largest finite number: from there on a value is rounded to
infinity. -/
def overflow : Rat :=
  2 ^ precision.bias * (2 - 1 / 2 ^ (precision.fractionBits + 1))

theorem two_mul_overflow :
    2 * precision.overflow =
      precision.magnitude (precision.top - 1) + precision.magnitude precision.top := by
  cases precision <;> decide +kernel

theorem overflow_pos : 0 < precision.overflow := by
  cases precision <;> decide +kernel

theorem overflow_le_quantity_iff (positive : 0 < denominator) :
    precision.overflow ≤ precision.quantity numerator denominator ↔
      precision.nearest numerator denominator = precision.top := by
  have grid : (0 : Rat) < denominator * 2 ^ precision.scale := by positivity
  rw [precision.nearest_eq_top_iff numerator positive,
    ← mul_le_mul_iff_right₀ (two_pos : (0 : Rat) < 2), two_mul_overflow,
    precision.magnitude_add _ _ positive, two_mul_quantity, div_le_div_iff_of_pos_right grid,
    Nat.cast_le]

end Precision

end Interception

import Interception.Proofs.Number.Rounding

/-!
# Rounding twice

A value that is first rounded to a double and then to a single is not always rounded to
the nearest single. It goes wrong in one way only: the double lies halfway between two
singles, and the value was nearer to the one that the tie does not choose.
-/

set_option autoImplicit false

namespace Interception.Binary

variable {precision : Precision}

/-- The midpoint of two numbers that follow each other is a number of the wider format. -/
theorem midpoint_held {rank : Nat} (finite : rank + 1 < Precision.single.top) :
    ∃ wide, wide < Precision.double.top ∧ 2 * Precision.double.magnitude wide =
      Precision.single.magnitude rank + Precision.single.magnitude (rank + 1) := by
  obtain ⟨binade, steps, low, high, rfl⟩ := Precision.single.rank_steps rank
  have here := Precision.single.size_of_steps low high.le
  have next : Precision.single.size (binade * 2 ^ Precision.single.fractionBits + (steps + 1)) =
      (steps + 1) * 2 ^ binade :=
    Precision.single.size_of_steps (low.imp_right (·.trans (Nat.le_add_right steps 1))) high
  have fits : 2 * steps + 1 < 2 ^ (Precision.double.fractionBits + 1) := by
    simp only [Precision.fractionBits] at high ⊢
    omega
  have moderate : binade + 924 + 3 ≤ 2 ^ Precision.double.exponentBits := by
    simp only [Precision.top, Precision.fractionBits, Precision.exponentBits] at finite ⊢
    omega
  obtain ⟨wide, wideFinite, same⟩ := exists_finite_size_eq fits moderate
  have scale : Precision.double.scale = Precision.single.scale + 924 + 1 := rfl
  refine ⟨wide, wideFinite, ?_⟩
  simp only [Precision.magnitude, Nat.add_assoc _ steps, here, next, same, scale, Nat.cast_mul,
    Nat.cast_pow, Nat.cast_add, Nat.cast_two, Nat.cast_one, pow_add]
  field_simp
  ring

theorem exists_value_iff {value : Rat} :
    (∃ number : Binary precision, number.toRat? = some value) ↔
      ∃ rank, rank < precision.top ∧ precision.magnitude rank = |value| := by
  constructor
  · rintro ⟨number, known⟩
    obtain ⟨negative, rank, finite, rfl, rfl⟩ := toRat?_eq_some_iff.mp known
    rw [abs_sign_mul, abs_of_nonneg (precision.magnitude_nonneg rank)]
    exact ⟨rank, finite, rfl⟩
  · rintro ⟨rank, finite, same⟩
    refine ⟨.signed (decide (value < 0)) rank finite.le, ?_⟩
    rw [toRat?_signed finite, same]
    by_cases negative : value < 0
    · simp [negative, abs_of_neg negative]
    · simp [negative, abs_of_nonneg (not_lt.mp negative)]

theorem exists_value_neg {value : Rat}
    (held : ∃ number : Binary precision, number.toRat? = some value) :
    ∃ number : Binary precision, number.toRat? = some (-value) := by
  obtain ⟨rank, finite, same⟩ := exists_value_iff.mp held
  exact exists_value_iff.mpr ⟨rank, finite, same.trans (abs_neg value).symm⟩

/-- Between two numbers there is a next one, and the wider format has the midpoint. -/
theorem exists_next {near other : Rat}
    (nearHeld : ∃ number : Binary32, number.toRat? = some near)
    (otherHeld : ∃ number : Binary32, number.toRat? = some other) (less : near < other) :
    ∃ next, (∃ number : Binary32, number.toRat? = some next) ∧ near < next ∧ next ≤ other ∧
      ∃ number : Binary64, number.toRat? = some ((near + next) / 2) := by
  obtain ⟨rank, finite, nearRank⟩ := exists_value_iff.mp nearHeld
  obtain ⟨otherRank, otherFinite, sameOther⟩ := exists_value_iff.mp otherHeld
  have increasing := Precision.single.magnitude_strictMono
  by_cases negative : near < 0
  · rw [abs_of_neg negative] at nearRank
    have positive : 0 < rank := by
      rw [← increasing.lt_iff_lt, Precision.magnitude_zero]
      linarith
    obtain ⟨before, rfl⟩ : ∃ before, rank = before + 1 := ⟨rank - 1, by omega⟩
    have closer := increasing (Nat.lt_succ_self before)
    obtain ⟨wide, wideFinite, middle⟩ := midpoint_held finite
    have nonneg := Precision.single.magnitude_nonneg before
    refine ⟨-Precision.single.magnitude before, ?_, by linarith, ?_, ?_⟩
    · refine exists_value_iff.mpr ⟨before, by omega, ?_⟩
      rw [abs_neg, abs_of_nonneg nonneg]
    · by_cases otherNegative : other < 0
      · rw [abs_of_neg otherNegative] at sameOther
        have smaller : otherRank < before + 1 := increasing.lt_iff_lt.mp (by linarith)
        have := increasing.monotone (Nat.le_of_lt_succ smaller)
        linarith
      · linarith
    · refine exists_value_iff.mpr ⟨wide, wideFinite, ?_⟩
      rw [abs_of_nonpos (by linarith)]
      linarith
  · have nonneg := not_lt.mp negative
    rw [abs_of_nonneg nonneg] at nearRank
    rw [abs_of_pos (nonneg.trans_lt less)] at sameOther
    have larger : rank < otherRank := increasing.lt_iff_lt.mp (by linarith)
    have further := increasing (Nat.lt_succ_self rank)
    have nextFinite : rank + 1 < Precision.single.top := by omega
    obtain ⟨wide, wideFinite, middle⟩ := midpoint_held nextFinite
    refine ⟨Precision.single.magnitude (rank + 1), ?_, by linarith, ?_, ?_⟩
    · refine exists_value_iff.mpr ⟨rank + 1, nextFinite, ?_⟩
      rw [abs_of_nonneg (Precision.magnitude_nonneg _ _)]
    · rw [← sameOther]
      exact increasing.monotone larger
    · refine exists_value_iff.mpr ⟨wide, wideFinite, ?_⟩
      rw [abs_of_nonneg (by linarith)]
      linarith

/-- On one side of a number, the value rounded and the value that was rounded before can
only be separated by a midpoint if the first rounding ended there. -/
theorem nearest_on_side {near next other : Rat} (exact middle : Rat) {even : Prop}
    (less : near < next) (within : next ≤ other) (nearer : |middle - near| ≤ |middle - next|)
    (tie : |middle - near| = |middle - next| → even)
    (held : |exact - middle| ≤ |exact - (near + next) / 2|)
    (kept : |middle - near| = |middle - next| → |exact - near| ≤ |exact - next|) :
    |exact - near| ≤ |exact - other| ∧ (|exact - near| = |exact - other| → even) := by
  have further : near < other := less.trans_le within
  rw [nearer_lower_iff less] at nearer kept
  rw [equally_near_iff less] at tie kept
  rw [nearer_lower_iff further, equally_near_iff further]
  have side : 2 * exact ≤ near + next := by
    by_contra beyond
    rw [not_le] at beyond
    rw [abs_of_nonneg (by linarith), abs_of_nonneg (by linarith)] at held
    exact absurd (kept (by linarith)) (not_le.mpr beyond)
  refine ⟨by linarith, fun equal => tie ?_⟩
  have reached : exact = (near + next) / 2 := by linarith
  rw [reached, sub_self, abs_zero] at held
  have := abs_eq_zero.mp (le_antisymm held (abs_nonneg _))
  linarith

theorem mirrored (left right : Rat) : |-left - right| = |left - -right| := by
  rw [← abs_neg]
  ring_nf

/-- Rounding by way of the wider format gives a nearest number, unless the first rounding
ends halfway between two numbers and the exact value is nearer to the other one. -/
theorem isNearest_twice {double : Binary64} {single : Binary32} {exact middle near : Rat}
    (first : double.IsNearest exact) (reached : double.toRat? = some middle)
    (second : single.IsNearest middle) (found : single.toRat? = some near)
    (kept : ∀ (other : Binary32) (otherValue : Rat), other.toRat? = some otherValue →
      |middle - near| = |middle - otherValue| → |exact - near| ≤ |exact - otherValue|) :
    single.IsNearest exact := by
  obtain ⟨found', known, least⟩ := second
  obtain rfl : near = found' := Option.some.inj (found.symm.trans known)
  obtain ⟨reached', wideKnown, wideLeast⟩ := first
  obtain rfl : middle = reached' := Option.some.inj (reached.symm.trans wideKnown)
  refine ⟨_, found, ?_⟩
  intro other otherValue held
  rcases lt_trichotomy near otherValue with above | same | below
  · obtain ⟨next, ⟨number, nextHeld⟩, less, within, wide, wideHeld⟩ :=
      exists_next ⟨_, found⟩ ⟨_, held⟩ above
    obtain ⟨nearer, tie⟩ := least number next nextHeld
    have sides := nearest_on_side exact middle less within nearer
      (fun equal => (tie equal).resolve_left less.ne') (wideLeast wide _ wideHeld).1
      (kept number next nextHeld)
    exact sides.imp_right fun even equal => .inr (even equal)
  · rw [← same]
    exact ⟨le_rfl, fun _ => .inl rfl⟩
  -- On the other side the same argument applies to the negated values.
  · obtain ⟨next, nextHeld, less, within, wideHeld⟩ :=
      exists_next (exists_value_neg ⟨_, found⟩) (exists_value_neg ⟨_, held⟩) (neg_lt_neg below)
    obtain ⟨number, nextHeld⟩ := exists_value_neg nextHeld
    obtain ⟨wide, wideHeld⟩ := exists_value_neg wideHeld
    obtain ⟨nearer, tie⟩ := least number _ nextHeld
    have ended := (wideLeast wide _ wideHeld).1
    have kept := kept number _ nextHeld
    have apart : -next ≠ near := by linarith
    have sides := nearest_on_side (-exact) (-middle) less within
      (by simpa only [mirrored, neg_neg] using nearer)
      (by simpa only [mirrored, neg_neg] using fun equal => (tie equal).resolve_left apart)
      (by simpa only [mirrored, neg_neg] using ended)
      (by simpa only [mirrored, neg_neg] using kept)
    simp only [mirrored, neg_neg] at sides
    exact sides.imp_right fun even equal => .inr (even equal)

end Interception.Binary

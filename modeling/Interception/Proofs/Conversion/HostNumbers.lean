import Interception.Proofs.Conversion.Integral
import Interception.Proofs.Conversion.Numbers

/-!
# Host numbers keep their value

A host number comes back as an int, a long or a double by its exact value: an integer is
held by the narrower type that has it, as long as doubles hold its neighbours too, and
everything else stays the double it was. A declared type does not see the difference.
-/

set_option autoImplicit false

namespace Interception

theorem Binary.toInt?_eq_some_iff_toRat? {precision : Precision} {number : Binary precision}
    {integer : Int} : number.toInt? = some integer ↔ number.toRat? = some (integer : Rat) := by
  have scale : (2 ^ precision.scale : Rat) ≠ 0 := by positivity
  rw [toInt?_eq_some_iff, toRat?, Option.map_eq_some_iff]
  constructor
  · intro units
    refine ⟨_, units, ?_⟩
    rw [Rat.mkRat_eq_div]
    push_cast
    exact mul_div_cancel_right₀ _ scale
  · rintro ⟨units, known, exact⟩
    rw [known, Option.some.injEq]
    rw [Rat.mkRat_eq_div, div_eq_iff (by exact_mod_cast scale)] at exact
    exact_mod_cast exact

namespace Native.Value

/-- The three ways in which a host number comes back. -/
theorem ofNumber_classified (number : Binary64) :
    (∃ whole : SizedInt .int, ofNumber number = .integer .int whole ∧
      number.toRat? = some (whole.toInt : Rat)) ∨
    (∃ whole : SizedInt .long, ofNumber number = .integer .long whole ∧
      number.toRat? = some (whole.toInt : Rat) ∧ ¬ Width.int.Holds whole.toInt ∧
      |whole.toInt| ≤ largestSafeInteger) ∨
    ofNumber number = .float .double number ∧
      ∀ integer : Int, number.toRat? = some (integer : Rat) → largestSafeInteger < |integer| := by
  simp only [← Binary.toInt?_eq_some_iff_toRat?]
  unfold ofNumber
  split
  · rename_i fractional
    exact .inr (.inr ⟨rfl, fun integer whole => by simp [fractional] at whole⟩)
  · rename_i whole known
    split
    · rename_i inRange
      exact .inl ⟨⟨whole, inRange⟩, rfl, known⟩
    · rename_i outOfRange
      split
      · rename_i safe
        exact .inr (.inl ⟨⟨whole, _⟩, rfl, known, outOfRange, Int.abs_eq_natAbs whole ▸ safe⟩)
      · rename_i large
        refine .inr (.inr ⟨rfl, fun integer other => ?_⟩)
        obtain rfl : whole = integer := Option.some.inj (known.symm.trans other)
        rw [Int.abs_eq_natAbs]
        exact not_le.mp large

theorem abs_le_of_int_holds {integer : Int} (inRange : Width.int.Holds integer) :
    |integer| ≤ largestSafeInteger := by
  obtain ⟨low, high⟩ := inRange
  simp only [Width.least, Width.greatest, Width.bits] at low high
  rw [abs_le, largestSafeInteger]
  omega

theorem ofNumber_eq_int_iff {number : Binary64} {whole : SizedInt .int} :
    ofNumber number = .integer .int whole ↔ number.toRat? = some (whole.toInt : Rat) := by
  rcases ofNumber_classified number with
    ⟨int, same, known⟩ | ⟨long, same, known, outOfRange, -⟩ | ⟨same, large⟩
  · simp [same, known, SizedInt.toInt_inj, eq_comm]
  · refine iff_of_false (by simp [same]) fun other => outOfRange ?_
    have equal : long.toInt = whole.toInt := by simpa [known] using other
    exact equal ▸ whole.inRange
  · refine iff_of_false (by simp [same]) fun other => ?_
    exact not_lt.mpr (abs_le_of_int_holds whole.inRange) (large _ other)

theorem ofNumber_eq_long_iff {number : Binary64} {whole : SizedInt .long} :
    ofNumber number = .integer .long whole ↔
      number.toRat? = some (whole.toInt : Rat) ∧ ¬ Width.int.Holds whole.toInt ∧
        |whole.toInt| ≤ largestSafeInteger := by
  rcases ofNumber_classified number with
    ⟨int, same, known⟩ | ⟨long, same, known, outOfRange, safe⟩ | ⟨same, large⟩
  · refine iff_of_false (by simp [same]) fun ⟨other, outOfRange, _⟩ => outOfRange ?_
    have equal : int.toInt = whole.toInt := by simpa [known] using other
    exact equal ▸ int.inRange
  · rw [same, known]
    constructor
    · intro equal
      cases equal
      exact ⟨rfl, outOfRange, safe⟩
    · rintro ⟨other, -, -⟩
      have equal : long.toInt = whole.toInt := by simpa using other
      rw [SizedInt.toInt_inj.mp equal]
  · refine iff_of_false (by simp [same]) fun ⟨other, _, safe⟩ => ?_
    exact not_lt.mpr safe (large _ other)

theorem ofNumber_eq_double_iff {number : Binary64} :
    ofNumber number = .float .double number ↔
      ∀ integer : Int, number.toRat? = some (integer : Rat) → largestSafeInteger < |integer| := by
  rcases ofNumber_classified number with
    ⟨int, same, known⟩ | ⟨long, same, known, -, safe⟩ | ⟨same, large⟩
  · refine iff_of_false (by simp [same]) fun large => ?_
    exact not_lt.mpr (abs_le_of_int_holds int.inRange) (large _ known)
  · refine iff_of_false (by simp [same]) fun large => ?_
    exact not_lt.mpr safe (large _ known)
  · exact iff_of_true same large

/-! ## Declared types do not see the difference -/

/-- The exact value does not depend on how a number comes back. -/
theorem toRat?_ofNumber (number : Binary64) : (ofNumber number).toRat? = number.toRat? := by
  rcases ofNumber_classified number with
    ⟨int, same, known⟩ | ⟨long, same, known, -⟩ | ⟨same, -⟩
  · rw [same, known, toRat?]
  · rw [same, known, toRat?]
  · rw [same, toRat?]

theorem coerce_ofNumber_integer_iff {number : Binary64} {width : Width} {result : Value} :
    ((ofNumber number).coerce (.integer width)).outcome = .ok result ↔
      ∃ exact, number.toRat? = some exact ∧ ∃ inRange : width.Holds (towardZero exact),
        result = .integer width ⟨towardZero exact, inRange⟩ := by
  rw [coerce_ofNumber number (by simp), narrow_ok_iff, narrow?_integer_eq_some_iff,
    toRat?_ofNumber]

/-- An integer stands for a character just where it is a Unicode scalar value. -/
theorem toChar?_integer_eq_some_iff {width : Width} {integer : SizedInt width}
    {character : Char} :
    (Value.integer width integer).toChar? = some character ↔
      ∃ code : Nat, integer.toInt = code ∧ code.isValidChar ∧ character = Char.ofNat code := by
  rw [toChar?]
  split
  · rename_i scalar
    obtain ⟨nonneg, valid⟩ := scalar
    constructor
    · intro same
      exact ⟨_, (Int.toNat_of_nonneg nonneg).symm, valid, (Option.some.inj same).symm⟩
    · rintro ⟨code, same, -, rfl⟩
      rw [same, Int.toNat_natCast]
  · rename_i noScalar
    refine iff_of_false (by simp) ?_
    rintro ⟨code, same, valid, -⟩
    refine noScalar ⟨?_, ?_⟩
    · rw [same]
      exact Int.natCast_nonneg code
    · rwa [same, Int.toNat_natCast]

theorem coerce_ofNumber_char_iff {number : Binary64} {result : Value} :
    ((ofNumber number).coerce .char).outcome = .ok result ↔
      ∃ code : Nat, number.toRat? = some (code : Rat) ∧
        (code < 0xD800 ∨ 0xDFFF < code ∧ code < 0x110000) ∧
        result = .char (Char.ofNat code) := by
  rw [coerce_ofNumber number (by simp), narrow_ok_iff, narrow?, Option.map_eq_some_iff]
  have whole {width : Width} {integer : SizedInt width}
      (same : ofNumber number = .integer width integer)
      (known : number.toRat? = some (integer.toInt : Rat)) :
      (∃ character, (ofNumber number).toChar? = some character ∧ .char character = result) ↔
        ∃ code : Nat, number.toRat? = some (code : Rat) ∧ code.isValidChar ∧
          result = .char (Char.ofNat code) := by
    simp only [same, known, toChar?_integer_eq_some_iff, Option.some.injEq]
    constructor
    · rintro ⟨_, ⟨code, equal, valid, rfl⟩, rfl⟩
      exact ⟨code, by rw [equal, Int.cast_natCast], valid, rfl⟩
    · rintro ⟨code, equal, valid, rfl⟩
      exact ⟨_, ⟨code, by exact_mod_cast equal, valid, rfl⟩, rfl⟩
  rcases ofNumber_classified number with
    ⟨int, same, known⟩ | ⟨long, same, known, -⟩ | ⟨same, large⟩
  · exact whole same known
  · exact whole same known
  -- No double that is left as it is stands for a character.
  · refine iff_of_false (by simp [same, toChar?]) ?_
    rintro ⟨code, known, scalar, -⟩
    have beyond := large code (by rw [known, Int.cast_natCast])
    rw [largestSafeInteger, Nat.abs_cast] at beyond
    omega

/-- A host number comes back by its exact value: as an int, as a long or as itself, and
never changed. Coerced to a declared type it ends as the number itself would: a double
loses the sign of zero, an integral type takes the integer part where it has it, and a
character is a Unicode scalar value. The exact value is that of the interchange word. -/
theorem host_number_lossless (number : Binary64) :
    (∀ whole : SizedInt .int,
      (Host.Value.number number).toNative = .ok (.integer .int whole) ↔
        number.toRat? = some (whole.toInt : Rat)) ∧
    (∀ whole : SizedInt .long,
      (Host.Value.number number).toNative = .ok (.integer .long whole) ↔
        number.toRat? = some (whole.toInt : Rat) ∧ ¬ Width.int.Holds whole.toInt ∧
          |whole.toInt| ≤ 2 ^ 53 - 1) ∧
    ((Host.Value.number number).toNative = .ok (.float .double number) ↔
      ∀ integer : Int, number.toRat? = some (integer : Rat) → 2 ^ 53 - 1 < |integer|) ∧
    (∃ native, (Host.Value.number number).toNative = .ok native ∧
      (native.coerce (.float .double)).outcome =
        .ok (.float .double number.withPositiveZero) ∧
      (∀ width result, (native.coerce (.integer width)).outcome = .ok result ↔
        ∃ exact, number.toRat? = some exact ∧ ∃ inRange : width.Holds (towardZero exact),
          result = .integer width ⟨towardZero exact, inRange⟩) ∧
      ∀ result, (native.coerce .char).outcome = .ok result ↔
        ∃ code : Nat, number.toRat? = some (code : Rat) ∧
          (code < 0xD800 ∨ 0xDFFF < code ∧ code < 0x110000) ∧
          result = .char (Char.ofNat code)) ∧
    ∀ word, number = .ofWord word → number.toRat? = Precision.double.wordValue? word := by
  have back : (Host.Value.number number).toNative = .ok (ofNumber number) := by
    rw [Host.Value.toNative]
  refine ⟨?int, ?long, ?double, ?declared, ?word⟩
  case int =>
    intro whole
    rw [back, Except.ok.injEq, ofNumber_eq_int_iff]
  case long =>
    intro whole
    rw [back, Except.ok.injEq, ofNumber_eq_long_iff, largestSafeInteger]
  case double => rw [back, Except.ok.injEq, ofNumber_eq_double_iff, largestSafeInteger]
  case declared =>
    exact ⟨_, back, coerce_ofNumber_double number, fun _ _ => coerce_ofNumber_integer_iff,
      fun _ => coerce_ofNumber_char_iff⟩
  case word =>
    rintro word rfl
    exact Binary.toRat?_ofWord word

/-- Both ends of the ints, the last safe integer and the one after it, a negative zero, and
a surrogate, which is no character. -/
theorem host_number_lossless_edges :
    (Host.Value.number (.ofWord 0xC1E0000000000000)).toNative =
      .ok (.integer .int ⟨-2 ^ 31, by decide⟩) ∧
    (Host.Value.number (.ofWord 0x41E0000000000000)).toNative =
      .ok (.integer .long ⟨2 ^ 31, by decide⟩) ∧
    (Host.Value.number (.ofWord 0x433FFFFFFFFFFFFF)).toNative =
      .ok (.integer .long ⟨2 ^ 53 - 1, by decide⟩) ∧
    (Host.Value.number (.ofWord 0x4340000000000000)).toNative =
      .ok (.float .double (.ofWord 0x4340000000000000)) ∧
    (Host.Value.number (.ofWord 0x8000000000000000)).toNative =
      .ok (.integer .int ⟨0, by decide⟩) ∧
    ∃ native, (Host.Value.number (.ofWord 0x40EB000000000000)).toNative = .ok native ∧
      ∀ result, (native.coerce .char).outcome ≠ .ok result := by
  refine ⟨?least, ?beyondInt, ?safe, ?beyondSafe, ?zero, ?surrogate⟩
  case least => exact ((host_number_lossless _).1 _).mpr (by decide +kernel)
  case beyondInt =>
    exact ((host_number_lossless _).2.1 _).mpr
      ⟨by decide +kernel, by decide, by decide⟩
  case safe =>
    exact ((host_number_lossless _).2.1 _).mpr
      ⟨by decide +kernel, by decide, by decide⟩
  case beyondSafe =>
    refine (host_number_lossless _).2.2.1.mpr ?_
    intro integer known
    have exact : (Binary.ofWord 0x4340000000000000 : Binary64).toRat? =
        some ((2 ^ 53 : Int) : Rat) := by decide +kernel
    have same : (2 ^ 53 : Int) = integer := by
      exact_mod_cast Option.some.inj (exact.symm.trans known)
    rw [← same]
    decide
  case zero => exact ((host_number_lossless _).1 _).mpr (by decide +kernel)
  case surrogate =>
    obtain ⟨native, back, -, -, char⟩ := (host_number_lossless (.ofWord 0x40EB000000000000)).2.2.2.1
    refine ⟨native, back, fun result coerced => ?_⟩
    obtain ⟨code, known, scalar, -⟩ := (char result).mp coerced
    have exact : (Binary.ofWord 0x40EB000000000000 : Binary64).toRat? =
        some ((0xD800 : Nat) : Rat) := by decide +kernel
    have same : 0xD800 = code := by
      exact_mod_cast Option.some.inj (exact.symm.trans known)
    omega

end Native.Value

end Interception

import Interception.Conversion.ToNative
import Interception.Proofs.Conversion.Whole

/-!
# Numbers from the host

A host number comes back as an int, a long or a double. Its integer part and its
nearest double do not depend on which of them it is.
-/

set_option autoImplicit false

namespace Interception.Native.Value

/-- A host number comes back as an integer that it equals, or as itself where it
is no zero. -/
theorem ofNumber_cases (number : Binary64) :
    (∃ width, ∃ integer : SizedInt width, ofNumber number = .integer width integer ∧
      number.toInt? = some integer.toInt ∧
        (integer.toInt.natAbs : Int) ≤ largestSafeInteger) ∨
      ofNumber number = .float .double number ∧ number.toInt? ≠ some 0 := by
  unfold ofNumber
  split
  · rename_i fractional
    exact .inr ⟨rfl, by simp [fractional]⟩
  · rename_i whole known
    split
    · rename_i inRange
      refine .inl ⟨.int, ⟨whole, inRange⟩, rfl, known, ?_⟩
      simp only [Width.Holds, Width.least, Width.greatest, Width.bits] at inRange
      simp only [largestSafeInteger]
      omega
    · split
      · rename_i safe
        exact .inl ⟨.long, ⟨whole, Width.long_holds_of_safe safe⟩, rfl, known, safe⟩
      · rename_i large
        refine .inr ⟨rfl, fun zero => large ?_⟩
        rw [known, Option.some.injEq] at zero
        subst zero
        decide

theorem natAbs_lt_of_safe {integer : Int}
    (safe : (integer.natAbs : Int) ≤ largestSafeInteger) :
    integer.natAbs < 2 ^ (Precision.double.fractionBits + 1) := by
  simp only [largestSafeInteger] at safe
  simp only [Precision.fractionBits]
  omega

/-- The integer part does not depend on how a number comes back. -/
theorem truncate?_ofNumber (number : Binary64) :
    (ofNumber number).truncate? = number.truncate? := by
  rcases ofNumber_cases number with ⟨width, integer, same, whole, -⟩ | ⟨same, -⟩
  · rw [same, Binary.truncate?_eq_of_toInt? whole]
    rfl
  · rw [same]
    rfl

/-- Read as a double again, a number has lost at most the sign of zero. -/
theorem toDouble?_ofNumber (number : Binary64) :
    (ofNumber number).toDouble? = some number.withPositiveZero := by
  rcases ofNumber_cases number with ⟨width, integer, same, whole, safe⟩ | ⟨same, nonzero⟩
  · obtain ⟨exact, positive⟩ := Binary.ofInt_exact (natAbs_lt_of_safe safe)
    rw [same]
    show some (Binary.ofInt integer.toInt) = _
    rw [← positive, Binary.withPositiveZero_eq_of_units? (Binary.toInt?_eq_some_iff.mp exact)
      (Binary.toInt?_eq_some_iff.mp whole)]
  · rw [same, Binary.withPositiveZero_eq_self nonzero]
    rfl

theorem coerce_ofNumber (number : Binary64) {target : Ty} (filled : target ≠ .void) :
    (ofNumber number).coerce target = (ofNumber number).narrow target := by
  rcases ofNumber_cases number with ⟨width, integer, same, -⟩ | ⟨same, -⟩ <;> rw [same] <;>
    cases target <;> first | exact absurd rfl filled | rfl

theorem coerce_ofNumber_integer {width : Width} {number : Binary64} {integer : SizedInt width}
    (whole : number.truncate? = some integer.toInt) :
    ((ofNumber number).coerce (.integer width)).outcome = .ok (.integer width integer) := by
  have narrowed : (ofNumber number).narrow? (.integer width) = some (.integer width integer) := by
    rw [narrow?_integer, truncate?_ofNumber, whole, Option.bind_some, SizedInt.ofInt?_toInt,
      Option.map_some]
  rw [coerce_ofNumber number (by simp)]
  simp only [narrow, narrowed]

theorem coerce_ofNumber_double (number : Binary64) :
    ((ofNumber number).coerce (.float .double)).outcome =
      .ok (.float .double number.withPositiveZero) := by
  rw [coerce_ofNumber number (by simp)]
  simp only [narrow, narrow?, toDouble?_ofNumber, Option.map_some]

theorem coerce_ofNumber_single (number : Binary32) :
    ((ofNumber number.convert).coerce (.float .single)).outcome =
      .ok (.float .single number.withPositiveZero) := by
  rw [coerce_ofNumber number.convert (by simp)]
  simp only [narrow, narrow?, toDouble?_ofNumber, Option.map_some,
    ← Binary.convert_withPositiveZero, Binary.convert_convert]

end Interception.Native.Value

import Interception.Conversion.Coercion
import Interception.Proofs.Number.Exact

/-!
# Integer parts of values

A number is taken to an integral type in two steps: its integer part has to be a long,
and then the width has to hold it. A width holds only longs, so that the first step
refuses nothing that the second would not refuse as well, and what counts is the integer
part alone.
-/

set_option autoImplicit false

namespace Interception

namespace Binary

theorem wholeLong?_eq (number : Binary64) :
    number.wholeLong? = number.truncate?.bind SizedInt.ofInt? := by
  unfold wholeLong?
  cases number.truncate? with
  | none => rfl
  | some whole =>
      by_cases bounded : lowestLong ≤ whole ∧ whole < pastLongs
      · have inRange := long_holds_iff.mpr bounded
        simp [bounded, SizedInt.ofInt?, inRange]
      · have outside := mt long_holds_iff.mp bounded
        simp [bounded, SizedInt.ofInt?, outside]

end Binary

namespace SizedInt

theorem ofInt?_toInt {width : Width} (sized : SizedInt width) :
    ofInt? sized.toInt = some sized :=
  ofInt?_eq_some_iff.mpr rfl

/-- An integer that a width holds is found also by way of the longs. -/
theorem ofInt?_of_long (width : Width) (whole : Int) :
    (do ofInt? (← (ofInt? whole : Option (SizedInt .long))).toInt : Option (SizedInt width)) =
      ofInt? whole := by
  by_cases inRange : width.Holds whole
  · simp [ofInt?, inRange, inRange.long]
  · cases found : (ofInt? whole : Option (SizedInt .long)) with
    | none => exact (ofInt?_eq_none_iff.mpr inRange).symm
    | some long =>
        have same : long.toInt = whole := ofInt?_eq_some_iff.mp found
        simp [same]

end SizedInt

namespace Native.Value

/-- The integer part of a finite numeric value, toward zero. -/
def truncate? : Value → Option Int
  | .integer _ value => some value.toInt
  | .float _ value => value.truncate?
  | _ => none

theorem whole?_eq (value : Value) : value.whole? = value.truncate?.bind SizedInt.ofInt? := by
  cases value with
  | integer width integer => exact integer.toLong.ofInt?_toInt.symm
  | float precision number =>
      cases precision with
      | single =>
          rw [truncate?, ← Binary.truncate?_convert]
          exact Binary.wholeLong?_eq _
      | double => exact Binary.wholeLong?_eq number
  | _ => rfl

theorem wholeOf?_eq (value : Value) (width : Width) :
    value.wholeOf? width = value.truncate?.bind SizedInt.ofInt? := by
  have narrowed : (do SizedInt.ofInt? (← value.whole?).toInt) =
      (value.truncate?.bind SizedInt.ofInt? : Option (SizedInt width)) := by
    rw [whole?_eq]
    cases value.truncate? with
    | none => rfl
    | some whole => exact SizedInt.ofInt?_of_long width whole
  cases width with
  | long => exact whole?_eq value
  | _ => exact narrowed

/-- What becomes of a number at an integral type is settled by its integer part. -/
theorem narrow?_integer (value : Value) (width : Width) :
    value.narrow? (.integer width) =
      (value.truncate?.bind SizedInt.ofInt?).map (.integer width) := by
  rw [narrow?, wholeOf?_eq]

end Native.Value

end Interception

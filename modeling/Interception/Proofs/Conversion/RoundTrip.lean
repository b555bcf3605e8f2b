import Interception.Conversion.ToHost
import Interception.Proofs.Conversion.Numbers

/-!
# From the native side to the host and back

What a declared type accepts survives the way to the host, back, and through the
coercion to that type. Only the sign of zero is lost, at any depth. Types that
mention a class are left out: a class accepts every value, so coercion to it has
nothing to restore a width from.
-/

set_option autoImplicit false

namespace Interception.Native

def Ty.objectFree : Ty → Bool
  | .object _ => false
  | .array element => element.objectFree
  | .void | .boolean | .integer _ | .float _ | .char | .string => true

namespace Value

mutual

/-- The value with every zero of a float made positive. -/
def withPositiveZeros : Value → Value
  | .float precision value => .float precision value.withPositiveZero
  | .array items => .array (withPositiveZerosAll items)
  | .null => .null
  | .boolean value => .boolean value
  | .integer width value => .integer width value
  | .char value => .char value
  | .string value => .string value
  | .object reference => .object reference

def withPositiveZerosAll : List Value → List Value
  | [] => []
  | item :: items => item.withPositiveZeros :: withPositiveZerosAll items

end

/-- `value` goes to the host and back and is coerced to `declared` with this result. -/
def ReturnsAs (declared : Ty) (value result : Value) : Prop :=
  ∃ native, value.toHost.toNative = .ok native ∧ (native.coerce declared).outcome = .ok result

theorem integer_returns (width : Width) (integer : SizedInt width) :
    ReturnsAs (.integer width) (.integer width integer) (.integer width integer) := by
  have number (safe : (integer.toInt.natAbs : Int) ≤ largestSafeInteger) :
      ((ofNumber (Binary.ofInt integer.toInt)).coerce (.integer width)).outcome =
        .ok (.integer width integer) :=
    coerce_ofNumber_integer
      (Binary.truncate?_eq_of_toInt? (Binary.ofInt_exact (natAbs_lt_of_safe safe)).1)
  by_cases safe : (integer.toInt.natAbs : Int) ≤ largestSafeInteger
  · refine ⟨ofNumber (Binary.ofInt integer.toInt), ?_, number safe⟩
    cases width <;>
      simp only [toHost, safe, reduceIte, Host.Value.ofInt, Host.Value.toNative]
  · have range := integer.inRange
    cases width with
    | long =>
        have back : (toHost (.integer .long integer)).toNative = .ok (.integer .long integer) := by
          simp only [toHost, safe, reduceIte, Host.Value.toNative]
        refine ⟨.integer .long integer, back, ?_⟩
        simp [coerce, narrow, narrow?_integer, truncate?, SizedInt.ofInt?_toInt]
    | byte | short | int =>
        simp only [Width.Holds, Width.least, Width.greatest, Width.bits] at range
        simp only [largestSafeInteger] at safe
        omega

theorem float_returns (precision : Precision) (number : Binary precision) :
    ReturnsAs (.float precision) (.float precision number)
      (.float precision number.withPositiveZero) := by
  cases precision with
  | single =>
      exact ⟨ofNumber number.convert, by simp [toHost, Host.Value.toNative],
        coerce_ofNumber_single number⟩
  | double =>
      exact ⟨ofNumber number, by simp [toHost, Host.Value.toNative],
        coerce_ofNumber_double number⟩

theorem char_returns (character : Char) : ReturnsAs .char (.char character) (.char character) := by
  refine ⟨.string character.toString, by simp [toHost, Host.Value.toNative], ?_⟩
  simp [coerce, narrow, narrow?, toChar?]

theorem array_returns {element : Ty} {items : List Value}
    (all : ∀ item ∈ items, ReturnsAs element item item.withPositiveZeros) :
    ReturnsAs (.array element) (.array items) (.array (withPositiveZerosAll items)) := by
  have listed : ∃ natives, Host.Value.toNativeAll (toHostAll items) = .ok natives ∧
      (coerceAll element natives).outcome = .ok (withPositiveZerosAll items) := by
    induction items with
    | nil => exact ⟨[], rfl, rfl⟩
    | cons item items ih =>
        obtain ⟨first, firstBack, firstCoerced⟩ := all item List.mem_cons_self
        obtain ⟨others, othersBack, othersCoerced⟩ :=
          ih fun item member => all item (List.mem_cons_of_mem _ member)
        refine ⟨first :: others, ?_, ?_⟩
        · rw [toHostAll, Host.Value.toNativeAll, firstBack, othersBack]
          rfl
        · simp only [coerceAll, Coercion.andThen, firstCoerced, Coercion.map, othersCoerced,
            withPositiveZerosAll]
          rfl
  obtain ⟨natives, back, coerced⟩ := listed
  refine ⟨.array natives, ?_, ?_⟩
  · simp only [toHost, Host.Value.toNative, back]
    rfl
  · simp only [coerce, Coercion.visit, Coercion.map, coerced]
    rfl

theorem null_returns {declared : Ty} (accepted : declared.accepts .null = true)
    (objectFree : declared.objectFree = true) : ReturnsAs declared .null .null := by
  refine ⟨.null, by simp [toHost, Host.Value.toNative], ?_⟩
  cases declared <;> simp_all [Ty.accepts, Ty.objectFree, coerce, Coercion.settled, Ty.zero]

/-- Acceptance is all that the way back relies on. The induction is on the declared
type, since below an array only its element type is left to coerce to. -/
theorem accepted_returns {declared : Ty} (objectFree : declared.objectFree = true)
    {value : Value} (accepted : declared.accepts value = true) :
    ReturnsAs declared value value.withPositiveZeros := by
  induction declared generalizing value with
  | object className => simp [Ty.objectFree] at objectFree
  | array element ih =>
      cases value with
      | null => simpa [withPositiveZeros] using null_returns accepted objectFree
      | array items =>
          rw [withPositiveZeros]
          refine array_returns fun item member => ih objectFree ?_
          rw [Ty.accepts, Ty.acceptsAll_eq_all, List.all_eq_true] at accepted
          exact accepted item member
      | _ => simp [Ty.accepts] at accepted
  | void =>
      cases value with
      | null => simpa [withPositiveZeros] using null_returns accepted objectFree
      | _ => simp [Ty.accepts] at accepted
  | boolean =>
      cases value with
      | boolean value =>
          exact ⟨.boolean value, by simp [toHost, Host.Value.toNative],
            by simp [coerce, narrow, narrow?, withPositiveZeros]⟩
      | _ => simp [Ty.accepts] at accepted
  | integer width =>
      cases value with
      | integer valueWidth integer =>
          obtain rfl : width = valueWidth := by simpa [Ty.accepts] using accepted
          simpa [withPositiveZeros] using integer_returns width integer
      | _ => simp [Ty.accepts] at accepted
  | float precision =>
      cases value with
      | float valuePrecision number =>
          obtain rfl : precision = valuePrecision := by simpa [Ty.accepts] using accepted
          simpa [withPositiveZeros] using float_returns precision number
      | _ => simp [Ty.accepts] at accepted
  | char =>
      cases value with
      | char character => simpa [withPositiveZeros] using char_returns character
      | _ => simp [Ty.accepts] at accepted
  | string =>
      cases value with
      | null => simpa [withPositiveZeros] using null_returns accepted objectFree
      | string text =>
          exact ⟨.string text, by simp [toHost, Host.Value.toNative],
            by simp [coerce, narrow, narrow?, withPositiveZeros]⟩
      | _ => simp [Ty.accepts] at accepted

end Value

end Interception.Native

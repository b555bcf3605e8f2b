import Interception.Failure

/-!
# Host values to native values

A number that is an integer becomes the narrower of int and long that holds it.
Callbacks and host objects have no native counterpart, at any depth.
-/

set_option autoImplicit false

namespace Interception

/-- The native value of a host number: an int or a long when the number is an
integer that the type holds and every double of its size is exact, and the number
itself otherwise. -/
def Native.Value.ofNumber (number : Binary64) : Native.Value :=
  match number.toInt? with
  | none => .float .double number
  | some whole =>
      if inRange : Width.int.Holds whole then .integer .int ⟨whole, inRange⟩
      else if safe : (whole.natAbs : Int) ≤ largestSafeInteger then
        .integer .long ⟨whole, Width.long_holds_of_safe safe⟩
      else .float .double number

namespace Host.Value

/-- The target that a host value without native counterpart was meant for. -/
def nativeTarget : String :=
  "native value"

mutual

/-- The first callback or host object, depth first and left to right, is reported. -/
def toNative : Value → Except Failure Native.Value
  | .undefined => .ok .null
  | .null => .ok .null
  | .boolean value => .ok (.boolean value)
  | .number value => .ok (.ofNumber value)
  | .bigint value => .ok (.integer .long value)
  | .string value => .ok (.string value)
  | .array items => (toNativeAll items).map .array
  | .wrapped reference => .ok (.object reference)
  | .callback _ => .error (.unmarshal .function nativeTarget)
  | .object _ => .error (.unmarshal .object nativeTarget)

def toNativeAll : List Value → Except Failure (List Native.Value)
  | [] => .ok []
  | item :: items => do
      let first ← item.toNative
      let others ← toNativeAll items
      pure (first :: others)

end

end Host.Value

end Interception

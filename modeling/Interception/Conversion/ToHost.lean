import Interception.Failure
import Interception.Native.Acceptance

/-!
# Native values to the host

Conversion to a host value never fails by itself. Marshaling an argument first
asks its declared type, so the value is refused as a whole, with the declared
type as a whole in the report.
-/

set_option autoImplicit false

namespace Interception

namespace Native.Value

mutual

/-- A long becomes a number where every double of its size is exact, and stays
an integer beyond. Instances are wrapped, never copied. -/
def toHost : Value → Host.Value
  | .null => .null
  | .boolean value => .boolean value
  | .integer .long value =>
      if (value.toInt.natAbs : Int) ≤ largestSafeInteger then .ofInt value.toInt
      else .bigint value
  | .integer _ value => .ofInt value.toInt
  | .float .single value => .number value.convert
  | .float .double value => .number value
  | .char value => .string value.toString
  | .string value => .string value
  | .array items => .array (toHostAll items)
  | .object reference => .wrapped reference

def toHostAll : List Value → List Host.Value
  | [] => []
  | item :: items => item.toHost :: toHostAll items

end

/-- The host value of the argument at a position, if its declared type accepts it. -/
def marshal (value : Value) (declared : Ty) (index : Nat) : Except Failure Host.Value :=
  if declared.accepts value then .ok value.toHost
  else .error (.marshal index declared value.kind)

/-- Marshals pairs of declared type and argument, numbered from `index`, up to the
first that is refused. -/
def marshalFrom (index : Nat) : List (Ty × Value) → Except Failure (List Host.Value)
  | [] => .ok []
  | (declared, value) :: rest => do
      let first ← value.marshal declared index
      let others ← marshalFrom (index + 1) rest
      pure (first :: others)

/-- Marshals an argument list. A wrong number of arguments is reported before any
of them is looked at. -/
def marshalAll (parameters : List Ty) (arguments : List Value) :
    Except Failure (List Host.Value) :=
  if parameters.length = arguments.length then marshalFrom 0 (parameters.zip arguments)
  else .error (.arity parameters.length arguments.length)

end Native.Value

end Interception

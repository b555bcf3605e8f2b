import Interception.Kind
import Interception.Native.Object
import Interception.Native.Ty

/-!
# Native values

Arguments and results as the native caller sees them, the numbers they stand
for, and their equality. Equality is numerical on floats and by instance on
objects, so it is not reflexive: nothing that holds a `nan` equals itself.
-/

set_option autoImplicit false

namespace Interception.Native

inductive Value where
  | null
  | boolean (value : Bool)
  | integer (width : Width) (value : SizedInt width)
  | float (precision : Precision) (value : Binary precision)
  | char (value : Char)
  | string (value : String)
  | array (items : List Value)
  | object (reference : Object)
  deriving Repr

instance : Inhabited Value := ⟨.null⟩

namespace Value

def isNull : Value → Bool
  | .null => true
  | _ => false

def kind : Value → Kind
  | .null => .null
  | .boolean _ => .boolean
  | .integer .byte _ => .byte
  | .integer .short _ => .short
  | .integer .int _ => .int
  | .integer .long _ => .long
  | .float .single _ => .float
  | .float .double _ => .double
  | .char _ => .char
  | .string _ => .string
  | .array _ => .array
  | .object _ => .object

def toInt? : Value → Option Int
  | .integer _ value => some value.toInt
  | _ => none

/-- The double nearest to a numeric value. A single is widened exactly, an
integer rounded to even. -/
def toDouble? : Value → Option Binary64
  | .integer _ value => some (Binary.ofInt value.toInt)
  | .float .single value => some value.convert
  | .float .double value => some value
  | _ => none

def toString? : Value → Option String
  | .string value => some value
  | _ => none

/-- The value wrapped in as many one-element arrays as `depth` says. -/
def nested (value : Value) : Nat → Value
  | 0 => value
  | depth + 1 => .array [nested value depth]

mutual

def equals : Value → Value → Bool
  | .null, .null => true
  | .boolean left, .boolean right => left == right
  | .integer leftWidth left, .integer rightWidth right =>
      leftWidth == rightWidth && left.toInt == right.toInt
  | .float .single left, .float .single right => left == right
  | .float .double left, .float .double right => left == right
  | .char left, .char right => left == right
  | .string left, .string right => left == right
  | .array left, .array right => equalsAll left right
  | .object left, .object right => left == right
  | _, _ => false

def equalsAll : List Value → List Value → Bool
  | [], [] => true
  | left :: lefts, right :: rights => left.equals right && equalsAll lefts rights
  | _, _ => false

end

instance : BEq Value := ⟨equals⟩

end Value

/-- The zero of a declared type: null where null is a value of the type. -/
def Ty.zero : Ty → Value
  | .boolean => .boolean false
  | .integer width => .integer width .zero
  | .float precision => .float precision .zero
  | .char => .char '\x00'
  | .void | .string | .object _ | .array _ => .null

end Interception.Native

import Interception.Kind
import Interception.Native.Object
import Interception.Number.Binary
import Interception.Number.Integer

/-!
# Host values

The host is dynamically typed. Its numbers are doubles, with a separate integer
for longs that a double might not hold; native instances appear wrapped and are
never taken apart.
-/

set_option autoImplicit false

namespace Interception.Host

structure Handle where
  raw : UInt64
  deriving DecidableEq, Repr

namespace Handle

def name (handle : Handle) : String :=
  "callback#" ++ handle.raw.toNat.repr

def compare (left right : Handle) : Ordering :=
  Ord.compare left.raw right.raw

end Handle

structure ObjectId where
  raw : UInt64
  deriving DecidableEq, Repr

def ObjectId.compare (left right : ObjectId) : Ordering :=
  Ord.compare left.raw right.raw

inductive Value where
  | undefined
  | null
  | boolean (value : Bool)
  | number (value : Binary64)
  | bigint (value : SizedInt .long)
  | string (value : String)
  | array (items : List Value)
  | callback (handle : Handle)
  | object (id : ObjectId)
  | wrapped (reference : Native.Object)
  deriving Repr

instance : Inhabited Value := ⟨.undefined⟩

namespace Value

def kind : Value → Kind
  | .undefined => .undefined
  | .null => .null
  | .boolean _ => .boolean
  | .number _ => .number
  | .bigint _ => .bigint
  | .string _ => .string
  | .array _ => .array
  | .callback _ => .function
  | .object _ => .object
  | .wrapped _ => .wrapped

def isNullish : Value → Bool
  | .undefined | .null => true
  | _ => false

def callback? : Value → Option Handle
  | .callback handle => some handle
  | _ => none

/-- The number of an integer, ties to even. -/
def ofInt (integer : Int) : Value :=
  .number (Binary.ofInt integer)

/-- The value wrapped in as many one-element arrays as `depth` says. -/
def nested (value : Value) : Nat → Value
  | 0 => value
  | depth + 1 => .array [nested value depth]

mutual

/-- Numbers compare numerically, wrapped instances by identity. -/
def equals : Value → Value → Bool
  | .undefined, .undefined => true
  | .null, .null => true
  | .boolean left, .boolean right => left == right
  | .number left, .number right => left == right
  | .bigint left, .bigint right => left.toInt == right.toInt
  | .string left, .string right => left == right
  | .array left, .array right => equalsAll left right
  | .callback left, .callback right => left == right
  | .object left, .object right => left == right
  | .wrapped left, .wrapped right => left == right
  | _, _ => false

def equalsAll : List Value → List Value → Bool
  | [], [] => true
  | left :: lefts, right :: rights => left.equals right && equalsAll lefts rights
  | _, _ => false

end

instance : BEq Value := ⟨equals⟩

end Value

end Interception.Host

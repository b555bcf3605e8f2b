import Interception.Number.Binary
import Interception.Number.Integer

/-!
# Declared types

Types that a native method declares for its parameters and its result.
-/

set_option autoImplicit false

namespace Interception.Native

inductive Ty where
  | void
  | boolean
  | integer (width : Width)
  | float (precision : Precision)
  | char
  | string
  | object (className : String)
  | array (element : Ty)
  deriving DecidableEq, Repr

namespace Ty

/-- A primitive has no null value. -/
def isPrimitive : Ty → Bool
  | .boolean | .integer _ | .float _ | .char => true
  | .void | .string | .object _ | .array _ => false

def isIntegral : Ty → Bool
  | .integer _ => true
  | _ => false

def isFloat : Ty → Bool
  | .float _ => true
  | _ => false

/-- `element` wrapped in as many arrays as `depth` says. -/
def nested (element : Ty) : Nat → Ty
  | 0 => element
  | depth + 1 => .array (nested element depth)

/-- How a type is written in messages and events. A class stands for itself, so
only the choice of class names keeps the written forms apart. -/
def name : Ty → String
  | .void => "void"
  | .boolean => "boolean"
  | .integer .byte => "byte"
  | .integer .short => "short"
  | .integer .int => "int"
  | .integer .long => "long"
  | .float .single => "float"
  | .float .double => "double"
  | .char => "char"
  | .string => "string"
  | .object className => className
  | .array element => element.name ++ "[]"

end Ty

end Interception.Native

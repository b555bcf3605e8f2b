/-!
# Kinds of values

The name under which a value of either side is reported. Both sides share one
vocabulary, because a failure names a kind without saying which side it is from.
-/

set_option autoImplicit false

namespace Interception

inductive Kind where
  | undefined
  | null
  | boolean
  | byte
  | short
  | int
  | long
  | float
  | double
  | char
  | number
  | bigint
  | string
  | array
  | function
  | object
  | wrapped
  deriving DecidableEq, Repr

def Kind.name : Kind → String
  | .undefined => "undefined"
  | .null => "null"
  | .boolean => "boolean"
  | .byte => "byte"
  | .short => "short"
  | .int => "int"
  | .long => "long"
  | .float => "float"
  | .double => "double"
  | .char => "char"
  | .number => "number"
  | .bigint => "bigint"
  | .string => "string"
  | .array => "array"
  | .function => "function"
  | .object => "object"
  | .wrapped => "wrapped"

theorem Kind.name_injective {left right : Kind} (same : left.name = right.name) :
    left = right := by
  cases left <;> cases right <;> first | rfl | (exact absurd same (by decide))

end Interception

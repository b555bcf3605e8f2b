/-!
# Native instances

An instance crosses the boundary by reference. What it holds can be looked at by
its owner only; between the two sides nothing but its identity matters.
-/

set_option autoImplicit false

namespace Interception.Native

inductive Payload where
  | number (value : UInt32)
  | text (value : String)
  deriving DecidableEq, Repr

/-- A reference to an instance. References with the same `instanceId` are to the
same instance. -/
structure Object where
  instanceId : Nat
  className : String
  payload : Payload
  deriving DecidableEq, Repr

namespace Object

def identical (left right : Object) : Bool :=
  left.instanceId == right.instanceId

/-- References are equal when they are to the same instance; class name and
payload play no part. -/
instance : BEq Object := ⟨identical⟩

theorem beq_iff {left right : Object} :
    (left == right) = true ↔ left.instanceId = right.instanceId := by
  show (left.instanceId == right.instanceId) = true ↔ _
  exact beq_iff_eq

def number? (object : Object) : Option UInt32 :=
  match object.payload with
  | .number value => some value
  | .text _ => none

def text? (object : Object) : Option String :=
  match object.payload with
  | .text value => some value
  | .number _ => none

def label (object : Object) : String :=
  "NativeObject(" ++ object.className ++ "@"

end Object

end Interception.Native

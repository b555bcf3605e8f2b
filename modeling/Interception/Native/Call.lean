import Interception.Native.Value

/-!
# Calls

What the interception mechanism hands over for one call of a proxied method, and
the declared shape of such a method.
-/

set_option autoImplicit false

namespace Interception.Native

structure Call where
  method : String
  parameters : List Ty := []
  arguments : List Value := []
  /-- The declared result type, where the interception mechanism knows it. -/
  returns : Option Ty := none
  isFinal : Bool := false
  deriving Repr

structure Signature where
  name : String
  parameters : List Ty
  returns : Ty
  isFinal : Bool := false
  deriving DecidableEq, Repr

/-- The call of a method with the given arguments. Their number and types are not
checked against the signature. -/
def Signature.call (signature : Signature) (arguments : List Value) : Call where
  method := signature.name
  parameters := signature.parameters
  arguments := arguments
  returns := some signature.returns
  isFinal := signature.isFinal

end Interception.Native

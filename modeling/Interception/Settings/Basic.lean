/-!
# Settings

How calls are treated for which no plain dispatch is prescribed.
-/

set_option autoImplicit false

namespace Interception

inductive FinalPolicy where
  | dispatch
  | ignore
  | reject
  deriving DecidableEq, Repr, Inhabited

/-- Result of a call that is not intercepted. -/
inductive DefaultResult where
  | null
  /-- The zero of the declared result type, null where none is declared. -/
  | typeDefault
  deriving DecidableEq, Repr, Inhabited

structure Settings where
  finalMethods : FinalPolicy := .dispatch
  defaultResult : DefaultResult := .null
  /-- Whether results are coerced to the declared result type, where it is known. -/
  coerceReturns : Bool := true
  deriving DecidableEq, Repr

instance : Inhabited Settings := ⟨{}⟩

def FinalPolicy.name : FinalPolicy → String
  | .dispatch => "dispatch"
  | .ignore => "ignore"
  | .reject => "reject"

def DefaultResult.name : DefaultResult → String
  | .null => "null"
  | .typeDefault => "type_default"

end Interception
